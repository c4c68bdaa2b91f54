import ControlPlane.Text.Basic

/-!
# The tokens of a TOML text

`Token.scan` cuts a text into tokens, `spellText` writes a text between quotes.
The scanner is an automaton that takes the text one character at a time; the
first character that cannot belong to a TOML text becomes the token `fault`.

Blanks and comments leave no token.  Two of their effects are kept: whether a
bracket stands directly after another one, and whether a date and a time are
divided by a single space, in which case they are one word.
-/

namespace ControlPlane.Toml

/-- The smallest parts of a TOML text. -/
inductive Token
  /-- A run of letters, digits and the marks that numbers, times and bare keys
  are made of. -/
  | word (letters : List Char)
  /-- A text between quotes, which may go over several lines. -/
  | text (content : String) (multiline : Bool)
  | equals
  | comma
  /-- An opening bracket; does it stand directly after another one? -/
  | openBracket (joined : Bool)
  /-- A closing bracket; does it stand directly after another one? -/
  | closeBracket (joined : Bool)
  | openBrace
  | closeBrace
  | newline
  /-- The text breaks off or goes on with something that is no token. -/
  | fault
deriving Repr, DecidableEq

/-! ## Characters -/

/-- A character of a bare key. -/
def isBareKeyChar (c : Char) : Bool :=
  c.isAlphanum || c = '_' || c = '-'

/-- A character of a word. -/
def isWordChar (c : Char) : Bool :=
  isBareKeyChar c || c = '+' || c = '.' || c = ':'

/-- A control character that may not stand within a line. -/
def isBarred (c : Char) : Bool :=
  (c.toNat < 0x20 && c ≠ '\t') || c.toNat = 0x7F

/-- The text with every pair of carriage return and newline made one newline. -/
def unifyLines : List Char → List Char
  | '\r' :: '\n' :: rest => '\n' :: unifyLines rest
  | c :: rest => c :: unifyLines rest
  | [] => []

/-- The text without the mark of its byte order. -/
def dropByteOrderMark : List Char → List Char
  | '\uFEFF' :: rest => rest
  | s => s

/-! ## Quotes -/

/-- The two kinds of quotes. -/
inductive Quote
  /-- Double quotes; backslashes begin escapes. -/
  | basic
  /-- Single quotes; every character stands for itself. -/
  | literal
deriving Repr, DecidableEq

/-- The character of a quote. -/
def Quote.mark : Quote → Char
  | basic => '"'
  | literal => '\''

/-- The character that a backslash and `c` stand for. -/
def simpleEscape? (c : Char) : Option Char :=
  if c = '"' ∨ c = '\\' then some c
  else if c = 'b' then some '\x08'
  else if c = 'e' then some '\x1b'
  else if c = 'f' then some '\x0c'
  else if c = 'n' then some '\n'
  else if c = 'r' then some '\r'
  else if c = 't' then some '\t'
  else none

/-- How many hexadecimal digits follow a backslash and `c`. -/
def unitDigits? (c : Char) : Option Nat :=
  if c = 'x' then some 2
  else if c = 'u' then some 4
  else if c = 'U' then some 8
  else none

/-- The escape of a character between double quotes: quotes, backslashes and
barred characters have one, every other character stands for itself. -/
def escapeChar (c : Char) : List Char :=
  if c = '"' then ['\\', '"']
  else if c = '\\' then ['\\', '\\']
  else if isBarred c then
    ['\\', 'u', '0', '0', Nat.digitChar (c.toNat / 16), Nat.digitChar (c.toNat % 16)]
  else [c]

/-- A text between double quotes, on one line. -/
def spellText (s : String) : List Char :=
  '"' :: s.toList.flatMap escapeChar ++ ['"']

/-! ## Words -/

/-- Is a word a date, as far as its shape goes? -/
def isDateShaped : List Char → Bool
  | [a, b, c, d, '-', e, f, '-', g, h] => [a, b, c, d, e, f, g, h].all Text.isDecimal
  | _ => false

/-! ## The scanner -/

/-- What the scanner is in the middle of.  Characters of words and texts come
with the newest first. -/
inductive Mode
  /-- Between tokens, directly after a bracket if one is given. -/
  | between (bracket : Option Char)
  | comment
  | word (letters : List Char)
  /-- After a date and a single space. -/
  | dated (letters : List Char)
  /-- After one quote. -/
  | quoted (q : Quote)
  /-- After two quotes with nothing between them. -/
  | quotedTwice (q : Quote)
  | text (q : Quote) (content : List Char)
  /-- After three quotes; a newline here does not count. -/
  | opened (q : Quote)
  | lines (q : Quote) (content : List Char)
  /-- After `count` quotes within a text of several lines. -/
  | marks (q : Quote) (content : List Char) (count : Nat)
  | escape (multiline : Bool) (content : List Char)
  /-- After an escape of which `left + 1` hexadecimal digits are due. -/
  | unit (multiline : Bool) (content : List Char) (value left : Nat)
  /-- After a backslash and blanks; the end of the line is due. -/
  | ending (content : List Char)
  /-- After a backslash at the end of a line; blanks and newlines do not count. -/
  | trimming (content : List Char)
  | stopped
deriving Repr, DecidableEq

namespace Mode

/-- The scanner gives up. -/
def fail : List Token × Mode :=
  ([.fault], .stopped)

/-- The token of a word. -/
def wordToken (letters : List Char) : Token :=
  .word letters.reverse

/-- The token of a text. -/
def textToken (content : List Char) (multiline : Bool) : Token :=
  .text (String.ofList content.reverse) multiline

/-- A text goes on. -/
def within (multiline : Bool) (content : List Char) : Mode :=
  if multiline then lines .basic content else text .basic content

/-- A character after which a new token begins. -/
def start (bracket : Option Char) (c : Char) : List Token × Mode :=
  if c = ' ' ∨ c = '\t' then ([], between none)
  else if c = '\n' then ([.newline], between none)
  else if c = '#' then ([], comment)
  else if c = '"' then ([], quoted .basic)
  else if c = '\'' then ([], quoted .literal)
  else if c = '=' then ([.equals], between none)
  else if c = ',' then ([.comma], between none)
  else if c = '[' then ([.openBracket (bracket = some c)], between (some c))
  else if c = ']' then ([.closeBracket (bracket = some c)], between (some c))
  else if c = '{' then ([.openBrace], between none)
  else if c = '}' then ([.closeBrace], between none)
  else if isWordChar c then ([], word [c])
  else fail

/-- A token ends before a character. -/
def endBefore (token : Token) (c : Char) : List Token × Mode :=
  (token :: (start none c).1, (start none c).2)

/-- A character of a text on one line. -/
def inText (q : Quote) (content : List Char) (c : Char) : List Token × Mode :=
  if c = q.mark then ([textToken content false], between none)
  else if c = '\\' ∧ q = .basic then ([], escape false content)
  else if isBarred c then fail
  else ([], text q (c :: content))

/-- A character of a text of several lines. -/
def inLines (q : Quote) (content : List Char) (c : Char) : List Token × Mode :=
  if c = q.mark then ([], marks q content 1)
  else if c = '\\' ∧ q = .basic then ([], escape true content)
  else if isBarred c ∧ c ≠ '\n' then fail
  else ([], lines q (c :: content))

/-- A text with quotes at its end. -/
def withMarks (q : Quote) (content : List Char) (count : Nat) : List Char :=
  List.replicate count q.mark ++ content

/-- The scanner takes one character. -/
def step : Mode → Char → List Token × Mode
  | between bracket, c => start bracket c
  | comment, c =>
      if c = '\n' then ([.newline], between none)
      else if isBarred c then fail
      else ([], comment)
  | word letters, c =>
      if isWordChar c then ([], word (c :: letters))
      else if c = ' ' ∧ isDateShaped letters.reverse then ([], dated letters)
      else endBefore (wordToken letters) c
  | dated letters, c =>
      if Text.isDecimal c then ([], word (c :: ' ' :: letters))
      else endBefore (wordToken letters) c
  | quoted q, c => if c = q.mark then ([], quotedTwice q) else inText q [] c
  | quotedTwice q, c =>
      if c = q.mark then ([], opened q) else endBefore (textToken [] false) c
  | text q content, c => inText q content c
  | opened q, c => if c = '\n' then ([], lines q []) else inLines q [] c
  | lines q content, c => inLines q content c
  | marks q content count, c =>
      if c = q.mark then
        if count < 4 then ([], marks q content (count + 1))
        else ([textToken (withMarks q content 2) true], between none)
      else if count < 3 then inLines q (withMarks q content count) c
      else endBefore (textToken (withMarks q content (count - 3)) true) c
  | escape multiline content, c =>
      match simpleEscape? c, unitDigits? c with
      | some meant, _ => ([], within multiline (meant :: content))
      | none, some digits => ([], unit multiline content 0 (digits - 1))
      | none, none =>
          if multiline ∧ (c = ' ' ∨ c = '\t') then ([], ending content)
          else if multiline ∧ c = '\n' then ([], trimming content)
          else fail
  | unit multiline content value left, c =>
      match Text.hexDigit? c, left with
      | none, _ => fail
      | some d, left + 1 => ([], unit multiline content (value * 16 + d) left)
      | some d, 0 =>
          if (value * 16 + d).isValidChar then
            ([], within multiline (Char.ofNat (value * 16 + d) :: content))
          else fail
  | ending content, c =>
      if c = ' ' ∨ c = '\t' then ([], ending content)
      else if c = '\n' then ([], trimming content)
      else fail
  | trimming content, c =>
      if c = ' ' ∨ c = '\t' ∨ c = '\n' then ([], trimming content)
      else inLines .basic content c
  | stopped, _ => ([], stopped)

/-- What is left when the text ends. -/
def finish : Mode → List Token
  | between _ | comment | stopped => []
  | word letters | dated letters => [wordToken letters]
  | quotedTwice _ => [textToken [] false]
  | marks q content count =>
      if count < 3 then [.fault] else [textToken (withMarks q content (count - 3)) true]
  | quoted _ | text _ _ | opened _ | lines _ _ | escape _ _ | unit _ _ _ _ | ending _
  | trimming _ => [.fault]

/-- The tokens of a text that goes on in this mode. -/
def run : Mode → List Char → List Token
  | mode, [] => mode.finish
  | mode, c :: rest => (mode.step c).1 ++ run (mode.step c).2 rest

end Mode

/-- The tokens of a text. -/
def Token.scan (s : List Char) : List Token :=
  (Mode.between none).run (unifyLines (dropByteOrderMark s))

end ControlPlane.Toml
