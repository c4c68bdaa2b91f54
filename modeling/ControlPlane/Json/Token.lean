import ControlPlane.Number.Decimal
import ControlPlane.Text.Basic

/-!
# The tokens of a JSON text

`Token.spell` writes a token and `Token.scan` cuts a text into tokens, skipping
the blanks between them.  The scanner is an automaton that takes the text one
character at a time; the first character that cannot belong to a JSON text
becomes the token `fault`, which is always the last one.

A text token holds the characters that its escapes stand for.  Escapes of
surrogates denote a character only in pairs, so a text with a lone surrogate is
a token too, but one without a string.
-/

namespace ControlPlane.Json

open ControlPlane.Number (Numeral)

/-- The smallest parts of a JSON text. -/
inductive Token
  | openBrace
  | closeBrace
  | openBracket
  | closeBracket
  | comma
  | colon
  | null
  | bool (value : Bool)
  | number (numeral : Numeral)
  /-- A text; `none` if it holds a lone surrogate. -/
  | text (content : Option String)
  /-- The text breaks off or goes on with something that is no token. -/
  | fault
deriving Repr, DecidableEq

/-! ## Spelling -/

/-- The escape of a character inside a text: quotes, backslashes and control
characters have one, every other character stands for itself. -/
def escapeChar (c : Char) : List Char :=
  if c = '"' then ['\\', '"']
  else if c = '\\' then ['\\', '\\']
  else if c = '\x08' then ['\\', 'b']
  else if c = '\x0c' then ['\\', 'f']
  else if c = '\n' then ['\\', 'n']
  else if c = '\r' then ['\\', 'r']
  else if c = '\t' then ['\\', 't']
  else if c.toNat < 0x20 then
    ['\\', 'u', '0', '0', Nat.digitChar (c.toNat / 16), Nat.digitChar (c.toNat % 16)]
  else [c]

/-- A text between quotes. -/
def spellText (s : String) : List Char :=
  '"' :: s.toList.flatMap escapeChar ++ ['"']

namespace Token

/-- The characters of a token.  A lone surrogate and a fault have none. -/
def spell : Token → List Char
  | openBrace => ['{']
  | closeBrace => ['}']
  | openBracket => ['[']
  | closeBracket => [']']
  | comma => [',']
  | colon => [':']
  | null => ['n', 'u', 'l', 'l']
  | bool true => ['t', 'r', 'u', 'e']
  | bool false => ['f', 'a', 'l', 's', 'e']
  | number n => n.spell
  | text (some s) => spellText s
  | text none => []
  | fault => []

end Token

/-! ## Scanning texts -/

/-- What a text is made of: characters, and code units written as `\uXXXX`. -/
inductive Piece
  | char (c : Char)
  | unit (value : Nat)
deriving Repr, DecidableEq

/-- Is a code unit the first half of a pair? -/
def isHighSurrogate (n : Nat) : Bool :=
  0xD800 ≤ n && n < 0xDC00

/-- Is a code unit the second half of a pair? -/
def isLowSurrogate (n : Nat) : Bool :=
  0xDC00 ≤ n && n < 0xE000

/-- The character that a pair of surrogates denotes. -/
def pairedChar (high low : Nat) : Char :=
  Char.ofNat (0x10000 + (high - 0xD800) * 0x400 + (low - 0xDC00))

/-- The characters of a text, unless it holds a lone surrogate. -/
def joinPieces : List Piece → Option (List Char)
  | [] => some []
  | .char c :: rest => (joinPieces rest).map (c :: ·)
  | .unit high :: .unit low :: rest =>
      if isHighSurrogate high && isLowSurrogate low then
        (joinPieces rest).map (pairedChar high low :: ·)
      else if isHighSurrogate high || isLowSurrogate high then none
      else (joinPieces (.unit low :: rest)).map (Char.ofNat high :: ·)
  | .unit value :: rest =>
      if isHighSurrogate value || isLowSurrogate value then none
      else (joinPieces rest).map (Char.ofNat value :: ·)

/-- The character that a backslash and `c` stand for. -/
def simpleEscape? (c : Char) : Option Char :=
  if c = '"' ∨ c = '\\' ∨ c = '/' then some c
  else if c = 'b' then some '\x08'
  else if c = 'f' then some '\x0c'
  else if c = 'n' then some '\n'
  else if c = 'r' then some '\r'
  else if c = 't' then some '\t'
  else none

/-! ## Scanning numerals -/

/-- How far a numeral has been read. -/
inductive Stage
  /-- After the sign; a digit is due. -/
  | minus
  /-- After a leading zero, which no digit may follow. -/
  | zero
  | whole
  /-- After the point; a digit is due. -/
  | point
  | fraction
  /-- After the exponent mark; a sign or a digit is due. -/
  | mark
  /-- After the exponent's sign; a digit is due. -/
  | markSign
  | power
deriving Repr, DecidableEq

/-- May a numeral end at this stage? -/
def Stage.isComplete : Stage → Bool
  | zero | whole | fraction | power => true
  | minus | point | mark | markSign => false

/-- A digit after the point. -/
def addFraction (n : Numeral) (digit : Nat) : Numeral :=
  { n with fraction := some (n.fraction.getD [] ++ [digit]) }

/-- A digit of the exponent. -/
def addPower (n : Numeral) (digit : Nat) : Numeral :=
  let (negative, digits) := n.exponent.getD (false, [])
  { n with exponent := some (negative, digits ++ [digit]) }

/-- A digit before the point. -/
def addWhole (n : Numeral) (digit : Nat) : Numeral :=
  { n with whole := n.whole ++ [digit] }

/-- The numeral after one more character, if the character continues it. -/
def extend? (n : Numeral) (stage : Stage) (c : Char) : Option (Numeral × Stage) :=
  match stage, Text.decimalDigit? c with
  | .minus, some 0 => some (addWhole n 0, .zero)
  | .minus, some d => some (addWhole n d, .whole)
  | .whole, some d => some (addWhole n d, .whole)
  | .point, some d => some (addFraction n d, .fraction)
  | .fraction, some d => some (addFraction n d, .fraction)
  | .mark, some d => some (addPower n d, .power)
  | .markSign, some d => some (addPower n d, .power)
  | .power, some d => some (addPower n d, .power)
  | .zero, none | .whole, none =>
      if c = '.' then some (n, .point)
      else if c = 'e' ∨ c = 'E' then some (n, .mark)
      else none
  | .fraction, none => if c = 'e' ∨ c = 'E' then some (n, .mark) else none
  | .mark, none =>
      if c = '+' then some (n, .markSign)
      else if c = '-' then some ({ n with exponent := some (true, []) }, .markSign)
      else none
  | _, _ => none

/-- May a numeral end before this character?  A leading zero may not be
followed by a digit. -/
def endsBefore (stage : Stage) (c : Char) : Bool :=
  stage.isComplete && !(stage == .zero && Text.isDecimal c)

/-! ## The scanner -/

/-- What the scanner is in the middle of. -/
inductive Mode
  | between
  /-- The rest of the name of a constant. -/
  | word (token : Token) (next : Char) (rest : List Char)
  /-- A text; the newest piece comes first. -/
  | text (pieces : List Piece)
  | escape (pieces : List Piece)
  /-- A code unit of which `left + 1` hexadecimal digits are due. -/
  | unit (pieces : List Piece) (value left : Nat)
  | numeral (n : Numeral) (stage : Stage)
  | stopped
deriving Repr, DecidableEq

namespace Mode

/-- The numeral before its first character. -/
def emptyNumeral (negative : Bool) : Numeral :=
  { negative, whole := [], fraction := none, exponent := none }

/-- The scanner gives up. -/
def fail : List Token × Mode :=
  ([.fault], .stopped)

/-- A character after which a new token begins. -/
def start (c : Char) : List Token × Mode :=
  if c = ' ' ∨ c = '\t' ∨ c = '\n' ∨ c = '\r' then ([], between)
  else if c = '{' then ([.openBrace], between)
  else if c = '}' then ([.closeBrace], between)
  else if c = '[' then ([.openBracket], between)
  else if c = ']' then ([.closeBracket], between)
  else if c = ',' then ([.comma], between)
  else if c = ':' then ([.colon], between)
  else if c = '"' then ([], text [])
  else if c = 'n' then ([], word .null 'u' ['l', 'l'])
  else if c = 't' then ([], word (.bool true) 'r' ['u', 'e'])
  else if c = 'f' then ([], word (.bool false) 'a' ['l', 's', 'e'])
  else if c = '-' then ([], numeral (emptyNumeral true) .minus)
  else
    match extend? (emptyNumeral false) .minus c with
    | some (n, stage) => ([], numeral n stage)
    | none => fail

/-- The scanner takes one character. -/
def step : Mode → Char → List Token × Mode
  | between, c => start c
  | word token next rest, c =>
      if c = next then
        match rest with
        | [] => ([token], between)
        | following :: rest => ([], word token following rest)
      else fail
  | text pieces, c =>
      if c = '"' then
        ([.text ((joinPieces pieces.reverse).map String.ofList)], between)
      else if c = '\\' then ([], escape pieces)
      else if c.toNat < 0x20 then fail
      else ([], text (.char c :: pieces))
  | escape pieces, c =>
      match simpleEscape? c with
      | some meant => ([], text (.char meant :: pieces))
      | none => if c = 'u' then ([], unit pieces 0 3) else fail
  | unit pieces value left, c =>
      match Text.hexDigit? c, left with
      | none, _ => fail
      | some d, 0 => ([], text (.unit (value * 16 + d) :: pieces))
      | some d, left + 1 => ([], unit pieces (value * 16 + d) left)
  | numeral n stage, c =>
      match extend? n stage c with
      | some (n, stage) => ([], numeral n stage)
      | none =>
          if endsBefore stage c then (.number n :: (start c).1, (start c).2) else fail
  | stopped, _ => ([], stopped)

/-- What is left when the text ends. -/
def finish : Mode → List Token
  | between | stopped => []
  | numeral n stage => if stage.isComplete then [.number n] else [.fault]
  | word _ _ _ | text _ | escape _ | unit _ _ _ => [.fault]

/-- The tokens of a text that goes on in this mode. -/
def run : Mode → List Char → List Token
  | mode, [] => mode.finish
  | mode, c :: rest => (mode.step c).1 ++ run (mode.step c).2 rest

end Mode

/-- The tokens of a text. -/
def Token.scan (s : List Char) : List Token :=
  Mode.between.run s

end ControlPlane.Json
