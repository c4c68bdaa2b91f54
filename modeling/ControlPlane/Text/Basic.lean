/-!
# Digits, blanks and parts

Whole numbers are runs of digits: `decimal` and `hex` write a number without leading
zeros; `digitsValue?` reads any nonempty run of digits of a base, and `integerValue?`
one with a sign.  Blank characters are those with the Unicode property `White_Space`.
A text with marks in it falls into parts, one more than there are marks; parts may be
empty.
-/

namespace ControlPlane.Text

/-! ## Digits -/

/-- The value of an ASCII decimal digit. -/
def decimalDigit? (c : Char) : Option Nat :=
  if '0' ≤ c ∧ c ≤ '9' then some (c.toNat - '0'.toNat) else none

/-- The value of an ASCII hexadecimal digit of either case. -/
def hexDigit? (c : Char) : Option Nat :=
  if '0' ≤ c ∧ c ≤ '9' then some (c.toNat - '0'.toNat)
  else if 'a' ≤ c ∧ c ≤ 'f' then some (c.toNat - 'a'.toNat + 10)
  else if 'A' ≤ c ∧ c ≤ 'F' then some (c.toNat - 'A'.toNat + 10)
  else none

/-- Is `c` an ASCII decimal digit? -/
def isDecimal (c : Char) : Bool :=
  (decimalDigit? c).isSome

/-- The number that a list of digit values denotes, the first digit being the
most significant one. -/
def ofDigits (base : Nat) (digits : List Nat) : Nat :=
  digits.foldl (fun value digit => value * base + digit) 0

/-- The value of a nonempty run of digits.  Leading zeros are allowed, and
there is no upper limit. -/
def digitsValue? (digit? : Char → Option Nat) (base : Nat) (s : List Char) :
    Option Nat :=
  if s = [] then none else (s.mapM digit?).map (ofDigits base)

/-- The value of a nonempty run of decimal digits. -/
def decimalValue? (s : List Char) : Option Nat :=
  digitsValue? decimalDigit? 10 s

/-- The value of a nonempty run of hexadecimal digits. -/
def hexValue? (s : List Char) : Option Nat :=
  digitsValue? hexDigit? 16 s

/-- A sign in front of a text (is it a minus?) and the text after it.  A text
without a sign counts as one with a plus. -/
def signed : List Char → Bool × List Char
  | '-' :: rest => (true, rest)
  | '+' :: rest => (false, rest)
  | s => (false, s)

/-- The value of a run of decimal digits after a sign, if there is one. -/
def integerValue? (s : List Char) : Option Int :=
  (decimalValue? (signed s).2).map fun (n : Nat) => if (signed s).1 then -(n : Int) else n

/-- Does an integer fit into 64 bits with a sign? -/
def isInteger64 (i : Int) : Bool :=
  -9223372036854775808 ≤ i && i < 9223372036854775808

/-- A number in decimal, without leading zeros. -/
def decimal (n : Nat) : List Char :=
  Nat.toDigits 10 n

/-- A number in lowercase hexadecimal, without leading zeros. -/
def hex (n : Nat) : List Char :=
  Nat.toDigits 16 n

/-- A decimal numeral filled up on the left with zeros to a least width. -/
def padded (width n : Nat) : List Char :=
  List.replicate (width - (decimal n).length) '0' ++ decimal n

/-- A decimal numeral as a string. -/
def decimalText (n : Nat) : String :=
  String.ofList (decimal n)

/-- An integer in decimal, a minus sign in front of a negative one. -/
def integerText (i : Int) : String :=
  if i < 0 then "-" ++ decimalText i.natAbs else decimalText i.natAbs

/-! ## Blanks -/

/-- The code point ranges of the property `White_Space`, ends included. -/
def blankRanges : List (Nat × Nat) :=
  [(0x9, 0xD), (0x20, 0x20), (0x85, 0x85), (0xA0, 0xA0), (0x1680, 0x1680),
   (0x2000, 0x200A), (0x2028, 0x2029), (0x202F, 0x202F), (0x205F, 0x205F),
   (0x3000, 0x3000)]

/-- Does a code point lie in one of the listed ranges? -/
def inRanges (ranges : List (Nat × Nat)) (c : Char) : Bool :=
  ranges.any fun range => range.1 ≤ c.toNat && c.toNat ≤ range.2

/-- A blank character, in the sense of the property `White_Space`. -/
def isBlank (c : Char) : Bool :=
  inRanges blankRanges c

/-- A text without the blank characters it begins with. -/
def trimLeft (s : List Char) : List Char :=
  s.dropWhile isBlank

/-! ## Parts -/

/-- The parts of a text between its marks. -/
def cut (mark : Char) : List Char → List (List Char)
  | [] => [[]]
  | c :: rest =>
      if c = mark then [] :: cut mark rest
      else
        match cut mark rest with
        | first :: others => (c :: first) :: others
        | [] => [[c]]

end ControlPlane.Text
