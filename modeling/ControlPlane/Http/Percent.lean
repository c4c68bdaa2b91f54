import ControlPlane.Text.Basic

/-!
# Percent-encoded text

A percent sign with two hexadecimal digits stands for an octet; one without them
stands for itself.  The octets have to be the UTF-8 of some text together with
the characters between them.
-/

namespace ControlPlane.Http.Percent

/-- A part of a percent-encoded text: a character, or an octet that was written
as an escape. -/
inductive Piece
  | char (c : Char)
  | octet (value : Nat)
deriving Repr, DecidableEq

/-- Takes a text apart. -/
def pieces : List Char → List Piece
  | [] => []
  | c :: a :: b :: rest =>
      match c == '%', Text.hexDigit? a, Text.hexDigit? b with
      | true, some high, some low => .octet (high * 16 + low) :: pieces rest
      | _, _, _ => .char c :: pieces (a :: b :: rest)
  | c :: rest => .char c :: pieces rest

/-- The payload of an octet that continues a character. -/
def continuation? (octet : Nat) : Option Nat :=
  if 0x80 ≤ octet ∧ octet < 0xC0 then some (octet - 0x80) else none

/-- A code point that needs the number of octets it was given in. -/
def checked? (least codePoint : Nat) : Option Char :=
  if least ≤ codePoint ∧ codePoint.isValidChar then some (.ofNat codePoint) else none

/-- A character of two octets. -/
def two? (a b : Nat) : Option Char := do
  let b ← continuation? b
  if 0xC0 ≤ a ∧ a < 0xE0 then checked? 0x80 ((a - 0xC0) * 64 + b) else none

/-- A character of three octets. -/
def three? (a b c : Nat) : Option Char := do
  let b ← continuation? b
  let c ← continuation? c
  if 0xE0 ≤ a ∧ a < 0xF0 then checked? 0x800 (((a - 0xE0) * 64 + b) * 64 + c) else none

/-- A character of four octets. -/
def four? (a b c d : Nat) : Option Char := do
  let b ← continuation? b
  let c ← continuation? c
  let d ← continuation? d
  if 0xF0 ≤ a ∧ a < 0xF8 then
    checked? 0x10000 ((((a - 0xF0) * 64 + b) * 64 + c) * 64 + d)
  else none

/-- The characters of a text that was taken apart.  How many octets a character
has is told by the first one. -/
def assemble : List Piece → Option (List Char)
  | [] => some []
  | .char c :: rest => (assemble rest).map (c :: ·)
  | .octet a :: rest =>
      if a < 0x80 then (assemble rest).map (.ofNat a :: ·)
      else
        match rest with
        | .octet b :: rest =>
            if a < 0xE0 then (two? a b).bind fun x => (assemble rest).map (x :: ·)
            else
              match rest with
              | .octet c :: rest =>
                  if a < 0xF0 then (three? a b c).bind fun x => (assemble rest).map (x :: ·)
                  else
                    match rest with
                    | .octet d :: rest =>
                        (four? a b c d).bind fun x => (assemble rest).map (x :: ·)
                    | _ => none
              | _ => none
        | _ => none

/-- The text that a percent-encoded text stands for. -/
def decode? (s : List Char) : Option (List Char) :=
  assemble (pieces s)

end ControlPlane.Http.Percent
