import ControlPlane.Error

/-!
# Guest pages

An address is written in hexadecimal after `0x` or in plain decimal.  It is
shown in lowercase hexadecimal without leading zeros, so texts of one address
have one shown form.

A page directory knows who owns a guest page and how hot it is.  The control
plane only fixes the shape of the question and of the answer; until a real
directory is attached every page is unowned and cold.
-/

namespace ControlPlane

/-! ## Addresses -/

/-- A guest physical address. -/
structure Address where
  value : UInt64
deriving Repr, DecidableEq

namespace Address

/-- The size of a guest page in bytes. -/
def pageSize : UInt64 := 4096

/-- The number of the page that holds an address. -/
def pageFrame (a : Address) : UInt64 :=
  a.value / pageSize

/-- The number that a text of an address denotes.  A text that begins with `0x`
is hexadecimal, any other one decimal; both need at least one digit and allow
leading zeros, but no signs, blanks or separators. -/
def number? : List Char → Option Nat
  | '0' :: 'x' :: digits => Text.hexValue? digits
  | digits => Text.decimalValue? digits

/-- Reads an address.  Numbers of more than 64 bits are no addresses. -/
def ofText (s : String) : Except Error Address :=
  match number? s.toList with
  | some n => if n < UInt64.size then .ok ⟨.ofNat n⟩ else .error (.malformedAddress s)
  | none => .error (.malformedAddress s)

/-- The shown form of an address. -/
def display (a : Address) : String :=
  String.ofList ('0' :: 'x' :: Text.hex a.value.toNat)

/-- Inserts an address into a list without repetitions that ascends. -/
def insert (a : Address) : List Address → List Address
  | [] => [a]
  | b :: rest =>
      if a.value < b.value then a :: b :: rest
      else if a = b then b :: rest
      else b :: insert a rest

/-- The addresses of a list in ascending order, each one once. -/
def sort (as : List Address) : List Address :=
  as.foldr insert []

/-- Reads texts and gives the shown forms of their addresses in ascending order,
each one once.  The first text that is no address is the error. -/
def sortTexts (texts : List String) : Except Error (List String) := do
  let addresses ← texts.mapM ofText
  return (sort addresses).map display

end Address

/-! ## The directory -/

/-- Who owns a guest page and how hot it is. -/
structure PageInfo where
  address : Address
  ownerNode : UInt32
  /-- The access frequency that migration goes by. -/
  heat : UInt32
  accessCount : UInt64
  migrationCount : UInt64
deriving Repr, DecidableEq

/-- Answers for every address. -/
abbrev PageDirectory :=
  Address → PageInfo

/-- A page nobody has touched yet. -/
def PageInfo.unassigned (a : Address) : PageInfo where
  address := a
  ownerNode := 0
  heat := 0
  accessCount := 0
  migrationCount := 0

/-- The directory in which every page is unowned and cold. -/
def PageDirectory.unassigned : PageDirectory :=
  PageInfo.unassigned

end ControlPlane
