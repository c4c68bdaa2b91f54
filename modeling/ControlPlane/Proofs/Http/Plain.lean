import ControlPlane.Http.Percent
import ControlPlane.Http.Target
import Mathlib.Data.String.Basic

/-!
# Plain targets

A path of characters that mean nothing in a target is the path of the target that
spells it, if it is not too long.  A text without percent signs stands for itself.
-/

namespace ControlPlane.Http

namespace Target

/-- A character that may stand in a path and ends neither it nor the target. -/
def isPlain (c : Char) : Bool :=
  !isBarredInPath c && c ≠ '#' && c ≠ '?'

theorem pathPart?_of_plain {s : List Char} (plain : s.all isPlain = true) :
    pathPart? s = some s := by
  induction s with
  | nil => rfl
  | cons c rest ih =>
      simp only [List.all_cons, isPlain, Bool.and_eq_true, Bool.not_eq_true',
        decide_eq_true_eq] at plain
      obtain ⟨⟨⟨allowed, notHash⟩, notMark⟩, others⟩ := plain
      rw [pathPart?, allowed, ih others]
      · rfl
      · exact notHash
      · exact notMark

/-- No character takes more than four octets. -/
theorem utf8ByteSize_ofList_le (s : List Char) :
    (String.ofList s).utf8ByteSize ≤ 4 * s.length := by
  induction s with
  | nil => exact Nat.le_refl _
  | cons c rest ih =>
      have octets := c.utf8Size_le_four
      rw [String.utf8ByteSize_ofList] at ih ⊢
      rw [String.utf8Len_cons, List.length_cons]
      omega

/-- A short path of plain characters is the path of the target that spells it. -/
theorem path?_ofList_of_plain {rest : List Char} (plain : rest.all isPlain = true)
    (short : 4 * (rest.length + 1) ≤ lengthLimit) :
    path? (String.ofList ('/' :: rest)) = some ('/' :: rest) := by
  have bounded := Nat.le_trans (utf8ByteSize_ofList_le ('/' :: rest)) short
  have whole : ('/' :: rest).all isPlain = true := by
    rw [List.all_cons, plain]
    rfl
  rw [path?, if_neg (Nat.not_lt.mpr bounded), String.toList_ofList]
  exact pathPart?_of_plain whole

end Target

namespace Percent

theorem pieces_of_not_mem {s : List Char} (unescaped : '%' ∉ s) :
    pieces s = s.map Piece.char := by
  induction s with
  | nil => rfl
  | cons c rest ih =>
      rw [List.mem_cons, not_or] at unescaped
      have others := ih unescaped.2
      have notPercent : (c == '%') = false := beq_false_of_ne (Ne.symm unescaped.1)
      match rest, others with
      | [], _ => rfl
      | [_], _ => rfl
      | a :: b :: more, others =>
          rw [pieces, notPercent, others]
          rfl

theorem assemble_map_char (s : List Char) : assemble (s.map Piece.char) = some s := by
  induction s with
  | nil => rfl
  | cons c rest ih => rw [List.map_cons, assemble, ih, Option.map_some]

/-- A text without percent signs stands for itself. -/
theorem decode?_of_not_mem {s : List Char} (unescaped : '%' ∉ s) : decode? s = some s := by
  rw [decode?, pieces_of_not_mem unescaped, assemble_map_char]

end Percent

end ControlPlane.Http
