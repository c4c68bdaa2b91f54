import ControlPlane.Proofs.Cluster.Lookup
import Mathlib.Algebra.Ring.Nat

/-!
# Tables under insertion and erasure

Insertions and erasures of different ids do not interfere, and of two at one id
the later decides.  A table is one of its entries and the rest, in some order;
hence a sum over its values changes by the value that is inserted less the value
that it replaces or that is erased (`sum_insert`, `sum_erase`), and so does its
size.
-/

namespace ControlPlane.IdMap

variable {α β : Type} (m : IdMap α)

/-! ## One operation after another -/

theorem insert_comm {id other : UInt32} (ne : id ≠ other) (x y : α) :
    (m.insert id x).insert other y = (m.insert other y).insert id x := by
  apply ext_get?
  intro third
  simp only [get?_insert]
  by_cases own : third = other
  · simp [own, Ne.symm ne]
  · simp [own]

theorem erase_insert_self (id : UInt32) (x : α) : (m.insert id x).erase id = m.erase id := by
  apply ext_get?
  intro other
  rw [get?_erase, get?_erase, get?_insert]
  split <;> rfl

theorem erase_insert_of_ne {id other : UInt32} (ne : other ≠ id) (x : α) :
    (m.insert other x).erase id = (m.erase id).insert other x := by
  apply ext_get?
  intro third
  rw [get?_erase, get?_insert, get?_insert, get?_erase]
  by_cases own : third = other
  · simp [own, ne]
  · simp [own]

theorem erase_erase_self (id : UInt32) : (m.erase id).erase id = m.erase id := by
  apply ext_get?
  intro other
  rw [get?_erase, get?_erase]
  split <;> rfl

theorem erase_comm (id other : UInt32) :
    (m.erase other).erase id = (m.erase id).erase other := by
  apply ext_get?
  intro third
  simp only [get?_erase]
  split <;> split <;> rfl

theorem erase_of_absent {id : UInt32} (absent : m.get? id = none) : m.erase id = m := by
  apply ext_get?
  intro other
  rw [get?_erase]
  split
  · next own => rw [own, absent]
  · rfl

/-- If every value carries its own id, erasing an id is leaving out its value. -/
theorem values_erase (key : α → UInt32) (own : ∀ id x, m.get? id = some x → key x = id)
    (id : UInt32) : (m.erase id).values = m.values.filter fun x => key x ≠ id := by
  rw [values, values, List.filter_map]
  apply congrArg (List.map Prod.snd)
  apply List.filter_congr
  rintro ⟨other, x⟩ entryMem
  have keyEq : key x = other := own other x (m.get?_eq_some_iff.mpr entryMem)
  simp [keyEq]

/-! ## One entry and the rest -/

theorem nodup_entries : m.entries.Nodup :=
  m.ascending.imp fun below same => UInt32.ne_of_lt below (congrArg Prod.fst same)

/-- A table consists of an entry and of what is left when the entry is erased. -/
theorem perm_entries_of_get? {id : UInt32} {x : α} (found : m.get? id = some x) :
    m.entries.Perm ((id, x) :: (m.erase id).entries) := by
  have erased : (id, x) ∉ (m.erase id).entries := by
    rw [← get?_eq_some_iff, get?_erase, if_pos rfl]
    exact (Option.some_ne_none x).symm
  rw [List.perm_ext_iff_of_nodup m.nodup_entries
    (List.nodup_cons.mpr ⟨erased, (m.erase id).nodup_entries⟩)]
  rintro ⟨other, y⟩
  rw [List.mem_cons, ← get?_eq_some_iff, ← get?_eq_some_iff, get?_erase]
  by_cases own : other = id
  · subst own
    simp [found, eq_comm]
  · simp [own]

/-! ## Sums -/

/-- The sum of an amount over the values of a table. -/
def sum (amount : α → Nat) (m : IdMap α) : Nat :=
  (m.values.map amount).sum

theorem sum_of_get? (amount : α → Nat) {id : UInt32} {x : α} (found : m.get? id = some x) :
    m.sum amount = amount x + (m.erase id).sum amount := by
  have same := ((m.perm_entries_of_get? found).map Prod.snd).map amount
  simpa [sum, values] using same.sum_nat

/-- Erasing an id takes the amount of its value away. -/
theorem sum_erase (amount : α → Nat) (id : UInt32) :
    (m.erase id).sum amount + (m.get? id).elim 0 amount = m.sum amount := by
  cases found : m.get? id with
  | none => rw [m.erase_of_absent found, Option.elim_none, Nat.add_zero]
  | some x => rw [m.sum_of_get? amount found, Option.elim_some, Nat.add_comm]

/-- Inserting a value adds its amount, in place of that of the value it replaces. -/
theorem sum_insert (amount : α → Nat) (id : UInt32) (x : α) :
    (m.insert id x).sum amount + (m.get? id).elim 0 amount = m.sum amount + amount x := by
  have found : (m.insert id x).get? id = some x := by rw [get?_insert, if_pos rfl]
  have inserted := (m.insert id x).sum_of_get? amount found
  rw [m.erase_insert_self] at inserted
  have erased := m.sum_erase amount id
  omega

@[simp]
theorem sum_zero : m.sum (fun _ => 0) = 0 := by
  rw [sum, List.map_const', List.sum_replicate_nat, Nat.mul_zero]

/-! ## Sizes -/

theorem length_ids : m.ids.length = m.size :=
  List.length_map ..

theorem length_values : m.values.length = m.size :=
  List.length_map ..

/-- The size of a table is the sum of one for each value. -/
theorem sum_one : m.sum (fun _ => 1) = m.size := by
  rw [sum, List.map_const', List.sum_replicate_nat, Nat.mul_one, length_values]

private theorem elim_get?_one (id : UInt32) :
    ((m.get? id).elim 0 fun _ => 1) = (m.contains id).toNat := by
  rw [contains]
  cases m.get? id <;> rfl

/-- Inserting makes a table larger by one, unless it replaces a value. -/
theorem size_insert (id : UInt32) (x : α) :
    (m.insert id x).size + (m.contains id).toNat = m.size + 1 := by
  have inserted := m.sum_insert (fun _ => 1) id x
  rwa [sum_one, sum_one, elim_get?_one] at inserted

/-- Erasing makes a table smaller by one, if there is something to erase. -/
theorem size_erase (id : UInt32) : (m.erase id).size + (m.contains id).toNat = m.size := by
  have erased := m.sum_erase (fun _ => 1) id
  rwa [sum_one, sum_one, elim_get?_one] at erased

/-- If no value counts for more than a bound, the sum is at most the bound for each. -/
theorem sum_le {amount : α → Nat} {bound : Nat} (within : ∀ x, amount x ≤ bound) :
    m.sum amount ≤ m.size * bound := by
  rw [sum, ← length_values]
  induction m.values with
  | nil => simp
  | cons x rest ih =>
      have first := within x
      rw [List.map_cons, List.sum_cons, List.length_cons, Nat.succ_mul]
      omega

/-- A table whose ids are all in another is no larger. -/
theorem size_le_size {m : IdMap α} {n : IdMap β}
    (inside : ∀ id, m.contains id = true → n.contains id = true) : m.size ≤ n.size := by
  have subset : m.ids ⊆ n.ids := fun id idMem =>
    n.mem_ids_iff.mpr (inside id (m.mem_ids_iff.mp idMem))
  rw [← length_ids, ← length_ids]
  exact m.nodup_ids.length_le_of_subset subset

/-- A table has at most as many entries as there are ids. -/
theorem size_le : m.size ≤ UInt32.size := by
  have distinct : (m.ids.map UInt32.toNat).Nodup :=
    List.pairwise_map.mpr (m.nodup_ids.imp fun ne same => ne (UInt32.toNat_inj.mp same))
  have subset : m.ids.map UInt32.toNat ⊆ List.range UInt32.size := by
    intro n nMem
    obtain ⟨id, -, rfl⟩ := List.mem_map.mp nMem
    exact List.mem_range.mpr id.toNat_lt
  calc
    m.size = (m.ids.map UInt32.toNat).length := by rw [List.length_map, length_ids]
    _ ≤ (List.range UInt32.size).length := distinct.length_le_of_subset subset
    _ = UInt32.size := List.length_range

end ControlPlane.IdMap
