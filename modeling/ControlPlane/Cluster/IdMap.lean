/-!
# Tables keyed by node ids

An `IdMap` is a list of entries whose ids strictly ascend, so every table has
one representation and two tables that answer every lookup alike are equal
(`IdMap.ext_get?`).  Each operation has one equation that says what it does to
lookups.
-/

namespace ControlPlane

/-- A table keyed by node ids, in ascending order. -/
structure IdMap (α : Type) where
  entries : List (UInt32 × α)
  ascending : entries.Pairwise fun a b => a.1 < b.1

namespace IdMap

variable {α : Type}

/-- The table without entries. -/
def empty : IdMap α :=
  ⟨[], .nil⟩

/-- The value of an id in a list of entries. -/
def lookupEntry (id : UInt32) : List (UInt32 × α) → Option α
  | [] => none
  | (key, x) :: rest => if id = key then some x else lookupEntry id rest

/-- The value of an id. -/
def get? (m : IdMap α) (id : UInt32) : Option α :=
  lookupEntry id m.entries

/-- Has the id a value? -/
def contains (m : IdMap α) (id : UInt32) : Bool :=
  (m.get? id).isSome

/-- The number of entries. -/
def size (m : IdMap α) : Nat :=
  m.entries.length

/-- The ids in ascending order. -/
def ids (m : IdMap α) : List UInt32 :=
  m.entries.map Prod.fst

/-- The values in the order of their ids. -/
def values (m : IdMap α) : List α :=
  m.entries.map Prod.snd

/-! ## Insertion -/

/-- Puts an entry into its place and drops the one it replaces. -/
def insertEntry (id : UInt32) (x : α) : List (UInt32 × α) → List (UInt32 × α)
  | [] => [(id, x)]
  | (key, y) :: rest =>
      if id < key then (id, x) :: (key, y) :: rest
      else if id = key then (id, x) :: rest
      else (key, y) :: insertEntry id x rest

theorem eq_or_mem_of_mem_insertEntry {id : UInt32} {x : α} {entry : UInt32 × α}
    {entries : List (UInt32 × α)} (h : entry ∈ insertEntry id x entries) :
    entry = (id, x) ∨ entry ∈ entries := by
  induction entries with
  | nil => simpa [insertEntry] using h
  | cons first rest ih =>
      obtain ⟨key, y⟩ := first
      rw [insertEntry] at h
      split at h
      · simpa using h
      · split at h
        · rcases List.mem_cons.mp h with h | h
          · exact .inl h
          · exact .inr (List.mem_cons_of_mem _ h)
        · rcases List.mem_cons.mp h with h | h
          · exact .inr (h ▸ List.mem_cons_self)
          · exact (ih h).imp_right (List.mem_cons_of_mem _)

theorem ascending_insertEntry (id : UInt32) (x : α) {entries : List (UInt32 × α)}
    (h : entries.Pairwise fun a b => a.1 < b.1) :
    (insertEntry id x entries).Pairwise fun a b => a.1 < b.1 := by
  induction entries with
  | nil => simp [insertEntry]
  | cons first rest ih =>
      obtain ⟨key, y⟩ := first
      obtain ⟨hfirst, hrest⟩ := List.pairwise_cons.mp h
      rw [insertEntry]
      split
      · rename_i hlt
        refine List.pairwise_cons.mpr ⟨fun entry hentry => ?_, h⟩
        rcases List.mem_cons.mp hentry with rfl | hentry
        · exact hlt
        · exact UInt32.lt_trans hlt (hfirst entry hentry)
      · split
        · rename_i heq
          subst heq
          exact List.pairwise_cons.mpr ⟨hfirst, hrest⟩
        · rename_i hlt hne
          refine List.pairwise_cons.mpr ⟨fun entry hentry => ?_, ih hrest⟩
          rcases eq_or_mem_of_mem_insertEntry hentry with rfl | hentry
          · exact UInt32.lt_of_le_of_ne (UInt32.not_lt.mp hlt) (Ne.symm hne)
          · exact hfirst entry hentry

/-- The table with one more entry, or with another value for the id. -/
def insert (m : IdMap α) (id : UInt32) (x : α) : IdMap α :=
  ⟨insertEntry id x m.entries, ascending_insertEntry id x m.ascending⟩

/-- The table without the entry of an id. -/
def erase (m : IdMap α) (id : UInt32) : IdMap α :=
  ⟨m.entries.filter fun entry => entry.1 ≠ id, m.ascending.filter _⟩

/-! ## Lookups -/

@[simp]
theorem get?_empty (id : UInt32) : (empty : IdMap α).get? id = none :=
  rfl

private theorem lookupEntry_insertEntry (id other : UInt32) (x : α)
    (entries : List (UInt32 × α)) :
    lookupEntry other (insertEntry id x entries) =
      if other = id then some x else lookupEntry other entries := by
  induction entries with
  | nil => simp [insertEntry, lookupEntry]
  | cons first rest ih =>
      obtain ⟨key, y⟩ := first
      rw [insertEntry]
      split
      · simp [lookupEntry]
      · split
        · rename_i heq
          subst heq
          by_cases h : other = id <;> simp [lookupEntry, h]
        · rename_i hne
          by_cases h : other = id
          · subst h
            simp [lookupEntry, hne, ih]
          · simp [lookupEntry, h, ih]

theorem get?_insert (m : IdMap α) (id other : UInt32) (x : α) :
    (m.insert id x).get? other = if other = id then some x else m.get? other :=
  lookupEntry_insertEntry id other x m.entries

private theorem lookupEntry_filter_ne (id other : UInt32) (entries : List (UInt32 × α)) :
    lookupEntry other (entries.filter fun entry => entry.1 ≠ id) =
      if other = id then none else lookupEntry other entries := by
  induction entries with
  | nil => simp [lookupEntry]
  | cons first rest ih =>
      obtain ⟨key, y⟩ := first
      by_cases hkey : key = id
      · subst hkey
        have hfilter : ((key, y) :: rest).filter (fun entry => entry.1 ≠ key) =
            rest.filter fun entry => entry.1 ≠ key := by
          simp
        rw [hfilter, ih]
        by_cases h : other = key <;> simp [lookupEntry, h]
      · have hfilter : ((key, y) :: rest).filter (fun entry => entry.1 ≠ id) =
            (key, y) :: rest.filter fun entry => entry.1 ≠ id := by
          simp [hkey]
        rw [hfilter, lookupEntry, ih, lookupEntry]
        by_cases h : other = id
        · subst h
          simp [Ne.symm hkey]
        · simp [h]

theorem get?_erase (m : IdMap α) (id other : UInt32) :
    (m.erase id).get? other = if other = id then none else m.get? other :=
  lookupEntry_filter_ne id other m.entries

private theorem lookupEntry_eq_some_iff {entries : List (UInt32 × α)}
    (h : entries.Pairwise fun a b => a.1 < b.1) {id : UInt32} {x : α} :
    lookupEntry id entries = some x ↔ (id, x) ∈ entries := by
  induction entries with
  | nil => simp [lookupEntry]
  | cons first rest ih =>
      obtain ⟨key, y⟩ := first
      obtain ⟨hfirst, hrest⟩ := List.pairwise_cons.mp h
      rw [lookupEntry, List.mem_cons]
      by_cases hkey : id = key
      · subst hkey
        have habsent : (id, x) ∉ rest := fun hmem =>
          UInt32.lt_irrefl id (hfirst (id, x) hmem)
        simp [habsent, eq_comm]
      · simp [hkey, ih hrest]

/-- An id has a value exactly when the entry is in the list. -/
theorem get?_eq_some_iff (m : IdMap α) {id : UInt32} {x : α} :
    m.get? id = some x ↔ (id, x) ∈ m.entries :=
  lookupEntry_eq_some_iff m.ascending

/-- A list whose keys ascend is determined by its members. -/
private theorem eq_of_mem_iff {xs ys : List (UInt32 × α)}
    (hxs : xs.Pairwise fun a b => a.1 < b.1) (hys : ys.Pairwise fun a b => a.1 < b.1)
    (h : ∀ entry, entry ∈ xs ↔ entry ∈ ys) : xs = ys := by
  induction xs generalizing ys with
  | nil =>
      cases ys with
      | nil => rfl
      | cons y ys => simpa using h y
  | cons x xs ih =>
      cases ys with
      | nil => simpa using h x
      | cons y ys =>
          obtain ⟨hx, hxs'⟩ := List.pairwise_cons.mp hxs
          obtain ⟨hy, hys'⟩ := List.pairwise_cons.mp hys
          have hhead : x = y := by
            rcases List.mem_cons.mp ((h x).mp List.mem_cons_self) with heq | hxy
            · exact heq
            · rcases List.mem_cons.mp ((h y).mpr List.mem_cons_self) with heq | hyx
              · exact heq.symm
              · exact absurd (UInt32.lt_trans (hy x hxy) (hx y hyx)) (UInt32.lt_irrefl _)
          subst hhead
          refine congrArg (x :: ·) (ih hxs' hys' fun entry => ⟨fun hmem => ?_, fun hmem => ?_⟩)
          · rcases List.mem_cons.mp ((h entry).mp (List.mem_cons_of_mem _ hmem)) with rfl | hys
            · exact absurd (hx _ hmem) (UInt32.lt_irrefl _)
            · exact hys
          · rcases List.mem_cons.mp ((h entry).mpr (List.mem_cons_of_mem _ hmem)) with rfl | hxs
            · exact absurd (hy _ hmem) (UInt32.lt_irrefl _)
            · exact hxs

/-- Two tables that answer every lookup alike are equal. -/
theorem ext_get? {m n : IdMap α} (h : ∀ id, m.get? id = n.get? id) : m = n := by
  obtain ⟨xs, hxs⟩ := m
  obtain ⟨ys, hys⟩ := n
  have hentries : xs = ys := eq_of_mem_iff hxs hys fun entry => by
    have := congrArg (· = some entry.2) (h entry.1)
    simpa [get?, lookupEntry_eq_some_iff hxs, lookupEntry_eq_some_iff hys] using this
  subst hentries
  rfl

end IdMap

end ControlPlane
