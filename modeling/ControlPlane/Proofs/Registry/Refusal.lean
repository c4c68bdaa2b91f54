import ControlPlane.Proofs.Registry.Query

/-!
# Why calls are refused

A call is refused for one of six reasons, and each reason has its own error.
The relation `Refused` gives the reasons in terms of the cluster that is held.
A reason is enough for the call to fail with its error; that calls fail for no
other reason is part of what `Registry.step_run` says.
-/

namespace ControlPlane

open ControlPlane.Time (Instant)

/-! ## Repeated ids -/

/-- An id that occurred before, after ids that are distinct: the first
repetition in the order of the list. -/
def FirstRepeat (ids : List UInt32) (id : UInt32) : Prop :=
  ∃ before after, ids = before ++ id :: after ∧ id ∈ before ∧ before.Nodup

private theorem firstRepeated_eq_none_iff_of_seen {seen ids : List UInt32} :
    firstRepeated seen ids = none ↔ ids.Nodup ∧ ∀ id ∈ ids, id ∉ seen := by
  induction ids generalizing seen with
  | nil => simp [firstRepeated]
  | cons first rest ih =>
      rw [firstRepeated]
      by_cases repeats : first ∈ seen
      · simp [repeats]
      · rw [if_neg repeats, ih, List.nodup_cons]
        constructor
        · rintro ⟨distinct, fresh⟩
          refine ⟨⟨fun again => fresh first again List.mem_cons_self, distinct⟩, ?_⟩
          intro id idMem
          rcases List.mem_cons.mp idMem with rfl | idMem
          · exact repeats
          · exact fun idSeen => fresh id idMem (List.mem_cons_of_mem _ idSeen)
        · rintro ⟨⟨once, distinct⟩, fresh⟩
          refine ⟨distinct, fun id idMem idSeen => ?_⟩
          rcases List.mem_cons.mp idSeen with rfl | idSeen
          · exact once idMem
          · exact fresh id (List.mem_cons_of_mem _ idMem) idSeen

/-- Nothing is repeated exactly if the ids are distinct. -/
theorem firstRepeated_eq_none_iff {ids : List UInt32} :
    firstRepeated [] ids = none ↔ ids.Nodup := by
  simp [firstRepeated_eq_none_iff_of_seen]

/-- The search finds the first element that is in `seen` or occurred before. -/
private theorem firstRepeated_eq_some_iff_of_seen {seen ids : List UInt32} {id : UInt32} :
    firstRepeated seen ids = some id ↔
      ∃ before after, ids = before ++ id :: after ∧ (id ∈ seen ∨ id ∈ before) ∧
        firstRepeated seen before = none := by
  induction ids generalizing seen with
  | nil => simp [firstRepeated]
  | cons first rest ih =>
      by_cases repeats : first ∈ seen
      · -- A prefix that goes past `first` would hold a repetition.
        rw [firstRepeated, if_pos repeats, Option.some.injEq]
        constructor
        · rintro rfl
          exact ⟨[], rest, rfl, .inl repeats, rfl⟩
        · rintro ⟨before, after, split, -, distinct⟩
          cases before with
          | nil => exact (List.cons.inj split).1
          | cons head before =>
              obtain ⟨rfl, -⟩ := List.cons.inj split
              simp [firstRepeated, repeats] at distinct
      · rw [firstRepeated, if_neg repeats, ih]
        constructor
        · rintro ⟨before, after, rfl, place, distinct⟩
          refine ⟨first :: before, after, rfl, ?_, ?_⟩
          · simpa [or_assoc, or_left_comm] using place
          · rwa [firstRepeated, if_neg repeats]
        · rintro ⟨before, after, split, place, distinct⟩
          cases before with
          | nil =>
              obtain ⟨rfl, -⟩ := List.cons.inj split
              simp [repeats] at place
          | cons head before =>
              obtain ⟨rfl, rfl⟩ := List.cons.inj split
              refine ⟨before, after, rfl, ?_, ?_⟩
              · simpa [or_assoc, or_left_comm] using place
              · rwa [firstRepeated, if_neg repeats] at distinct

theorem firstRepeated_eq_some_iff {ids : List UInt32} {id : UInt32} :
    firstRepeated [] ids = some id ↔ FirstRepeat ids id := by
  rw [firstRepeated_eq_some_iff_of_seen]
  simp [FirstRepeat, firstRepeated_eq_none_iff]

/-- Ids have a first repetition unless they are distinct. -/
theorem exists_firstRepeat_iff {ids : List UInt32} :
    (∃ id, FirstRepeat ids id) ↔ ¬ids.Nodup := by
  rw [← firstRepeated_eq_none_iff, ← ne_eq, Option.ne_none_iff_exists']
  simp only [firstRepeated_eq_some_iff]

/-! ## Reasons -/

namespace Call

/-- Does a call need a cluster?  All do but the one that creates it and the one
that asks whether there is one. -/
def needsCluster : Call → Bool
  | create .. | isActive => false
  | destroy | add .. | remove .. | register .. | ensure | snapshot | node .. | nodes
  | endpoint .. | endpoints | metrics => true

/-- The node that a call takes to be a member. -/
def subject? : Call → Option UInt32
  | remove id | register id _ | node id | endpoint id => some id
  | create .. | destroy | add .. | isActive | ensure | snapshot | nodes | endpoints
  | metrics => none

end Call

/-- The reasons to refuse a call, given the cluster that is held, if there is
one. -/
inductive Refused : Option Cluster → Call → Error → Prop
  /-- A second cluster is refused whatever nodes it would have. -/
  | occupied {c : Cluster} {name : String} {nodes : List NodeSpec} :
      Refused (some c) (.create name nodes) (.alreadyExists c.name)
  | repeated {name : String} {nodes : List NodeSpec} {id : UInt32}
      (repeats : FirstRepeat (nodes.map (·.nodeId)) id) :
      Refused none (.create name nodes) (.duplicateNode id)
  | vacant {call : Call} (needs : call.needsCluster = true) :
      Refused none call .clusterNotFound
  | taken {c : Cluster} {spec : NodeSpec} (present : c.hasMember spec.nodeId = true) :
      Refused (some c) (.add spec) (.duplicateNode spec.nodeId)
  | stranger {c : Cluster} {call : Call} {id : UInt32} (subject : call.subject? = some id)
      (absent : c.hasMember id = false) :
      Refused (some c) call (.nodeNotFound id)
  | unregistered {c : Cluster} {id : UInt32} (present : c.hasMember id = true)
      (silent : c.endpoints.contains id = false) :
      Refused (some c) (.endpoint id) (.endpointNotFound id)

/-- A call about a node that is no member fails, whichever it is. -/
private theorem answer_of_stranger {now : Instant} {r : Registry} {c : Cluster} {call : Call}
    {id : UInt32} (held : r.held = some c) (subject : call.subject? = some id)
    (absent : c.hasMember id = false) : (r.run now call).answer = .error (.nodeNotFound id) := by
  have notFound : c.members.get? id = none := c.hasMember_eq_false_iff.mp absent
  cases call with
  | remove other =>
      obtain rfl := Option.some.inj subject
      simp [Registry.run, Registry.remove, Registry.refuse, held, notFound]
  | register other e =>
      obtain rfl := Option.some.inj subject
      simp [Registry.run, Registry.register, Registry.refuse, held, absent]
  | node other =>
      obtain rfl := Option.some.inj subject
      change r.node other = _
      rw [Registry.node_of_held held, notFound]
  | endpoint other =>
      obtain rfl := Option.some.inj subject
      exact Registry.endpoint_of_stranger held notFound
  | create | destroy | add | isActive | ensure | snapshot | nodes | endpoints | metrics =>
      contradiction

/-- Without a cluster every call that needs one fails in the same way, and nothing is
logged about it. -/
theorem Registry.run_of_vacant {now : Instant} {r : Registry} {call : Call}
    (free : r.held = none) (needs : call.needsCluster = true) :
    r.run now call = ⟨.error .clusterNotFound, r, []⟩ := by
  obtain rfl : r = ⟨none⟩ := congrArg Registry.mk free
  cases call with
  | create | isActive => contradiction
  | destroy | add | remove | register | ensure | snapshot | node | nodes | endpoint
  | endpoints | metrics => rfl

/-- A reason to refuse a call makes it fail, with the error of that reason. -/
theorem Refused.answer_eq {now : Instant} {r : Registry} {call : Call} {e : Error}
    (reason : Refused r.held call e) : (r.run now call).answer = .error e := by
  obtain ⟨held⟩ := r
  change Refused held call e at reason
  cases reason with
  | occupied => rfl
  | repeated repeats =>
      simp [Registry.run, Registry.create, Registry.refuse,
        firstRepeated_eq_some_iff.mpr repeats]
  | vacant needs => rw [Registry.run_of_vacant rfl needs]
  | taken present => simp [Registry.run, Registry.add, Registry.refuse, present]
  | stranger subject absent => exact answer_of_stranger rfl subject absent
  | unregistered present silent =>
      obtain ⟨m, found⟩ := (Cluster.hasMember_eq_true_iff _).mp present
      change Registry.endpoint _ _ = _
      rw [Registry.endpoint_of_member rfl found, (IdMap.contains_eq_false_iff _).mp silent]

end ControlPlane
