import ControlPlane.Proofs.Registry.Balance
import ControlPlane.Proofs.Registry.Locality
import Mathlib.Data.Finset.Card

/-!
# Nodes that race to join

Several nodes may try to join under one id, and in any order.  The first of them
joins and the others are refused, so that what is kept about an id is what was
kept before, or else what the first node with that id brings.  Each node that
joins makes the cluster larger by one; hence as many of them join as there are
ids that were free, in whatever order the calls are made.
-/

namespace ControlPlane

open ControlPlane.Time (Instant)

open Answered (joined? left? size?)

/-! ## Contests -/

/-- Does a call add a node, or only ask? -/
def Call.Contends (call : Call) : Prop :=
  call.isQuery = true ∨ ∃ spec, call = .add spec

/-- The node that a call adds. -/
def Call.added? : Call → Option NodeSpec
  | add spec => some spec
  | create .. | destroy | remove _ | register .. | isActive | ensure | snapshot | node _ | nodes
  | endpoint _ | endpoints | metrics => none

/-- The nodes that calls add, in their order, and when they do. -/
def joins (calls : List (Instant × Call)) : List (Instant × NodeSpec) :=
  calls.filterMap fun (now, call) => call.added?.map fun spec => (now, spec)

/-- The first node that calls add under an id. -/
def firstJoin? (id : UInt32) (calls : List (Instant × Call)) : Option (Instant × NodeSpec) :=
  (joins calls).find? (·.2.nodeId = id)

/-- What is kept about a node that joins. -/
def Enrolment.ofJoin (join : Instant × NodeSpec) : Enrolment :=
  ⟨join.2.enroll join.1, join.2.endpoint⟩

theorem Call.added?_of_query {call : Call} (query : call.isQuery = true) : call.added? = none := by
  cases call with
  | create | destroy | add | remove | register => contradiction
  | isActive | ensure | snapshot | node | nodes | endpoint | endpoints | metrics => rfl

section

variable {id : UInt32} (now : Instant) (rest : List (Instant × Call))

theorem firstJoin?_cons_of_query {call : Call} (query : call.isQuery = true) :
    firstJoin? id ((now, call) :: rest) = firstJoin? id rest := by
  simp [firstJoin?, joins, Call.added?_of_query query]

theorem firstJoin?_cons_self (spec : NodeSpec) :
    firstJoin? spec.nodeId ((now, .add spec) :: rest) = some (now, spec) := by
  simp [firstJoin?, joins, Call.added?]

theorem firstJoin?_cons_of_ne {spec : NodeSpec} (ne : spec.nodeId ≠ id) :
    firstJoin? id ((now, .add spec) :: rest) = firstJoin? id rest := by
  simp [firstJoin?, joins, Call.added?, ne]

end

theorem isSome_firstJoin?_iff {id : UInt32} {calls : List (Instant × Call)} :
    (firstJoin? id calls).isSome = true ↔ id ∈ (joins calls).map (·.2.nodeId) := by
  simp [firstJoin?]

/-- The first node that is added under its id is found there. -/
theorem firstJoin?_of_first {earlier later : List (Instant × Call)} {now : Instant}
    {spec : NodeSpec} (first : spec.nodeId ∉ (joins earlier).map (·.2.nodeId)) :
    firstJoin? spec.nodeId (earlier ++ (now, .add spec) :: later) = some (now, spec) := by
  have noneBefore : firstJoin? spec.nodeId earlier = none := by
    rwa [← Option.not_isSome_iff_eq_none, isSome_firstJoin?_iff]
  rw [firstJoin?, joins, List.filterMap_append, List.find?_append]
  exact (congrArg (Option.or · _) noneBefore).trans (firstJoin?_cons_self now later spec)

namespace Call

variable {call : Call}

theorem Contends.isNodeLevel (contends : call.Contends) : call.isNodeLevel = true := by
  rcases contends with query | ⟨spec, rfl⟩
  · cases call with
    | create | destroy | add | remove | register => contradiction
    | isActive | ensure | snapshot | node | nodes | endpoint | endpoints | metrics => rfl
  · rfl

theorem Contends.ne_destroy (contends : call.Contends) : call ≠ .destroy := by
  rintro rfl
  have nodeLevel := contends.isNodeLevel
  contradiction

end Call

/-- In a contest an answer says nothing, or that a node joined and how large the cluster
is now. -/
theorem Answered.quiet_or_joined {call : Call} (contends : call.Contends)
    (answer : Except Error call.Answer) :
    Quiet ⟨call, answer⟩ ∨ ∃ added, joined? ⟨call, answer⟩ = some added ∧
      left? ⟨call, answer⟩ = none ∧ size? ⟨call, answer⟩ = some added.clusterSize := by
  rcases contends with query | ⟨spec, rfl⟩
  · exact .inl (quiet_of_query query answer)
  · cases answer with
    | error e => exact .inl (quiet_of_failed (.add spec) e)
    | ok added => exact .inr ⟨added, rfl, rfl, rfl⟩

namespace Registry

variable {r : Registry} {c : Cluster} {calls : List (Instant × Call)} {id : UInt32}

/-! ## What is kept -/

/-- Of nodes that are added under one id the first decides what is kept, unless something
was kept before. -/
theorem actAll_of_contest (contest : ∀ entry ∈ calls, entry.2.Contends)
    (kept : Option Enrolment) :
    actAll kept (about id calls) = kept.or ((firstJoin? id calls).map Enrolment.ofJoin) := by
  induction calls generalizing kept with
  | nil => exact Option.or_none.symm
  | cons first rest ih =>
      obtain ⟨now, call⟩ := first
      have contestRest : ∀ entry ∈ rest, entry.2.Contends := fun entry entryMem =>
        contest entry (List.mem_cons_of_mem _ entryMem)
      rcases contest _ List.mem_cons_self with query | ⟨spec, rfl⟩
      · have other : call.target? ≠ some id := by
          rw [Call.target?_of_query query]
          exact (Option.some_ne_none id).symm
        rw [about_cons_of_other now rest other, firstJoin?_cons_of_query now rest query,
          ih contestRest]
      · by_cases own : spec.nodeId = id
        · subst own
          rw [about_cons_of_target now rest rfl, firstJoin?_cons_self]
          change actAll (Call.act now (.add spec) kept) (about spec.nodeId rest) = _
          rw [ih contestRest]
          -- The node is kept only if nothing was: joining never replaces.
          cases kept <;> rfl
        · have other : (Call.add spec).target? ≠ some id := fun same => own (Option.some.inj same)
          rw [about_cons_of_other now rest other, firstJoin?_cons_of_ne now rest own,
            ih contestRest]

/-- After a contest there is kept about an id what was kept before, or else what the first
node that was added under it brought. -/
theorem runAll_enrolment?_of_contest (coherent : r.Coherent) (held : r.held = some c)
    (contest : ∀ entry ∈ calls, entry.2.Contends) :
    ∃ d, (r.runAll calls).held = some d ∧ ∀ id,
      d.enrolment? id = (c.enrolment? id).or ((firstJoin? id calls).map Enrolment.ofJoin) := by
  obtain ⟨d, heldLast, -, -, kept⟩ := runAll_enrolment? coherent held
    fun entry entryMem => (contest entry entryMem).isNodeLevel
  exact ⟨d, heldLast, fun id => (kept id).trans (actAll_of_contest contest _)⟩

/-- The members after a contest are the ones before and the ones that nodes were added
under. -/
theorem mem_ids_of_contest {d : Cluster} (kept : ∀ id,
      d.enrolment? id = (c.enrolment? id).or ((firstJoin? id calls).map Enrolment.ofJoin)) :
    id ∈ d.members.ids ↔ id ∈ c.members.ids ∨ id ∈ (joins calls).map (·.2.nodeId) := by
  rw [Cluster.mem_ids_iff_enrolment?, Cluster.mem_ids_iff_enrolment?, kept, Option.isSome_or,
    Option.isSome_map, Bool.or_eq_true, isSome_firstJoin?_iff]

/-- What is kept about a node is what is answered about it. -/
theorem node_and_endpoint_of_enrolment? (held : r.held = some c) {kept : Enrolment}
    (found : c.enrolment? id = some kept) :
    r.node id = .ok kept.member ∧
      r.endpoint id = match kept.endpoint? with
        | some e => .ok e
        | none => .error (.endpointNotFound id) := by
  obtain ⟨m, member, rfl⟩ := Option.map_eq_some_iff.mp found
  rw [node_of_held held, member, endpoint_of_member held member]
  exact ⟨rfl, rfl⟩

/-! ## Who joins -/

section

variable {spec : NodeSpec} (now : Instant)

/-- A node that comes late to a contest is refused. -/
theorem answer_of_late (coherent : r.Coherent) (held : r.held = some c)
    (contest : ∀ entry ∈ calls, entry.2.Contends)
    (late : spec.nodeId ∈ c.members.ids ∨ spec.nodeId ∈ (joins calls).map (·.2.nodeId)) :
    ((r.runAll calls).run now (.add spec)).answer = .error (.duplicateNode spec.nodeId) := by
  obtain ⟨d, heldThen, kept⟩ := runAll_enrolment?_of_contest coherent held contest
  have present : d.hasMember spec.nodeId = true :=
    d.members.mem_ids_iff.mp ((mem_ids_of_contest kept).mpr late)
  have reason : Refused (r.runAll calls).held (.add spec) (.duplicateNode spec.nodeId) := by
    rw [heldThen]
    exact .taken present
  exact reason.answer_eq

/-- The first node to come under a free id joins. -/
theorem answer_of_first (coherent : r.Coherent) (held : r.held = some c)
    (contest : ∀ entry ∈ calls, entry.2.Contends)
    (first : ¬(spec.nodeId ∈ c.members.ids ∨ spec.nodeId ∈ (joins calls).map (·.2.nodeId))) :
    ∃ added, ((r.runAll calls).run now (.add spec)).answer = .ok added := by
  obtain ⟨d, heldThen, kept⟩ := runAll_enrolment?_of_contest coherent held contest
  have absent : d.hasMember spec.nodeId = false :=
    Bool.eq_false_iff.mpr (mt d.members.mem_ids_iff.mpr (mt (mem_ids_of_contest kept).mp first))
  exact ⟨⟨spec.nodeId, (d.enroll now spec).members.size, spec.endpoint.map Endpoint.transport⟩,
    by simp [run, add, heldThen, absent]⟩

end

/-! ## Sizes -/

/-- Each node that joins in a contest makes the cluster larger by one, and is told so. -/
theorem runAll_size_of_contest (coherent : r.Coherent) (held : r.held = some c)
    (contest : ∀ entry ∈ calls, entry.2.Contends) :
    let joined := (r.transcript calls).filterMap joined?
    ∃ d, (r.runAll calls).held = some d ∧ d.members.size = c.members.size + joined.length ∧
      joined.map (·.clusterSize) = List.range' (c.members.size + 1) joined.length := by
  induction calls generalizing r c with
  | nil => exact ⟨c, held, rfl, rfl⟩
  | cons first rest ih =>
      obtain ⟨now, call⟩ := first
      have contends := contest _ List.mem_cons_self
      obtain ⟨next, heldNext, tells⟩ := tells_run coherent held now contends.ne_destroy
      obtain ⟨d, heldLast, size, sizes⟩ := ih (coherent.run now call) heldNext
        fun entry entryMem => contest entry (List.mem_cons_of_mem _ entryMem)
      refine ⟨d, heldLast, ?_⟩
      rw [transcript, List.filterMap_cons]
      -- Every step is told by its answer, so the registry itself is not looked at here.
      have members := tells.members
      rcases Answered.quiet_or_joined contends (r.run now call).answer with
        quiet | ⟨added, joins, stays, told⟩
      · rw [quiet.left, quiet.joined] at members
        have same : next.members.size = c.members.size := members
        rw [quiet.joined, ← same]
        exact ⟨size, sizes⟩
      · rw [stays, joins] at members
        have grown : next.members.size = c.members.size + 1 := members
        have reported : added.clusterSize = next.members.size := by
          rw [← tells.size, told, Option.getD_some]
        rw [joins, List.length_cons, List.map_cons, sizes, reported, size, grown]
        exact ⟨by omega, List.range'_succ.symm⟩

/-- As many nodes join in a contest as there were free ids among theirs. -/
theorem length_joined_eq_card {n : Nat} {d : Cluster} {ids : List UInt32}
    (size : d.members.size = c.members.size + n)
    (union : ∀ id, id ∈ d.members.ids ↔ id ∈ c.members.ids ∨ id ∈ ids) :
    n = (ids.toFinset \ c.members.ids.toFinset).card := by
  have counts : ∀ e : Cluster, e.members.ids.toFinset.card = e.members.size := fun e =>
    (List.toFinset_card_of_nodup e.members.nodup_ids).trans e.members.length_ids
  have together : d.members.ids.toFinset = ids.toFinset ∪ c.members.ids.toFinset := by
    ext id
    rw [Finset.mem_union, List.mem_toFinset, List.mem_toFinset, List.mem_toFinset, union,
      or_comm]
  have apart := Finset.card_sdiff_add_card ids.toFinset c.members.ids.toFinset
  rw [← together, counts, counts, size] at apart
  omega

/-! ## The outcome -/

/-- Nodes race to join the cluster that there is after any calls.  As many of them join as
there are ids among theirs that were free, and they are told the sizes of the cluster one
after another.  The members afterwards are the ones before and one for each id that was
raced for; nothing has changed about the ones before.  A node that comes too late, because
its id was taken before or an earlier node had it, is refused as a duplicate of its id; the
first node to come under an id that was free joins, and it is what is known of that id in
the end. -/
theorem first_joins_win (before : List (Instant × Call)) {members : List Member}
    (listed : (empty.runAll before).nodes = .ok members) {calls : List (Instant × Call)}
    (contest : ∀ entry ∈ calls, entry.2.Contends) {specs : List NodeSpec}
    (executed : ((joins calls).map Prod.snd).Perm specs) :
    let r := empty.runAll before
    let final := r.runAll calls
    let joined := (r.transcript calls).filterMap joined?
    let ids := members.map (·.nodeId)
    joined.length = ((specs.map (·.nodeId)).toFinset \ ids.toFinset).card ∧
    joined.map (·.clusterSize) = List.range' (members.length + 1) joined.length ∧
    (∃ after, final.nodes = .ok after ∧
      ∀ id, id ∈ after.map (·.nodeId) ↔ id ∈ ids ∨ id ∈ specs.map (·.nodeId)) ∧
    (∀ id ∈ ids, final.node id = r.node id ∧ final.endpoint id = r.endpoint id) ∧
    ∀ earlier now spec later, calls = earlier ++ (now, .add spec) :: later →
      let answer := ((r.runAll earlier).run now (.add spec)).answer
      let late := spec.nodeId ∈ ids ∨ spec.nodeId ∈ (joins earlier).map (·.2.nodeId)
      (late → answer = .error (.duplicateNode spec.nodeId)) ∧
      (¬late → (∃ added, answer = .ok added) ∧
        final.node spec.nodeId = .ok (spec.enroll now) ∧
        final.endpoint spec.nodeId = match spec.endpoint with
          | some e => .ok e
          | none => .error (.endpointNotFound spec.nodeId)) := by
  intro r final joined ids
  have coherent : r.Coherent := coherent_empty.runAll before
  obtain ⟨c, held, rfl⟩ := nodes_eq_ok_iff.mp listed
  have idsEq : ids = c.members.ids := (coherent c held).map_nodeId_values
  obtain ⟨d, heldFinal, kept⟩ := runAll_enrolment?_of_contest coherent held contest
  obtain ⟨d', heldAlso, size, sizes⟩ := runAll_size_of_contest coherent held contest
  obtain rfl := Option.some.inj (heldFinal.symm.trans heldAlso)
  have raced : ∀ id, id ∈ (joins calls).map (·.2.nodeId) ↔ id ∈ specs.map (·.nodeId) := by
    intro id
    have same := (executed.map (·.nodeId)).mem_iff (a := id)
    rwa [List.map_map] at same
  have union : ∀ id, id ∈ d.members.ids ↔ id ∈ c.members.ids ∨ id ∈ specs.map (·.nodeId) :=
    fun id => by rw [mem_ids_of_contest kept, raced]
  clear_value ids
  subst idsEq
  rw [c.members.length_values]
  refine ⟨length_joined_eq_card size union, sizes, ?listing, ?others, ?calls⟩
  case listing =>
    refine ⟨d.members.values, nodes_of_held heldFinal, fun id => ?_⟩
    rw [(coherent.runAll calls d heldFinal).map_nodeId_values]
    exact union id
  case others =>
    intro id idMem
    obtain ⟨enrolment, found⟩ :=
      Option.isSome_iff_exists.mp (Cluster.mem_ids_iff_enrolment?.mp idMem)
    have foundFinal : d.enrolment? id = some enrolment := by rw [kept, found, Option.some_or]
    obtain ⟨node, endpoint⟩ := node_and_endpoint_of_enrolment? held found
    obtain ⟨nodeFinal, endpointFinal⟩ := node_and_endpoint_of_enrolment? heldFinal foundFinal
    exact ⟨nodeFinal.trans node.symm, endpointFinal.trans endpoint.symm⟩
  case calls =>
    rintro earlier now spec later rfl answer late
    have contestEarlier : ∀ entry ∈ earlier, entry.2.Contends := fun entry entryMem =>
      contest entry (List.mem_append_left _ entryMem)
    refine ⟨answer_of_late now coherent held contestEarlier, fun first =>
      ⟨answer_of_first now coherent held contestEarlier first, ?_⟩⟩
    obtain ⟨free, unraced⟩ := not_or.mp first
    have noneBefore : c.enrolment? spec.nodeId = none := by
      rwa [← Option.not_isSome_iff_eq_none, ← Cluster.mem_ids_iff_enrolment?]
    have found : d.enrolment? spec.nodeId = some (.ofJoin (now, spec)) := by
      rw [kept, noneBefore, Option.none_or, firstJoin?_of_first unraced, Option.map_some]
    exact node_and_endpoint_of_enrolment? heldFinal found

/-- Four nodes race for three ids, one of which is taken: two of them join. -/
theorem first_joins_win_of_four :
    let spec : UInt32 → String → NodeSpec := fun id hostname =>
      { nodeId := id, hostname, ipAddress := "i", rdmaGid := none, cpuCount := 4, memoryMb := 8,
        status := none, endpoint := none }
    let before : List (Instant × Call) := [(.epoch, .create "c" [spec 1 "old"])]
    let calls : List (Instant × Call) :=
      [(.epoch, .add (spec 2 "a")), (.epoch, .snapshot), (.epoch, .add (spec 1 "b")),
        (.epoch, .add (spec 2 "c")), (.epoch, .add (spec 3 "d"))]
    let specs := [spec 3 "d", spec 2 "c", spec 2 "a", spec 1 "b"]
    let r := empty.runAll before
    r.nodes = .ok [(spec 1 "old").enroll .epoch] ∧ (∀ entry ∈ calls, entry.2.Contends) ∧
      ((joins calls).map Prod.snd).Perm specs ∧
      ((r.transcript calls).filterMap joined?).length = 2 ∧
      (r.runAll calls).node 2 = .ok ((spec 2 "a").enroll .epoch) := by
  intro spec before calls specs r
  have listed : r.nodes = .ok [(spec 1 "old").enroll .epoch] := rfl
  have contest : ∀ entry ∈ calls, entry.2.Contends := by
    simp [calls, Call.Contends, Call.isQuery]
  have executed : ((joins calls).map Prod.snd).Perm specs := by decide
  obtain ⟨count, -, -, -, outcome⟩ := first_joins_win before listed contest executed
  obtain ⟨-, node, -⟩ := (outcome [] .epoch (spec 2 "a") _ rfl).2 (by decide)
  exact ⟨listed, contest, executed, count, node⟩

end Registry

end ControlPlane
