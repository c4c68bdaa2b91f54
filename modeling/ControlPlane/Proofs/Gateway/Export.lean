import ControlPlane.Proofs.Gateway.Client
import ControlPlane.Proofs.Registry.Batch
import ControlPlane.Proofs.Wire.Listing
import Mathlib.Data.List.Nodup
import Mathlib.Data.List.Perm.Basic

/-!
# Export and import

What a gateway lists of its cluster can be sent to a gateway without one: the
listed nodes found a cluster of the listed name, and the listed endpoints are
registered under the ids that are their keys, in any order.  The cluster that this
leads to is the one that was listed, apart from instants.
-/

namespace ControlPlane.Gateway

open ControlPlane.Http (Request Response)
open ControlPlane.Json (Decoder Value)
open ControlPlane.Time (Instant)

/-! ## What is listed -/

/-- Reading a target shows a value. -/
def Shows (site : Site) (now : Instant) (r : Registry) (target : String) (value : Value) : Prop :=
  let response := (handle site now r (reading target)).response
  response.status = 200 ∧ response.body = .json value

theorem shows_of_asks {site : Site} {now : Instant} {r : Registry} {target : String}
    {value : Value} {op : Operation} {call : Call} (asks : Asks (reading target) op call)
    (shown : (Reply.ofResult site now op (r.run now op.call).answer).response =
      .json 200 value) : Shows site now r target value := by
  have handled := (handle_of_asks site now r asks).1
  rw [shown] at handled
  constructor
  · rw [handled, status_finish]
    rfl
  · rw [handled]
    rfl

/-- An entry of the directory under its key. -/
def listed (entry : UInt32 × Endpoint) : String × Value :=
  (Text.decimalText entry.1.toNat, Reply.entryValue entry.2)

section

variable {r : Registry} {c : Cluster} (held : r.held = some c) (site : Site) (now : Instant)

include held

theorem shows_nodes :
    Shows site now r "/nodes"
      (.object [("nodes", .array (c.members.values.map Wire.memberValue))]) := by
  have path : (reading "/nodes").path = "/nodes".toList := by decide
  have asks : Asks (reading "/nodes") .listNodes .nodes :=
    .listNodes (path ▸ .nodes) (.inl rfl)
  apply shows_of_asks asks
  change (Reply.ofResult site now .listNodes r.nodes).response = _
  rw [Registry.nodes_of_held held]
  rfl

theorem shows_endpoints :
    Shows site now r "/endpoints"
      (.object [("cluster_name", .text c.name),
        ("endpoints", .object (c.endpoints.entries.map listed))]) := by
  have path : (reading "/endpoints").path = "/endpoints".toList := by decide
  have asks : Asks (reading "/endpoints") .listEndpoints .endpoints :=
    .listEndpoints (path ▸ .endpoints) (.inl rfl)
  apply shows_of_asks asks
  change (Reply.ofResult site now .listEndpoints r.endpoints).response = _
  rw [Registry.endpoints_of_held held]
  rfl

end

/-! ## What is sent -/

/-- The request that founds a cluster of the listed nodes. -/
def founding (name : String) (nodes : Value) : Request :=
  sending "/cluster" (.object [("name", .text name), ("nodes", nodes)])

/-- The request that registers a listed entry under its key. -/
def registering (entry : String × Value) : Request :=
  sending (endpointTarget entry.1) entry.2

/-- The listed nodes, and after them the listed entries, each at its instant. -/
def importing (start : Instant) (name : String) (nodes : Value)
    (posts : List (Instant × (String × Value))) : List (Instant × Request) :=
  (start, founding name nodes) :: posts.map fun post => (post.1, registering post.2)

theorem asks_founding (name : String) (members : List Member) :
    Asks (founding name (.array (members.map Wire.memberValue)))
      (.createCluster ⟨name, members.map Member.announced⟩)
      (.create name (members.map Member.announced)) := by
  have path : (founding name (.array (members.map Wire.memberValue))).path =
      "/cluster".toList := by
    have found : Http.Target.path? "/cluster" = some "/cluster".toList := by decide
    simp only [founding, sending, Request.path, found, Option.getD_some]
  have carries : Carries (founding name (.array (members.map Wire.memberValue)))
      Wire.clusterRequest ⟨name, members.map Member.announced⟩ :=
    carries_sending (Wire.ofText_clusterRequest name members)
  exact .createCluster (path ▸ .cluster) rfl carries

theorem asks_registering (id : UInt32) (e : Endpoint) :
    Asks (registering (listed (id, e))) (.registerEndpoint id e) (.register id e) :=
  .registerEndpoint (leadsTo_endpointTarget id _) rfl (names_decimal id)
    (carries_sending (Wire.ofText_entryValue e))

section

variable (site : Site) (now : Instant)

/-- The members of a coherent cluster, listed, found a cluster with the same members
and without endpoints. -/
theorem handle_founding {c : Cluster} (coherent : c.Coherent) :
    let handled := handle site now .empty
      (founding c.name (.array (c.members.values.map Wire.memberValue)))
    handled.response.status = 201 ∧
      ∃ d, handled.registry = ⟨some d⟩ ∧ d.undated = { c.undated with endpoints := .empty } := by
  intro handled
  have distinct : ((c.members.values.map Member.announced).map (·.nodeId)).Nodup := by
    rw [List.map_map]
    change (c.members.values.map (·.nodeId)).Nodup
    rw [coherent.map_nodeId_values]
    exact c.members.nodup_ids
  obtain ⟨d, answered, held, alike⟩ := Registry.run_create_of_distinct now c.name
    (firstRepeated_eq_none_iff.mpr distinct)
  obtain ⟨shown, left⟩ := handle_of_asks site now .empty (asks_founding c.name c.members.values)
  constructor
  · rw [shown, status_finish, answered]
    rfl
  · exact ⟨d, left.trans held, alike.trans coherent.foldl_enroll_announced⟩

theorem handle_registering {d : Cluster} {id : UInt32} (present : d.hasMember id = true)
    (e : Endpoint) :
    let handled := handle site now ⟨some d⟩ (registering (listed (id, e)))
    handled.response.status = 201 ∧ handled.registry = ⟨some (d.setEndpoint id e)⟩ := by
  intro handled
  have registered : (Registry.mk (some d)).run now (.register id e) =
      { answer := .ok ⟨id, e.transport, (d.endpoints.get? id).map Endpoint.transport⟩
        registry := ⟨some (d.setEndpoint id e)⟩
        events := [.endpointRegistered d.name id e] } := by
    simp [Registry.run, Registry.register, present]
  obtain ⟨shown, left⟩ := handle_of_asks site now ⟨some d⟩ (asks_registering id e)
  constructor
  · rw [shown, status_finish, registered]
    rfl
  · rw [left]
    exact congrArg Outcome.registry registered

/-- Registering listed entries one after another fills the table of endpoints. -/
theorem handleAll_registering {posts : List (Instant × (String × Value))}
    {entries : List (UInt32 × Endpoint)}
    (sent : List.Forall₂ (fun post entry => post.2 = listed entry) posts entries)
    {d : Cluster} (present : ∀ entry ∈ entries, d.hasMember entry.1 = true) :
    let run := handleAll site ⟨some d⟩ (posts.map fun post => (post.1, registering post.2))
    (∀ response ∈ run.1, response.status = 201) ∧
      run.2 = ⟨some { d with endpoints := d.endpoints.fill entries }⟩ := by
  induction sent generalizing d with
  | nil =>
      constructor
      · intro response responseMem
        contradiction
      · rfl
  | @cons post entry posts entries first others ih =>
      obtain ⟨now, post⟩ := post
      obtain ⟨id, e⟩ := entry
      obtain rfl : post = listed (id, e) := first
      have member : d.hasMember id = true := present (id, e) List.mem_cons_self
      obtain ⟨created, left⟩ := handle_registering site now member e
      -- Setting an endpoint leaves the members as they are, so the other ids are present still.
      obtain ⟨othersCreated, othersLeft⟩ := ih (d := d.setEndpoint id e)
        fun other otherMem => present other (List.mem_cons_of_mem (id, e) otherMem)
      intro run
      have split : run = _ := handleAll_cons_of_left site left _
      rw [split]
      constructor
      · exact List.forall_mem_cons.mpr ⟨created, othersCreated⟩
      · exact othersLeft

end

/-! ## The listed cluster -/

theorem nodup_keys (c : Cluster) : ((c.endpoints.entries.map listed).map Prod.fst).Nodup := by
  have keys : (c.endpoints.entries.map listed).map Prod.fst =
      c.endpoints.ids.map fun id => Text.decimalText id.toNat := by
    rw [List.map_map, IdMap.ids, List.map_map]
    rfl
  rw [keys]
  apply List.Nodup.map _ c.endpoints.nodup_ids
  intro id other same
  exact UInt32.toNat_inj.mp (Text.decimalText_injective same)

theorem mem_keys_iff (c : Cluster) {key : String} :
    key ∈ (c.endpoints.entries.map listed).map Prod.fst ↔
      ∃ id, c.endpoints.contains id = true ∧ key = Text.decimalText id.toNat := by
  simp only [List.map_map, List.mem_map, ← IdMap.mem_ids_iff, IdMap.ids]
  constructor
  · rintro ⟨entry, entryMem, rfl⟩
    exact ⟨entry.1, ⟨entry, entryMem, rfl⟩, rfl⟩
  · rintro ⟨id, ⟨entry, entryMem, rfl⟩, rfl⟩
    exact ⟨entry, entryMem, rfl⟩

/-- What is sent, if it is what is listed in some order, belongs to the entries in some
order. -/
theorem exists_sent {posts : List (Instant × (String × Value))}
    {entries : List (UInt32 × Endpoint)}
    (same : (posts.map Prod.snd).Perm (entries.map listed)) :
    ∃ sorted, List.Forall₂ (fun post entry => post.2 = listed entry) posts sorted ∧
      sorted.Perm entries := by
  have alike : List.Forall₂ (fun value entry => value = listed entry) (entries.map listed)
      entries :=
    List.forall₂_map_left_iff.mpr (List.forall₂_same.mpr fun _ _ => rfl)
  obtain ⟨sorted, sent, ordered⟩ := List.perm_comp_forall₂ same alike
  exact ⟨sorted, List.forall₂_map_left_iff.mp sent, ordered⟩

theorem isValid_importing (start : Instant) (name : String) (nodes : Value)
    {posts : List (Instant × (String × Value))} {entries : List (UInt32 × Endpoint)}
    (same : (posts.map Prod.snd).Perm (entries.map listed)) :
    ∀ request ∈ importing start name nodes posts, request.2.isValid = true := by
  have found : Http.Target.path? "/cluster" = some "/cluster".toList := by decide
  rw [importing, List.forall_mem_cons, List.forall_mem_map]
  constructor
  · exact isValid_sending found
  · rintro ⟨now, post⟩ postMem
    have isListed : post ∈ entries.map listed :=
      same.mem_iff.mp (List.mem_map.mpr ⟨(now, post), postMem, rfl⟩)
    obtain ⟨⟨id, e⟩, _, rfl⟩ := List.mem_map.mp isListed
    exact isValid_sending (path?_endpointTarget id)

/-- Sending what is listed of a coherent cluster leads to the cluster, apart from
instants. -/
theorem handleAll_importing (site : Site) (start : Instant) {c : Cluster}
    (coherent : c.Coherent) {posts : List (Instant × (String × Value))}
    (same : (posts.map Prod.snd).Perm (c.endpoints.entries.map listed)) :
    let run := handleAll site .empty
      (importing start c.name (.array (c.members.values.map Wire.memberValue)) posts)
    (∀ response ∈ run.1, response.status = 201) ∧
      ∃ d, run.2 = ⟨some d⟩ ∧ d.undated = c.undated := by
  intro run
  obtain ⟨sorted, sent, ordered⟩ := exists_sent same
  obtain ⟨founded, d, left, alike⟩ := handle_founding site start coherent
  have present : ∀ entry ∈ sorted, d.hasMember entry.1 = true := by
    rintro ⟨id, e⟩ entryMem
    have registered : c.endpoints.contains id = true := by
      rw [IdMap.contains_eq_true_iff]
      exact ⟨e, c.endpoints.get?_eq_some_iff.mpr (ordered.mem_iff.mp entryMem)⟩
    calc
      d.hasMember id = d.undated.hasMember id := (d.hasMember_undated id).symm
      _ = ({ c.undated with endpoints := .empty } : Cluster).hasMember id :=
          congrArg (Cluster.hasMember · id) alike
      _ = c.undated.hasMember id := rfl
      _ = c.hasMember id := c.hasMember_undated id
      _ = true := coherent.hasMember_of_endpoint id registered
  obtain ⟨created, filled⟩ := handleAll_registering site sent present
  have split : run = _ := handleAll_cons_of_left site left _
  have silent : d.endpoints = .empty := congrArg Cluster.endpoints alike
  rw [split]
  constructor
  · exact List.forall_mem_cons.mpr ⟨founded, created⟩
  · refine ⟨_, filled, ?_⟩
    calc
      ({ d with endpoints := d.endpoints.fill sorted } : Cluster).undated
          = { d.undated with endpoints := d.endpoints.fill sorted } := rfl
      _ = { c.undated with endpoints := IdMap.empty.fill sorted } := by rw [alike, silent]
      _ = c.undated := by rw [IdMap.fill_of_perm ordered]; rfl

/-- Whatever calls were made, if a cluster is held then its nodes and its endpoints are
listed, the endpoints under distinct keys that are the ids in decimal.  A gateway
without a cluster that is sent the listed nodes under the listed name, and then the
listed entries in any order, answers each request with success.  It then holds the
cluster that was listed, apart from the instants in it. -/
theorem import_rebuilds_export (site fresh : Site) (asked : Instant)
    (calls : List (Instant × Call)) :
    let r := Registry.empty.runAll calls
    r.held = none ∨
      ∃ c name nodes entries, r.held = some c ∧
        Shows site asked r "/nodes" (.object [("nodes", nodes)]) ∧
        Shows site asked r "/endpoints"
          (.object [("cluster_name", .text name), ("endpoints", .object entries)]) ∧
        (entries.map Prod.fst).Nodup ∧
        (∀ key, key ∈ entries.map Prod.fst ↔
          ∃ id, c.endpoints.contains id = true ∧ key = Text.decimalText id.toNat) ∧
        ∀ start posts, (posts.map Prod.snd).Perm entries →
          let requests := importing start name nodes posts
          let run := handleAll fresh .empty requests
          (∀ request ∈ requests, request.2.isValid = true) ∧
            run.1.length = requests.length ∧ (∀ response ∈ run.1, response.status = 201) ∧
            ∃ d, run.2.held = some d ∧ d.name = c.name ∧
              d.members.map Member.undated = c.members.map Member.undated ∧
              d.endpoints = c.endpoints := by
  intro r
  cases held : r.held with
  | none => exact .inl rfl
  | some c =>
      have coherent : c.Coherent := Registry.coherent_empty.runAll calls c held
      refine .inr ⟨c, c.name, .array (c.members.values.map Wire.memberValue),
        c.endpoints.entries.map listed, rfl, shows_nodes held site asked,
        shows_endpoints held site asked, nodup_keys c, fun _ => mem_keys_iff c, ?_⟩
      intro start posts same requests run
      obtain ⟨created, d, left, alike⟩ := handleAll_importing fresh start coherent same
      exact ⟨isValid_importing start _ _ same, length_handleAll fresh .empty requests, created, d,
        congrArg Registry.held left, Cluster.undated_eq_undated_iff.mp alike⟩

/-- Two endpoints, one of them registered after its node joined, that are sent in the
reverse of the order in which they are listed. -/
theorem import_rebuilds_export_reversed :
    let spec : UInt32 → Option Endpoint → NodeSpec := fun id endpoint =>
      { nodeId := id, hostname := "\"", ipAddress := "i", rdmaGid := none, cpuCount := 1,
        memoryMb := 2, status := some .failed, endpoint }
    let calls := [
      (Instant.epoch, Call.create "c" [spec 7 (some (.tcp "\\" 1)), spec 4294967295 none]),
      (.epoch, .register 4294967295 (.rdma 1 2 "g" 3))]
    let site : Site := ⟨"s", true, .unassigned, .epoch⟩
    ∃ name nodes entries,
      Shows site .epoch (Registry.empty.runAll calls) "/nodes" (.object [("nodes", nodes)]) ∧
      Shows site .epoch (Registry.empty.runAll calls) "/endpoints"
        (.object [("cluster_name", .text name), ("endpoints", .object entries)]) ∧
      "4294967295" ∈ entries.map Prod.fst ∧
      let run := handleAll site .empty
        (importing .epoch name nodes (entries.reverse.map fun entry => (.epoch, entry)))
      (∀ response ∈ run.1, response.status = 201) ∧
        ∃ d, run.2.held = some d ∧ d.endpoints.get? 7 = some (.tcp "\\" 1) ∧
          d.endpoints.get? 4294967295 = some (.rdma 1 2 "g" 3) := by
  intro spec calls site
  rcases import_rebuilds_export site site .epoch calls with free |
    ⟨c, name, nodes, entries, held, nodesShown, entriesShown, _, keys, imported⟩
  · contradiction
  · obtain rfl : _ = c := Option.some.inj held
    have same : ((entries.reverse.map fun entry => (Instant.epoch, entry)).map Prod.snd).Perm
        entries := by
      rw [List.map_map]
      exact (List.Perm.of_eq (List.map_id entries.reverse)).trans (List.reverse_perm entries)
    obtain ⟨_, _, created, d, left, _, _, endpoints⟩ := imported .epoch _ same
    refine ⟨name, nodes, entries, nodesShown, entriesShown, ?_, created, d, left, ?_, ?_⟩
    · exact (keys _).mpr ⟨4294967295, rfl, by decide⟩
    · rw [endpoints]
      rfl
    · rw [endpoints]
      rfl

end ControlPlane.Gateway
