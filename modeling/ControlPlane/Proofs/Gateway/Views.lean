import ControlPlane.Proofs.Gateway.Front
import ControlPlane.Proofs.Registry.Views

/-!
# All views of a cluster agree

Whoever asks about a cluster gets figures that fit together, whichever query is
asked: reports, listings, and answers about single nodes.  The health of the
service tells whether there is a cluster to ask about.
-/

namespace ControlPlane.Gateway

open ControlPlane.Http (Request)
open ControlPlane.Time (Instant)

/-- Whoever gets the health of the service learns whether a cluster is held. -/
theorem body_health (site : Site) (now : Instant) (registry : Registry) {r : Request}
    (method : r.method = "GET") (path : r.path = "/health".toList) :
    (handle site now registry r).response.body =
      .json (.object [("status", .text "healthy"), ("cluster_active", .bool registry.isActive),
        ("version", .text "0.1.0")]) := by
  have asks : Asks r .health .isActive := .health (path ▸ .health) (.inl method)
  rw [(handle_of_asks site now registry asks).1, method]
  rfl

/-- After any calls the views of the registry agree.  The registry holds a cluster
exactly if there is a snapshot, and the health of the service says so.  The reports
about a cluster agree with the listings, and answers about single nodes are what is
listed.  Every call that succeeds moves each figure by what it adds less what it takes
away. -/
theorem views_agree (site : Site) (calls : List (Instant × Call))
    (fits : (Registry.empty.runAll calls).MemoryFits) :
    let r := Registry.empty.runAll calls
    (r.isActive = true ↔ ∃ snapshot, r.snapshot = .ok snapshot) ∧
    (∀ now (request : Request), request.method = "GET" → request.path = "/health".toList →
      (handle site now r request).response.body =
        .json (.object [("status", .text "healthy"), ("cluster_active", .bool r.isActive),
          ("version", .text "0.1.0")])) ∧
    (r.isActive = true → ∃ snapshot metrics members directory,
      r.snapshot = .ok snapshot ∧ r.metrics = .ok metrics ∧ r.nodes = .ok members ∧
      r.endpoints = .ok directory ∧
      Agree snapshot metrics members directory.endpoints.entries ∧
      (∀ id m, r.node id = .ok m ↔ m ∈ members ∧ m.nodeId = id) ∧
      ∀ id e, r.endpoint id = .ok e ↔ (id, e) ∈ directory.endpoints.entries) ∧
    ∀ now call answer, (r.run now call).answer = .ok answer →
      (r.run now call).registry.MemoryFits → ∀ f : Figure,
        (r.run now call).registry.figure f + r.loss f call = r.figure f + call.gain now f := by
  intro r
  have coherentRun : r.Coherent := Registry.coherent_empty.runAll calls
  refine ⟨r.isActive_iff_snapshot, ?health, ?reports, ?movement⟩
  case health =>
    intro now request method path
    exact body_health site now r method path
  case reports =>
    intro active
    obtain ⟨c, held⟩ := Option.isSome_iff_exists.mp active
    have coherent : c.Coherent := coherentRun c held
    have agree := coherent.agree (fits _ (Registry.nodes_of_held held))
    exact ⟨c.snapshot, c.metrics, c.members.values, c.directory,
      Registry.map_require_of_held held _, Registry.map_require_of_held held _,
      Registry.nodes_of_held held, Registry.endpoints_of_held held, agree,
      fun id m => Registry.node_eq_ok_iff_listed held coherent,
      fun id e => Registry.endpoint_eq_ok_iff_listed held coherent⟩
  case movement =>
    intro now call answer succeeded fitsAfter f
    exact Registry.figure_run coherentRun succeeded fits fitsAfter f

/-- A cluster with an active node of 8192 MB and a joining one of 4096 MB reports the
memory of the first, and another active node adds its own. -/
theorem views_agree_of_mixed_statuses :
    let spec : UInt32 → UInt64 → Option Status → NodeSpec := fun id memoryMb status =>
      { nodeId := id, hostname := "h", ipAddress := "i", rdmaGid := none, cpuCount := 4,
        memoryMb, status, endpoint := some (.tcp "a" 1) }
    let r := Registry.empty.runAll
      [(.epoch, .create "c" [spec 1 8192 (some .active), spec 2 4096 none])]
    let added := r.run .epoch (.add (spec 3 16384 (some .active)))
    r.MemoryFits ∧ added.registry.MemoryFits ∧ r.figure .memoryMb = 8192 ∧
      added.registry.figure .memoryMb + 0 = 8192 + (16384 + 0) := by
  intro spec r added
  have fits : r.MemoryFits := by
    intro members listed
    obtain rfl := Except.ok.inj listed
    decide
  have fitsAfter : added.registry.MemoryFits := by
    intro members listed
    obtain rfl := Except.ok.inj listed
    decide
  let site : Site := ⟨"coord", false, PageDirectory.unassigned, .epoch⟩
  obtain ⟨-, -, -, movement⟩ := views_agree site _ fits
  exact ⟨fits, fitsAfter, rfl,
    movement .epoch (.add (spec 3 16384 (some .active))) _ rfl fitsAfter .memoryMb⟩

end ControlPlane.Gateway
