import ControlPlane.Gateway.Route
import ControlPlane.Proofs.Text.Basic

/-!
# Paths

Each route has its paths: seven are fixed texts, and where a route has a
parameter, one whole segment of the path stands for it.  Routing finds exactly
the route that a path leads to.
-/

namespace ControlPlane.Gateway

/-- The paths of a route.  A parameter is one whole segment, and not an empty one
at the end of a path. -/
inductive LeadsTo : List Char → Route → Prop
  | health : LeadsTo "/health".toList .health
  | ready : LeadsTo "/ready".toList .ready
  | metrics : LeadsTo "/metrics".toList .metrics
  | cluster : LeadsTo "/cluster".toList .cluster
  | nodes : LeadsTo "/nodes".toList .nodes
  | endpoints : LeadsTo "/endpoints".toList .endpoints
  | node {id : List Char} (whole : '/' ∉ id) (nonempty : id ≠ []) :
      LeadsTo ("/nodes/".toList ++ id) (.node id)
  | endpoint {id : List Char} (whole : '/' ∉ id) :
      LeadsTo ("/nodes/".toList ++ id ++ "/endpoint".toList) (.endpoint id)
  | page {address : List Char} (whole : '/' ∉ address) (nonempty : address ≠ []) :
      LeadsTo ("/pages/".toList ++ address) (.page address)

/-- A single segment is routed if it is the fixed text of a route. -/
private theorem leadsTo_of_single {a : List Char} {route : Route}
    (found : Route.ofSegments [a] = some route) : LeadsTo ('/' :: a) route := by
  simp only [Route.ofSegments, ite_eq_iff, Option.some.injEq, reduceCtorEq, and_false,
    or_false] at found
  rcases found with ⟨rfl, rfl⟩ | ⟨-, ⟨rfl, rfl⟩ | ⟨-, ⟨rfl, rfl⟩ | ⟨-, ⟨rfl, rfl⟩ |
    ⟨-, ⟨rfl, rfl⟩ | ⟨-, rfl, rfl⟩⟩⟩⟩⟩
  · exact .health
  · exact .ready
  · exact .metrics
  · exact .cluster
  · exact .nodes
  · exact .endpoints

/-- Of two segments the first is a fixed text and the last is a parameter. -/
private theorem leadsTo_of_pair {a b : List Char} {route : Route}
    (found : Route.ofSegments [a, b] = some route) (whole : '/' ∉ b) :
    LeadsTo ('/' :: (a ++ '/' :: b)) route := by
  simp only [Route.ofSegments, ite_eq_iff, Option.some.injEq, reduceCtorEq, and_false,
    or_false, false_or, List.isEmpty_iff] at found
  rcases found with ⟨nonempty, ⟨rfl, rfl⟩ | ⟨-, rfl, rfl⟩⟩
  · exact .node whole nonempty
  · exact .page whole nonempty

/-- Of three segments the parameter is in the middle. -/
private theorem leadsTo_of_triple {a b c : List Char} {route : Route}
    (found : Route.ofSegments [a, b, c] = some route) (whole : '/' ∉ b) :
    LeadsTo ('/' :: (a ++ '/' :: (b ++ '/' :: c))) route := by
  simp only [Route.ofSegments, ite_eq_iff, Option.some.injEq, reduceCtorEq, and_false,
    or_false] at found
  obtain ⟨⟨rfl, rfl⟩, rfl⟩ := found
  exact .endpoint whole

/-- Segments that are routed come from a path of the route. -/
private theorem leadsTo_of_ofSegments {segments : List (List Char)} {route : Route}
    (found : Route.ofSegments segments = some route)
    (whole : ∀ segment ∈ segments, '/' ∉ segment) :
    LeadsTo ('/' :: ['/'].intercalate segments) route := by
  match segments, found, whole with
  | [a], found, _ => simpa [List.intercalate] using leadsTo_of_single found
  | [a, b], found, whole =>
      have wholeLast : '/' ∉ b := whole b (by simp)
      simpa [List.intercalate, List.intersperse] using leadsTo_of_pair found wholeLast
  | [a, b, c], found, whole =>
      have wholeMiddle : '/' ∉ b := whole b (by simp)
      simpa [List.intercalate, List.intersperse] using leadsTo_of_triple found wholeMiddle

/-- Routing finds exactly the route that a path leads to. -/
theorem ofPath_eq_some_iff {path : List Char} {route : Route} :
    Route.ofPath path = some route ↔ LeadsTo path route := by
  constructor
  · intro found
    unfold Route.ofPath at found
    split at found
    · next rest =>
        have leads := leadsTo_of_ofSegments found fun _ => Text.not_mem_of_mem_cut
        rwa [Text.intercalate_cut] at leads
    · contradiction
  · intro leads
    have nodesWhole : '/' ∉ "nodes".toList := by decide
    have pagesWhole : '/' ∉ "pages".toList := by decide
    cases leads with
    | health | ready | metrics | cluster | nodes | endpoints => rfl
    | @node id whole nonempty =>
        change Route.ofSegments (Text.cut '/' ("nodes".toList ++ '/' :: id)) = _
        rw [Text.cut_append_of_not_mem nodesWhole, Text.cut_of_not_mem whole]
        simp [Route.ofSegments, nonempty]
    | @endpoint id whole =>
        have endpointWhole : '/' ∉ "endpoint".toList := by decide
        change Route.ofSegments
          (Text.cut '/' ("nodes".toList ++ '/' :: (id ++ '/' :: "endpoint".toList))) = _
        rw [Text.cut_append_of_not_mem nodesWhole, Text.cut_append_of_not_mem whole,
          Text.cut_of_not_mem endpointWhole]
        simp [Route.ofSegments]
    | @page address whole nonempty =>
        change Route.ofSegments (Text.cut '/' ("pages".toList ++ '/' :: address)) = _
        rw [Text.cut_append_of_not_mem pagesWhole, Text.cut_of_not_mem whole]
        simp [Route.ofSegments, nonempty]

/-- A path leads to one route at most. -/
theorem LeadsTo.unique {path : List Char} {route route' : Route} (leads : LeadsTo path route)
    (leads' : LeadsTo path route') : route' = route := by
  have found := ofPath_eq_some_iff.mpr leads
  rw [ofPath_eq_some_iff.mpr leads'] at found
  exact Option.some.inj found

/-- A path of a single segment is the fixed text of a route, or it leads nowhere. -/
theorem LeadsTo.single_mem {segment : List Char} {route : Route} (whole : '/' ∉ segment)
    (leads : LeadsTo ('/' :: segment) route) :
    segment ∈ ["health", "ready", "metrics", "cluster", "nodes", "endpoints"].map
      String.toList := by
  generalize spelled : '/' :: segment = path at leads
  cases leads with
  | health | ready | metrics | cluster | nodes | endpoints =>
      rw [(List.cons.inj spelled).2]
      decide
  | @node id =>
      have slash : '/' ∈ "nodes/".toList ++ id := List.mem_append_left id (by decide)
      exact absurd ((List.cons.inj spelled).2 ▸ slash) whole
  | @endpoint id =>
      have slash : '/' ∈ "nodes/".toList ++ (id ++ "/endpoint".toList) :=
        List.mem_append_left _ (by decide)
      rw [List.append_assoc] at spelled
      exact absurd ((List.cons.inj spelled).2 ▸ slash) whole
  | @page address =>
      have slash : '/' ∈ "pages/".toList ++ address := List.mem_append_left address (by decide)
      exact absurd ((List.cons.inj spelled).2 ▸ slash) whole

/-- Between two slashes a parameter may be empty; at the end of a path not. -/
example : Route.ofPath "/nodes//endpoint".toList = some (.endpoint []) ∧
    Route.ofPath "/nodes/".toList = none := by
  decide

end ControlPlane.Gateway
