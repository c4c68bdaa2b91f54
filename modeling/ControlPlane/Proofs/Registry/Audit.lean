import ControlPlane.Proofs.Registry.Logged
import ControlPlane.Proofs.Registry.Undated
import ControlPlane.Proofs.Text.Basic
import ControlPlane.Wire.ClusterRequest

/-!
# The log as an audit trail

Somebody who reads the log of a registry, and nothing else, can keep a roll of the
members: who joined is put on it, who left is struck off it.  A `Roll` is kept record
by record, by the message and the fields of each record of level `info`.  After every
call the roll is what the registry holds, and no record contradicts the roll that the
records before it lead to.
-/

namespace ControlPlane

open ControlPlane.Time (Instant)

/-! ## Reading records -/

namespace LogRecord

variable (l : LogRecord)

/-- The value of a field. -/
def field? (name : String) : Option Json.Value :=
  l.fields.lookup name

/-- The text in a field. -/
def text? (name : String) : Option String :=
  match l.field? name with
  | some (.text s) => some s
  | _ => none

/-- The natural number in a field. -/
def natural? (name : String) : Option Nat :=
  match l.field? name with
  | some (.number ⟨false, digits, none, none⟩) => some (Text.ofDigits 10 digits)
  | _ => none

/-- The id of the node that a record is about. -/
def nodeId? : Option UInt32 :=
  (l.natural? "node_id").map UInt32.ofNat

/-- The status that a record gives a node. -/
def status? : Option Status :=
  (l.text? "status").bind fun name => Wire.statuses.lookup name

theorem natural?_of_field? {name : String} {n : Nat}
    (shown : l.field? name = some (.natural n)) : l.natural? name = some n := by
  rw [natural?, shown]
  exact congrArg some (Number.Numeral.ofDigits_whole_ofNat n)

theorem nodeId?_of_field? {id : UInt32}
    (shown : l.field? "node_id" = some (.natural id.toNat)) : l.nodeId? = some id := by
  rw [nodeId?, l.natural?_of_field? shown, Option.map_some, UInt32.ofNat_toNat]

theorem status?_of_field? {status : Status}
    (shown : l.field? "status" = some (.text status.name)) : l.status? = some status := by
  rw [LogRecord.status?, text?, shown]
  cases status <;> rfl

end LogRecord

/-! ## The roll -/

/-- What the log tells of a cluster: its name, and its members with their host names
and statuses. -/
structure Roll where
  cluster : Option String
  members : IdMap (String × Status)

namespace Roll

/-- The roll before anything happens. -/
def blank : Roll :=
  ⟨none, .empty⟩

/-- Puts a member on the roll. -/
def put (roll : Roll) (id : UInt32) (hostname : String) (status : Status) : Roll :=
  { roll with members := roll.members.insert id (hostname, status) }

/-- Strikes a member off the roll. -/
def strike (roll : Roll) (id : UInt32) : Roll :=
  { roll with members := roll.members.erase id }

/-- The roll after one more record.  Only records of level `info` count, and what
cannot be read changes nothing. -/
def note (roll : Roll) (l : LogRecord) : Roll :=
  if l.level ≠ .info then roll
  else if l.message = "Node joined cluster" then
    match l.nodeId?, l.text? "hostname", l.status? with
    | some id, some hostname, some status => roll.put id hostname status
    | _, _, _ => roll
  else if l.message = "Node left cluster" then
    match l.nodeId? with
    | some id => roll.strike id
    | none => roll
  else if l.message = "Cluster created" then
    match l.text? "cluster" with
    | some name => { roll with cluster := some name }
    | none => roll
  else if l.message = "Cluster destroyed" then blank
  else roll

/-- The roll after more records. -/
def replay (roll : Roll) (records : List LogRecord) : Roll :=
  records.foldl note roll

/-- What a record says fits the roll: the sizes that it reports, and who joins or
leaves. -/
structure Fits (roll : Roll) (l : LogRecord) : Prop where
  size : l.message = "Cluster created" ∨ l.message = "Cluster destroyed" →
    l.field? "nodes" = some (.natural roll.members.size)
  joined : l.message = "Node joined cluster" →
    ∃ id : UInt32, l.field? "node_id" = some (.natural id.toNat) ∧ roll.members.get? id = none
  left : l.message = "Node left cluster" →
    ∃ id : UInt32, l.field? "node_id" = some (.natural id.toNat) ∧
      ∃ entry, roll.members.get? id = some entry

/-- Every record fits the roll that the records before it lead to. -/
def Sound (roll : Roll) : List LogRecord → Prop
  | [] => True
  | l :: rest => roll.Fits l ∧ (roll.note l).Sound rest

variable {roll : Roll}

theorem Sound.append {records more : List LogRecord} (sound : roll.Sound records)
    (soundMore : (roll.replay records).Sound more) : roll.Sound (records ++ more) := by
  induction records generalizing roll with
  | nil => exact soundMore
  | cons l rest ih => exact ⟨sound.1, ih sound.2 soundMore⟩

theorem Sound.fits {before after : List LogRecord} {l : LogRecord}
    (sound : roll.Sound (before ++ l :: after)) : (roll.replay before).Fits l := by
  induction before generalizing roll with
  | nil => exact sound.1
  | cons first rest ih => exact ih sound.2

@[simp]
theorem replay_singleton (l : LogRecord) : roll.replay [l] = roll.note l :=
  rfl

theorem replay_append (records more : List LogRecord) :
    roll.replay (records ++ more) = (roll.replay records).replay more :=
  List.foldl_append

/-! ### What events tell -/

section

variable (roll)

theorem note_of_warning {e : Event} (warning : e.level = .warn) : roll.note e.record = roll := by
  have quiet : e.record.level ≠ .info := by
    change e.level ≠ .info
    simp [warning]
  rw [note, if_pos quiet]

theorem note_joined {l : LogRecord} {id : UInt32} {hostname : String} {status : Status}
    (level : l.level = .info) (message : l.message = "Node joined cluster")
    (own : l.field? "node_id" = some (.natural id.toNat))
    (host : l.field? "hostname" = some (.text hostname))
    (state : l.field? "status" = some (.text status.name)) :
    roll.note l = roll.put id hostname status := by
  have named : l.text? "hostname" = some hostname := by
    rw [LogRecord.text?, host]
  simp [note, level, message, l.nodeId?_of_field? own, named, l.status?_of_field? state]

theorem note_left {l : LogRecord} {id : UInt32} (level : l.level = .info)
    (message : l.message = "Node left cluster")
    (own : l.field? "node_id" = some (.natural id.toNat)) : roll.note l = roll.strike id := by
  simp [note, level, message, l.nodeId?_of_field? own]

theorem note_created (name : String) (nodes : Nat) (totalMemoryMb : UInt64) :
    roll.note (Event.created name nodes totalMemoryMb).record =
      { roll with cluster := some name } :=
  rfl

/-- A record that neither counts members nor says who came or went fits every roll. -/
theorem fits_of_message {l : LogRecord} (created : l.message ≠ "Cluster created")
    (destroyed : l.message ≠ "Cluster destroyed") (joined : l.message ≠ "Node joined cluster")
    (left : l.message ≠ "Node left cluster") : roll.Fits l where
  size reported := by
    rcases reported with isCreated | isDestroyed
    · exact absurd isCreated created
    · exact absurd isDestroyed destroyed
  joined isJoined := absurd isJoined joined
  left isLeft := absurd isLeft left

theorem fits_of_size {l : LogRecord} (joined : l.message ≠ "Node joined cluster")
    (left : l.message ≠ "Node left cluster")
    (counted : l.field? "nodes" = some (.natural roll.members.size)) : roll.Fits l where
  size _ := counted
  joined isJoined := absurd isJoined joined
  left isLeft := absurd isLeft left

theorem fits_of_warning {e : Event} (warning : e.level = .warn) : roll.Fits e.record := by
  cases e with
  | createRefusedHeld | createRefusedRepeated | addRefused | endpointRefused =>
      apply fits_of_message <;> simp [Event.record, Event.message]
  | founderJoined | created | destroyed | nodeJoined | nodeLeft | endpointRegistered =>
      contradiction

theorem fits_joined {l : LogRecord} {id : UInt32} (message : l.message = "Node joined cluster")
    (own : l.field? "node_id" = some (.natural id.toNat))
    (absent : roll.members.get? id = none) : roll.Fits l where
  size reported := by simp [message] at reported
  joined _ := ⟨id, own, absent⟩
  left isLeft := by simp [message] at isLeft

theorem fits_left {l : LogRecord} {id : UInt32} {entry : String × Status}
    (message : l.message = "Node left cluster")
    (own : l.field? "node_id" = some (.natural id.toNat))
    (found : roll.members.get? id = some entry) : roll.Fits l where
  size reported := by simp [message] at reported
  joined isJoined := by simp [message] at isJoined
  left _ := ⟨id, own, entry, found⟩

end

end Roll

/-! ## What the registry holds -/

/-- The entry of a member on the roll. -/
def Member.rollEntry (m : Member) : String × Status :=
  (m.hostname, m.status)

namespace Cluster

/-- The members of a cluster as they stand on the roll. -/
def rollMembers (c : Cluster) : IdMap (String × Status) :=
  c.members.map Member.rollEntry

variable (c : Cluster)

theorem rollMembers_enroll (now : Instant) (spec : NodeSpec) :
    (c.enroll now spec).rollMembers =
      c.rollMembers.insert spec.nodeId (spec.hostname, (spec.enroll now).status) := by
  rw [rollMembers, members_enroll, IdMap.map_insert]
  rfl

theorem rollMembers_leave (id : UInt32) : (c.leave id).rollMembers = c.rollMembers.erase id :=
  c.members.map_erase Member.rollEntry id

theorem size_rollMembers : c.rollMembers.size = c.members.size :=
  c.members.size_map Member.rollEntry

theorem get?_rollMembers (id : UInt32) :
    c.rollMembers.get? id = (c.members.get? id).map Member.rollEntry :=
  c.members.get?_map Member.rollEntry id

theorem name_foldl_enroll (now : Instant) (nodes : List NodeSpec) :
    (nodes.foldl (enroll now) c).name = c.name := by
  induction nodes generalizing c with
  | nil => rfl
  | cons spec rest ih => rw [List.foldl_cons, ih, name_enroll]

end Cluster

/-- What the roll should say. -/
def Registry.roll (r : Registry) : Roll :=
  match r.held with
  | none => .blank
  | some c => ⟨some c.name, c.rollMembers⟩

namespace Registry

variable {r : Registry}

theorem roll_of_free (free : r.held = none) : r.roll = .blank := by
  rw [roll, free]

theorem roll_of_held {c : Cluster} (held : r.held = some c) :
    r.roll = ⟨some c.name, c.rollMembers⟩ := by
  rw [roll, held]

/-- The records that calls leave in the log, made one after another. -/
def records (r : Registry) : List (Instant × Call) → List LogRecord
  | [] => []
  | (now, call) :: rest =>
      let outcome := r.run now call
      outcome.events.map Event.record ++ outcome.registry.records rest

/-! ## One call -/

/-- Nodes that join a cluster when it is created are put on the roll one after
another, and none of them stands on it already. -/
theorem replay_founders (now : Instant) (name : String) (cluster : Option String)
    {nodes : List NodeSpec} {c : Cluster} (distinct : (nodes.map (·.nodeId)).Nodup)
    (absent : ∀ spec ∈ nodes, c.members.get? spec.nodeId = none) :
    let records := (nodes.map fun spec => founderEvent name (spec.enroll now)).map Event.record
    (Roll.mk cluster c.rollMembers).Sound records ∧
      (Roll.mk cluster c.rollMembers).replay records =
        ⟨cluster, (nodes.foldl (Cluster.enroll now) c).rollMembers⟩ := by
  induction nodes generalizing c with
  | nil => exact ⟨trivial, rfl⟩
  | cons spec rest ih =>
      have entered :
          (Roll.mk cluster c.rollMembers).note (founderEvent name (spec.enroll now)).record =
            ⟨cluster, (c.enroll now spec).rollMembers⟩ := by
        rw [Roll.note_joined _ rfl rfl rfl rfl rfl, c.rollMembers_enroll]
        rfl
      have fits :
          (Roll.mk cluster c.rollMembers).Fits (founderEvent name (spec.enroll now)).record := by
        apply Roll.fits_joined _ rfl rfl
        change c.rollMembers.get? spec.nodeId = none
        rw [c.get?_rollMembers, absent spec List.mem_cons_self, Option.map_none]
      obtain ⟨sound, replayed⟩ := ih (List.nodup_cons.mp distinct).2
        (Cluster.absent_of_nodup_cons now distinct absent)
      rw [← entered] at sound replayed
      exact ⟨⟨fits, sound⟩, replayed⟩

/-- Warnings leave the roll alone. -/
theorem replay_warnings {events : List Event} (roll : Roll)
    (warnings : ∀ event ∈ events, event.level = .warn) :
    roll.Sound (events.map Event.record) ∧ roll.replay (events.map Event.record) = roll := by
  induction events with
  | nil => exact ⟨trivial, rfl⟩
  | cons event rest ih =>
      have warning := warnings event List.mem_cons_self
      obtain ⟨sound, replayed⟩ := ih fun other otherMem =>
        warnings other (List.mem_cons_of_mem event otherMem)
      have same := roll.note_of_warning warning
      constructor
      · refine ⟨roll.fits_of_warning warning, ?_⟩
        rw [same]
        exact sound
      · change (roll.note event.record).replay (rest.map Event.record) = roll
        rw [same]
        exact replayed

/-- Whatever a call logs fits the roll of the registry before it, and leads to the
roll of the registry after it. -/
theorem Logged.replay {now : Instant} {r r' : Registry} {call : Call} {failure : Option Error}
    {events : List Event} (logged : Logged now r call failure events r') :
    r.roll.Sound (events.map Event.record) ∧
      r.roll.replay (events.map Event.record) = r'.roll := by
  cases logged with
  | @created name nodes c free distinct filled =>
      obtain ⟨sound, replayed⟩ := replay_founders now name none distinct fun _ _ =>
        Cluster.get?_members_new name now _
      have named : c.name = name := by
        rw [← filled]
        exact Cluster.name_foldl_enroll _ now nodes
      rw [filled] at replayed
      rw [roll_of_free free, List.map_append]
      constructor
      · apply sound.append
        refine ⟨?_, trivial⟩
        apply Roll.fits_of_size
        · simp [Event.record, Event.message]
        · simp [Event.record, Event.message]
        · rw [replayed, c.size_rollMembers]
          rfl
      · rw [Roll.replay_append]
        change (Roll.replay ⟨none, (Cluster.new name now).rollMembers⟩ _).replay [_] = _
        rw [replayed, Roll.replay_singleton, Roll.note_created, roll_of_held rfl, named]
  | @destroyed c held =>
      rw [roll_of_held held]
      refine ⟨⟨?_, trivial⟩, rfl⟩
      apply Roll.fits_of_size
      · simp [Event.record, Event.message]
      · simp [Event.record, Event.message]
      · rw [c.size_rollMembers]
        rfl
  | @joined c spec held absent =>
      rw [roll_of_held held]
      constructor
      · refine ⟨?_, trivial⟩
        apply Roll.fits_joined _ rfl rfl
        rw [c.get?_rollMembers, absent, Option.map_none]
      · rw [List.map_singleton, Roll.replay_singleton, Roll.note_joined _ rfl rfl rfl rfl rfl,
          roll_of_held rfl, c.rollMembers_enroll, Cluster.name_enroll]
        rfl
  | @left c id m held found =>
      rw [roll_of_held held]
      constructor
      · refine ⟨?_, trivial⟩
        apply Roll.fits_left _ rfl rfl
        rw [c.get?_rollMembers, found, Option.map_some]
      · rw [List.map_singleton, Roll.replay_singleton, Roll.note_left _ rfl rfl rfl,
          roll_of_held rfl, c.rollMembers_leave]
        rfl
  | @registered c id e held present =>
      rw [roll_of_held held]
      refine ⟨⟨?_, trivial⟩, rfl⟩
      apply Roll.fits_of_message <;> simp [Event.record, Event.message]
  | answered => exact ⟨trivial, rfl⟩
  | refused _ _ warnings => exact replay_warnings r.roll warnings

/-- A call that fails logs nothing but warnings. -/
theorem Logged.quiet_of_failed {now : Instant} {r r' : Registry} {call : Call} {e : Error}
    {events : List Event} (logged : Logged now r call (some e) events r') :
    ∀ event ∈ events, event.record.level ≠ .info := by
  cases logged with
  | answered => simp
  | refused _ _ warnings =>
      intro event eventMem
      change event.level ≠ .info
      simp [warnings event eventMem]

theorem Logged.quiet_of_query {now : Instant} {r r' : Registry} {call : Call}
    {failure : Option Error} {events : List Event}
    (logged : Logged now r call failure events r') (query : call.isQuery = true) :
    events = [] := by
  cases logged with
  | created | destroyed | joined | left | registered => contradiction
  | answered => rfl
  | refused command =>
      rw [query] at command
      contradiction

/-! ## Runs -/

/-- The records of a run fit the roll record by record, and lead from the roll of the
registry before it to the roll of the registry after it. -/
theorem replay_records (r : Registry) (calls : List (Instant × Call)) :
    r.roll.Sound (r.records calls) ∧ r.roll.replay (r.records calls) = (r.runAll calls).roll := by
  induction calls generalizing r with
  | nil => exact ⟨trivial, rfl⟩
  | cons first rest ih =>
      obtain ⟨now, call⟩ := first
      obtain ⟨sound, replayed⟩ := (logged_run now r call).replay
      obtain ⟨soundRest, replayedRest⟩ := ih (r.run now call).registry
      rw [← replayed] at soundRest replayedRest
      constructor
      · exact sound.append soundRest
      · exact (Roll.replay_append _ _).trans replayedRest

/-- The log of a registry is an audit trail.  After any calls the roll that is kept by
the records alone has the name of the cluster that is held and its members with their
host names and statuses, and is blank if none is held.  The sizes that the records of
creations and destructions report are those of the roll, who joins is not on it, and
who leaves is.  A call that fails leaves no record of level `info`, and a query leaves
none at all. -/
theorem log_is_audit_trail (calls : List (Instant × Call)) :
    let r := empty.runAll calls
    let log := empty.records calls
    (Roll.blank.replay log).cluster = r.held.map Cluster.name ∧
    (Roll.blank.replay log).members = r.held.elim .empty Cluster.rollMembers ∧
    (∀ before l after, log = before ++ l :: after → (Roll.blank.replay before).Fits l) ∧
    ∀ now call,
      ((∃ e, (r.run now call).answer = .error e) →
        ∀ event ∈ (r.run now call).events, event.record.level ≠ .info) ∧
      (call.isQuery = true → (r.run now call).events = []) := by
  intro r log
  obtain ⟨sound, replayed⟩ := empty.replay_records calls
  change Roll.blank.replay log = r.roll at replayed
  rw [replayed]
  refine ⟨?cluster, ?members, ?fits, ?calls⟩
  case cluster =>
    cases held : r.held with
    | none => rw [roll_of_free held]; rfl
    | some c => rw [roll_of_held held]; rfl
  case members =>
    cases held : r.held with
    | none => rw [roll_of_free held]; rfl
    | some c => rw [roll_of_held held]; rfl
  case fits =>
    intro before l after split
    change Roll.blank.Sound log at sound
    rw [split] at sound
    exact sound.fits
  case calls =>
    intro now call
    have logged := logged_run now r call
    constructor
    · rintro ⟨e, failed⟩
      rw [Outcome.failure?_eq_some_iff.mpr failed] at logged
      exact logged.quiet_of_failed
    · exact logged.quiet_of_query

end Registry

end ControlPlane
