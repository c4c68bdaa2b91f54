import ControlPlane.Proofs.Time.Reading
import ControlPlane.Proofs.Time.Succession
import ControlPlane.Proofs.Wire.Sequence

/-!
# Texts of members and their instants

A text is read as a member if it is an object or a full array that says every field of the
member, the instant being any text that denotes it.  The zone of that text is not kept: what
is written for the member has the instant in universal time.
-/

namespace ControlPlane.Json

/-- The text is a record that says these members: it is the object of them, or an array of
the values of all fields in their order. -/
inductive IsRecordText (fields : List Field) (s : String) : List (String × Draft) → Prop
  | keyed {members : List (String × Draft)} (object : IsObjectText s members) :
      IsRecordText fields s members
  | positional {items : List Draft} (array : Draft.ofText s.toList = (.array items true, []))
      (full : items.length = fields.length) : IsRecordText fields s (inOrder fields items)

theorem IsRecordText.isValue_of_mem {fields : List Field} {s : String}
    {members : List (String × Draft)} (text : IsRecordText fields s members) :
    ∀ m ∈ members, m.2.isValue = true := by
  cases text with
  | keyed object => exact object.isValue_of_mem
  | @positional items array full =>
      have whole : (Draft.array items true).isValue = true := Draft.isValue_of_ofText array rfl
      rw [Draft.isValue, Bool.and_eq_true, Draft.areValues_iff] at whole
      exact fun m mMem => whole.1 m.2 (mem_of_mem_inOrder mMem).2

end ControlPlane.Json

namespace ControlPlane.Wire

open ControlPlane.Json
open ControlPlane.Time (Date Instant firstDay lastDay)

/-! ## Instants -/

theorem instant_eq_ok_iff {depth : Nat} {d : Draft} {i : Instant} :
    instant depth d = .ok i ↔ ∃ t, d = .text (some t) ∧ Time.Stamp.Denotes t.toList i := by
  rw [instant, Decoder.textAs_eq_ok_iff]
  refine exists_congr fun t => and_congr_right fun _ => ?_
  rw [← Time.Instant.ofText_eq_ok_iff]
  cases read : Instant.ofText t <;> simp

/-- Whole seconds are those of the instant that is built from them. -/
theorem ofUnixSeconds?_eq_some_iff {seconds : Int} {i : Instant} :
    Instant.ofUnixSeconds? seconds = some i ↔ i.unixSeconds = seconds ∧ i.nano = 0 := by
  have inDay := i.second_lt
  rw [Instant.ofUnixSeconds?, Time.StampReader.of?_eq_some_iff, Instant.unixSeconds]
  omega

/-- They may be any from the first day to the last. -/
theorem exists_ofUnixSeconds?_iff {seconds : Int} :
    (∃ i, Instant.ofUnixSeconds? seconds = some i) ↔
      firstDay * 86400 ≤ seconds ∧ seconds < (lastDay + 1) * 86400 := by
  constructor
  · rintro ⟨i, built⟩
    obtain ⟨rfl, -⟩ := ofUnixSeconds?_eq_some_iff.mp built
    have low := i.firstDay_le
    have high := i.le_lastDay
    have inDay := i.second_lt
    rw [Instant.unixSeconds]
    omega
  · rintro ⟨low, high⟩
    refine ⟨⟨seconds / 86400, (seconds % 86400).toNat, 0, ?_, ?_, ?_, ?_, ?_⟩, ?_⟩
    case refine_6 => exact Time.StampReader.of?_eq_some_iff.mpr ⟨rfl, rfl, rfl⟩
    all_goals omega

/-- What is written for an instant ends with the mark of universal time. -/
theorem getLast?_text (i : Instant) : i.text.toList.getLast? = some 'Z' := by
  rw [Instant.text, String.toList_ofList, Instant.stamp]
  exact List.getLast?_concat

/-! ## What a text says of a member -/

/-- The members say every field of a member once, but may leave out the identifier of its
group or say that it is `null`.  The instant is any text that denotes it. -/
structure SaysMember (members : List (String × Draft)) (m : Member) : Prop where
  required : ∀ f ∈ requiredFields m.announced, Once members f.1 f.2
  rdmaGid : Optionally members "rdma_gid" (fun d gid => d = .text (some gid)) m.rdmaGid
  status : Once members "status" fun d => IsStatus d m.status
  joinedAt : Once members "joined_at" fun d =>
    ∃ t, d = .text (some t) ∧ Time.Stamp.Denotes t.toList m.joinedAt

section Decoding

variable {members : List (String × Draft)} {m : Member} {depth : Nat}

theorem describesMember_iff (deep : 1 < depth) :
    DescribesMember depth members m ↔ SaysMember members m := by
  constructor
  · rintro ⟨required, gid, status, joinedAt⟩
    exact ⟨required, gid, status.imp fun _ => (status_eq_ok_iff deep).mp,
      joinedAt.imp fun _ => instant_eq_ok_iff.mp⟩
  · rintro ⟨required, gid, status, joinedAt⟩
    exact ⟨required, gid, status.imp fun _ => (status_eq_ok_iff deep).mpr,
      joinedAt.imp fun _ => instant_eq_ok_iff.mpr⟩

/-- What is read as a member describes it. -/
theorem describesMember_of_member (deep : 1 < depth)
    (values : ∀ m ∈ members, m.2.isValue = true)
    (read : member depth (.object (members.map Record.named) .closed) = .ok m) :
    DescribesMember (depth - 1) members m := by
  obtain ⟨kept, vetted, read⟩ := bind_eq_ok_iff.mp read
  obtain ⟨vettable, rfl⟩ := (Record.vet_object_eq_ok_iff deep values).mp vetted
  have distinct : (memberFields.map Field.name).Nodup := by decide
  rw [Record.vettable_iff_of_distinct distinct] at vettable
  simp only [memberFields, List.forall_mem_cons] at vettable
  obtain ⟨idSaid, hostnameSaid, addressSaid, gidSaid, cpusSaid, memorySaid, statusSaid,
    joinedSaid, -⟩ := vettable
  obtain ⟨id, idRead, read⟩ := bind_eq_ok_iff.mp read
  obtain ⟨hostname, hostnameRead, read⟩ := bind_eq_ok_iff.mp read
  obtain ⟨address, addressRead, read⟩ := bind_eq_ok_iff.mp read
  obtain ⟨gid, gidRead, read⟩ := bind_eq_ok_iff.mp read
  obtain ⟨cpus, cpusRead, read⟩ := bind_eq_ok_iff.mp read
  obtain ⟨memory, memoryRead, read⟩ := bind_eq_ok_iff.mp read
  obtain ⟨status, statusRead, read⟩ := bind_eq_ok_iff.mp read
  obtain ⟨joinedAt, joinedRead, read⟩ := bind_eq_ok_iff.mp read
  cases read
  refine ⟨?required, ?gid, Record.once_of_required rfl statusSaid statusRead,
    Record.once_of_required rfl joinedSaid joinedRead⟩
  case required =>
    simp only [requiredFields, List.forall_mem_cons]
    exact
      ⟨(Record.once_of_required rfl idSaid idRead).imp fun _ => Decoder.uint32_eq_ok_iff.mp,
        (Record.once_of_required rfl hostnameSaid hostnameRead).imp
          fun _ => Decoder.text_eq_ok_iff.mp,
        (Record.once_of_required rfl addressSaid addressRead).imp
          fun _ => Decoder.text_eq_ok_iff.mp,
        (Record.once_of_required rfl cpusSaid cpusRead).imp
          fun _ => Decoder.uint32_eq_ok_iff.mp,
        (Record.once_of_required rfl memorySaid memoryRead).imp
          fun _ => Decoder.uint64_eq_ok_iff.mp, by simp⟩
  case gid =>
    obtain ⟨o, said⟩ := Record.exists_optionally (fun _ _ => Decoder.text_eq_ok_iff)
      (gidSaid.imp fun _ => Record.check_of_eq_ok_iff.mp)
    have same : Record.optional (members.filter (Record.isField memberFields)) "rdma_gid"
        (.nullable .text) none (depth - 1) = .ok o :=
      Record.optional_of_optionally rfl (fun _ _ => Decoder.text_eq_ok_iff) text_ne_null said
    rw [gidRead] at same
    cases same
    exact said

/-- Exactly the objects that describe a member are read as it. -/
theorem member_eq_ok_iff (deep : 2 < depth) (values : ∀ m ∈ members, m.2.isValue = true) :
    member depth (.object (members.map Record.named) .closed) = .ok m ↔ SaysMember members m := by
  rw [← describesMember_iff (show 1 < depth - 1 by omega)]
  exact ⟨describesMember_of_member (Nat.lt_of_succ_lt deep) values,
    member_of_describes (Nat.lt_of_succ_lt deep) values⟩

end Decoding

/-- A record is read as the member whose fields it says. -/
theorem ofText_member_of_record {s : String} {members : List (String × Draft)}
    (text : IsRecordText memberFields s members) {m : Member} :
    Decoder.ofText member s = .ok m ↔ SaysMember members m := by
  rw [← member_eq_ok_iff (by decide : 2 < depthLimit) text.isValue_of_mem]
  cases text with
  | keyed object => rw [object.ofText_eq]
  | positional array full => rw [Decoder.ofText_of_draft array, member_array full]

/-- Only records are read as members. -/
theorem exists_isRecordText {s : String} {m : Member} (read : Decoder.ofText member s = .ok m) :
    ∃ members, IsRecordText memberFields s members := by
  obtain ⟨d, whole⟩ := Decoder.exists_draft_of_ofText read
  rw [Decoder.ofText_of_draft whole] at read
  obtain ⟨kept, vetted, -⟩ := bind_eq_ok_iff.mp read
  cases d with
  | object members tail =>
      obtain ⟨_, -, vetted⟩ := bind_eq_ok_iff.mp vetted
      obtain ⟨rfl, members, rfl⟩ := Record.exists_named_of_vetMembers vetted
      exact ⟨members, .keyed whole⟩
  | array items closed =>
      obtain ⟨_, -, vetted⟩ := bind_eq_ok_iff.mp vetted
      have demanded : ∀ field ∈ memberFields, field.mayEnd = false := by
        simp [memberFields, Field.of]
      obtain ⟨full, rfl⟩ := Record.full_of_vetItems demanded vetted
      exact ⟨inOrder memberFields items, .positional whole full⟩
  | fault | null | bool | number | text => cases vetted

/-- Exactly the texts of records that say all fields of a member are read as it. -/
theorem ofText_member_eq_ok_iff {s : String} {m : Member} :
    Decoder.ofText member s = .ok m ↔
      ∃ members, IsRecordText memberFields s members ∧ SaysMember members m := by
  constructor
  · intro read
    obtain ⟨members, text⟩ := exists_isRecordText read
    exact ⟨members, text, (ofText_member_of_record text).mp read⟩
  · rintro ⟨members, text, said⟩
    exact (ofText_member_of_record text).mpr said

/-! ## Texts that differ in an instant -/

/-- The text is a record that says the instant of a member as another text does, and of the
other fields what some members say. -/
def IsStamped (s : String) (others : List (String × Draft)) (t : String) : Prop :=
  ∃ members, IsRecordText memberFields s members ∧
    valuesOf members "joined_at" = [.text (some t)] ∧
    ∀ field ∈ memberFields, field.name ≠ "joined_at" →
      valuesOf members field.name = valuesOf others field.name

section Stamped

variable {s s' t t' : String} {others members members' : List (String × Draft)} {i : Instant}
  {m : Member}

/-- A member joined at the instant that its text denotes. -/
theorem SaysMember.joinedAt_eq (said : SaysMember members m)
    (stamp : valuesOf members "joined_at" = [.text (some t)])
    (denotes : Time.Stamp.Denotes t.toList i) : m.joinedAt = i := by
  obtain ⟨_, once, _, rfl, other⟩ := said.joinedAt
  rw [stamp] at once
  cases once
  exact other.unique denotes

/-- The instant may be said by another text that denotes it. -/
theorem SaysMember.restamp (said : SaysMember members m)
    (stamp : valuesOf members "joined_at" = [.text (some t)])
    (denotes : Time.Stamp.Denotes t.toList i)
    (stamp' : valuesOf members' "joined_at" = [.text (some t')])
    (denotes' : Time.Stamp.Denotes t'.toList i)
    (alike : ∀ field ∈ memberFields, field.name ≠ "joined_at" →
      valuesOf members field.name = valuesOf members' field.name) :
    SaysMember members' m := by
  obtain rfl := said.joinedAt_eq stamp denotes
  have distinct : (memberFields.map Field.name).Nodup := by decide
  have same {name : String} (known : (Record.field? memberFields name).isSome = true)
      (other : name ≠ "joined_at") : (valuesOf members name).Perm (valuesOf members' name) := by
    obtain ⟨field, found⟩ := Option.isSome_iff_exists.mp known
    obtain ⟨fieldMem, rfl⟩ := (Record.field?_eq_some_iff distinct).mp found
    exact .of_eq (alike field fieldMem other)
  have known : ∀ f ∈ requiredFields m.announced,
      (Record.field? memberFields f.1).isSome = true ∧ f.1 ≠ "joined_at" := by
    simp only [requiredFields, List.forall_mem_cons]
    refine ⟨⟨rfl, ?_⟩, ⟨rfl, ?_⟩, ⟨rfl, ?_⟩, ⟨rfl, ?_⟩, ⟨rfl, ?_⟩, by simp⟩ <;> decide
  obtain ⟨required, gid, status, -⟩ := said
  refine ⟨?_, ?_, ?_, ⟨_, stamp', _, rfl, denotes'⟩⟩
  · exact fun f fMem => (once_congr (same (known f fMem).1 (known f fMem).2)).mp (required f fMem)
  · exact (optionally_congr (same rfl (by decide))).mp gid
  · exact (once_congr (same rfl (by decide))).mp status

/-- Texts that say the same but for the text of one instant are read alike. -/
theorem IsStamped.ofText_iff (stamped : IsStamped s others t) (stamped' : IsStamped s' others t')
    (denotes : Time.Stamp.Denotes t.toList i) (denotes' : Time.Stamp.Denotes t'.toList i) :
    Decoder.ofText member s = .ok m ↔ Decoder.ofText member s' = .ok m := by
  obtain ⟨members, text, stamp, alike⟩ := stamped
  obtain ⟨members', text', stamp', alike'⟩ := stamped'
  rw [ofText_member_of_record text, ofText_member_of_record text']
  constructor
  · intro said
    exact said.restamp stamp denotes stamp' denotes' fun field fieldMem other =>
      (alike field fieldMem other).trans (alike' field fieldMem other).symm
  · intro said
    exact said.restamp stamp' denotes' stamp denotes fun field fieldMem other =>
      (alike' field fieldMem other).trans (alike field fieldMem other).symm

theorem IsStamped.joinedAt_eq (stamped : IsStamped s others t)
    (denotes : Time.Stamp.Denotes t.toList i) (read : Decoder.ofText member s = .ok m) :
    m.joinedAt = i := by
  obtain ⟨members, text, stamp, -⟩ := stamped
  exact ((ofText_member_of_record text).mp read).joinedAt_eq stamp denotes

end Stamped

/-! ## Members are read back -/

theorem ofText_memberValue (m : Member) :
    Decoder.ofText member (memberValue m).render = .ok m := by
  rw [Decoder.ofText_render (plain_memberValue m)]
  exact member_memberValue m (by decide)

/-- What is written for a member says its instant in universal time. -/
theorem isStamped_memberValue (m : Member) :
    IsStamped (memberValue m).render (Value.drafts (memberMembers m)) m.joinedAt.text := by
  have object : IsObjectText (memberValue m).render (Value.drafts (memberMembers m)) := by
    have plain := plain_memberValue m
    rw [memberValue_eq] at plain ⊢
    cases plain with
    | object members => exact isObjectText_render members
  refine ⟨_, .keyed object, ?_, fun _ _ _ => rfl⟩
  obtain ⟨id, hostname, address, gid, cpus, memory, status, joinedAt⟩ := m
  cases gid <;> rfl

/-- Members are read back from the texts they are written as, whatever their instants are.
In particular a member that joined at a whole number of seconds has that number again; there
is one for each number from the first day to the last.

A text is an instant exactly if it denotes one, and the calendar behind this counts the days
one by one from the first of January 1970.  A text is a member exactly if it is a record of
its fields.  If two such texts differ in the text of the instant only, and both denote the same
one, then they are read alike and rewritten to the same text, in which the instant stands in
universal time, marked with `Z`. -/
theorem members_keep_their_instants :
    (∀ m, Decoder.ofText member (memberValue m).render = .ok m) ∧
    (∀ seconds : Int, (∃ i, Instant.ofUnixSeconds? seconds = some i) ↔
      firstDay * 86400 ≤ seconds ∧ seconds < (lastDay + 1) * 86400) ∧
    (∀ seconds i, Instant.ofUnixSeconds? seconds = some i →
      i.unixSeconds = seconds ∧ Instant.ofText i.text = .ok i ∧
      ∀ spec : NodeSpec,
        Decoder.ofText member (memberValue (spec.enroll i)).render = .ok (spec.enroll i)) ∧
    (∀ s i, Instant.ofText s = .ok i ↔ Time.Stamp.Denotes s.toList i) ∧
    (Date.mk 1970 1 1).toDays = 0 ∧
    (∀ d : Date, d.isValid = true →
      d.next.isValid = true ∧ d.next.toDays = d.toDays + 1 ∧ .ofDays d.toDays = d) ∧
    (∀ days : Int, (Date.ofDays days).isValid = true ∧ (Date.ofDays days).toDays = days ∧
      Date.ofDays (days + 1) = (Date.ofDays days).next) ∧
    (∀ s m, Decoder.ofText member s = .ok m ↔
      ∃ members, IsRecordText memberFields s members ∧ SaysMember members m) ∧
    (∀ s s' others t t' i, IsStamped s others t → IsStamped s' others t' →
      Time.Stamp.Denotes t.toList i → Time.Stamp.Denotes t'.toList i →
      (∀ m, Decoder.ofText member s = .ok m ↔ Decoder.ofText member s' = .ok m) ∧
      (∀ m, Decoder.ofText member s = .ok m → m.joinedAt = i ∧
        ∃ written, rewrite member memberValue s = .ok written ∧
          rewrite member memberValue s' = .ok written ∧
          (∃ said, IsStamped written said i.text) ∧ i.text.toList.getLast? = some 'Z')) := by
  refine ⟨ofText_memberValue, fun _ => exists_ofUnixSeconds?_iff, ?seconds,
    fun _ _ => Time.Instant.ofText_eq_ok_iff, by decide, ?dates, ?days,
    fun _ _ => ofText_member_eq_ok_iff, ?stamps⟩
  case seconds =>
    intro seconds i built
    exact ⟨(ofUnixSeconds?_eq_some_iff.mp built).1, Time.Instant.ofText_text i,
      fun spec => ofText_memberValue (spec.enroll i)⟩
  case dates =>
    exact fun d valid =>
      ⟨Time.Date.isValid_next valid, Time.Date.toDays_next valid, Time.Date.ofDays_toDays valid⟩
  case days =>
    exact fun days =>
      ⟨Time.Date.isValid_ofDays days, Time.Date.toDays_ofDays days, Time.Date.ofDays_add_one days⟩
  case stamps =>
    intro s s' others t t' i stamped stamped' denotes denotes'
    have alike {m : Member} : Decoder.ofText member s = .ok m ↔ Decoder.ofText member s' = .ok m :=
      stamped.ofText_iff stamped' denotes denotes'
    refine ⟨fun _ => alike, fun m read => ?_⟩
    obtain rfl := stamped.joinedAt_eq denotes read
    refine ⟨rfl, (memberValue m).render, ?_, ?_, ⟨_, isStamped_memberValue m⟩, getLast?_text _⟩
    · rw [rewrite, read]
      rfl
    · rw [rewrite, alike.mp read]
      rfl

/-- The leap second at the end of 2016, and a fraction of it. -/
def leap : Instant :=
  ⟨17166, 86399, 1123456789, by decide, by decide, by decide, by decide, by decide⟩

/-- A member that joined then, as told in Paris. -/
def leapInParis : String :=
  "\x7b\"node_id\":7,\"hostname\":\"n\",\"ip_address\":\"\",\"cpu_count\":8," ++
    "\"memory_mb\":64,\"status\":\"active\",\"rdma_gid\":null," ++
    "\"joined_at\":\"2017-01-01T00:59:60.1234567899+01:00\"\x7d"

/-- The same member, as told in New York and by an array. -/
def leapInNewYork : String :=
  "[7,\"n\",\"\",null,8,64,\"active\",\"2016-12-31 18:59:60.123456789 -0500\"]"

/-- What both say apart from the instant. -/
def leapMembers : List (String × Draft) :=
  [("node_id", .number (.ofNat 7)), ("hostname", .text (some "n")),
   ("ip_address", .text (some "")), ("cpu_count", .number (.ofNat 8)),
   ("memory_mb", .number (.ofNat 64)), ("status", .text (some "active")), ("rdma_gid", .null)]

/-- Both are read as the member and rewritten alike.  There is an instant a second before
1970, too, and a description that is enrolled then is read back. -/
theorem members_keep_their_instants_of_leap :
    (∃ m, Decoder.ofText member leapInParis = .ok m ∧
      Decoder.ofText member leapInNewYork = .ok m ∧ m.joinedAt = leap ∧
      ∃ written, rewrite member memberValue leapInParis = .ok written ∧
        rewrite member memberValue leapInNewYork = .ok written ∧
        (∃ said, IsStamped written said leap.text) ∧ leap.text.toList.getLast? = some 'Z') ∧
    (∃ i, Instant.ofUnixSeconds? (-1) = some i ∧ i.unixSeconds = -1 ∧
      ∀ spec : NodeSpec,
        Decoder.ofText member (memberValue (spec.enroll i)).render = .ok (spec.enroll i)) ∧
    (Date.mk 2016 2 29).next.toDays = (Date.mk 2016 2 29).toDays + 1 := by
  obtain ⟨-, range, seconds, texts, -, dates, -, -, stamps⟩ := members_keep_their_instants
  have paris : IsStamped leapInParis leapMembers "2017-01-01T00:59:60.1234567899+01:00" := by
    refine ⟨leapMembers ++ [("joined_at", .text (some "2017-01-01T00:59:60.1234567899+01:00"))],
      .keyed ?_, rfl, ?_⟩
    · rw [IsObjectText]
      set_option maxRecDepth 4000 in rfl
    · simp only [memberFields, List.forall_mem_cons]
      exact ⟨fun _ => rfl, fun _ => rfl, fun _ => rfl, fun _ => rfl, fun _ => rfl, fun _ => rfl,
        fun _ => rfl, fun other => absurd rfl other, by simp⟩
  have newYork : IsStamped leapInNewYork leapMembers "2016-12-31 18:59:60.123456789 -0500" := by
    have array : Draft.ofText leapInNewYork.toList =
        (.array [.number (.ofNat 7), .text (some "n"), .text (some ""), .null,
          .number (.ofNat 8), .number (.ofNat 64), .text (some "active"),
          .text (some "2016-12-31 18:59:60.123456789 -0500")] true, []) := by
      set_option maxRecDepth 4000 in rfl
    refine ⟨_, .positional array rfl, rfl, ?_⟩
    simp only [memberFields, List.forall_mem_cons]
    exact ⟨fun _ => rfl, fun _ => rfl, fun _ => rfl, fun _ => rfl, fun _ => rfl, fun _ => rfl,
      fun _ => rfl, fun other => absurd rfl other, by simp⟩
  have inParis : Instant.ofText "2017-01-01T00:59:60.1234567899+01:00" = .ok leap := by
    decide +kernel
  have inNewYork : Instant.ofText "2016-12-31 18:59:60.123456789 -0500" = .ok leap := by
    decide +kernel
  obtain ⟨alike, kept⟩ := stamps _ _ _ _ _ leap paris newYork ((texts _ _).mp inParis)
    ((texts _ _).mp inNewYork)
  have read : Decoder.ofText member leapInParis = .ok ⟨7, "n", "", none, 8, 64, .active, leap⟩ := by
    decide +kernel
  obtain ⟨i, built⟩ := (range (-1)).mpr (by decide)
  obtain ⟨same, -, enrolled⟩ := seconds (-1) i built
  exact ⟨⟨_, read, (alike _).mp read, kept _ read⟩, ⟨i, built, same, enrolled⟩,
    (dates ⟨2016, 2, 29⟩ (by decide)).2.1⟩

end ControlPlane.Wire
