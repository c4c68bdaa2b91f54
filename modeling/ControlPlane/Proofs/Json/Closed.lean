import ControlPlane.Json.Draft

/-!
# Texts without a fault

Where the reader meets a fault it closes none of the containers that are open.  A
draft whose outermost container is closed was therefore read without a fault.  What
holds of such drafts is proved by one induction over the steps of the reader that go
on: everything in such a draft is a JSON value.
-/

namespace ControlPlane.Json

namespace Draft

/-- Does the draft end in a fault? -/
def isBroken : Draft → Bool
  | fault => true
  | array _ closed => !closed
  | object _ tail => tail ≠ .closed
  | null | bool _ | number _ | text _ => false

theorem areValues_iff {items : List Draft} :
    areValues items = true ↔ ∀ d ∈ items, d.isValue = true := by
  induction items with
  | nil => simp [areValues]
  | cons d rest ih => simp [areValues, ih]

theorem areMemberValues_iff {members : List (Option String × Draft)} :
    areMemberValues members = true ↔ ∀ m ∈ members, m.2.isValue = true := by
  induction members with
  | nil => simp [areMemberValues]
  | cons m rest ih => simp [areMemberValues, ih]

/-- Is the draft a value that is no container? -/
def isSimple : Draft → Bool
  | null | bool _ | number _ | text _ => true
  | fault | array _ _ | object _ _ => false

/-- A fault breaks the containers around it. -/
theorem isBroken_unwind {d : Draft} (frames : List Frame) (broken : d.isBroken = true) :
    (unwind d frames).isBroken = true := by
  induction frames generalizing d with
  | nil => exact broken
  | cons frame frames ih =>
      cases frame with
      | array items => exact ih rfl
      | object members key => exact ih rfl

/-- What breaks off is not whole. -/
theorem not_whole_unwind {d : Draft} (frames : List Frame) (broken : d.isBroken = true) :
    ¬ (unwind d frames).isBroken = false := by
  rw [isBroken_unwind frames broken]
  exact Bool.noConfusion

theorem read_openBracket {rest : List Token}
    (nonempty : ∀ after, rest ≠ .closeBracket :: after) (frames : List Frame) :
    read (.openBracket :: rest) frames = read rest (.array [] :: frames) := by
  rw [read]
  exact nonempty

section Whole

variable {Reads : List Token → List Frame → Prop}
  {Places : Draft → List Token → List Frame → Prop}

/-- Induction over texts without a fault: one case for each step of the reader that goes
on.  `Reads` is about a value that is due and `Places` about one that is finished. -/
theorem whole_induction
    (simple : ∀ token d rest frames, d.isSimple = true →
      (∀ rest frames, read (token :: rest) frames = place d rest frames) →
      Places d rest frames → Reads (token :: rest) frames)
    (emptyArray : ∀ rest frames, Places (.array [] true) rest frames →
      Reads (.openBracket :: .closeBracket :: rest) frames)
    (openArray : ∀ rest frames, (∀ after, rest ≠ .closeBracket :: after) → rest ≠ [] →
      Reads rest (.array [] :: frames) → Reads (.openBracket :: rest) frames)
    (emptyObject : ∀ rest frames, Places (.object [] .closed) rest frames →
      Reads (.openBrace :: .closeBrace :: rest) frames)
    (openObject : ∀ key rest frames, Reads rest (.object [] key :: frames) →
      Reads (.openBrace :: .text key :: .colon :: rest) frames)
    (done : ∀ d rest, Places d rest [])
    (nextItem : ∀ d rest items frames, Reads rest (.array (d :: items) :: frames) →
      Places d (.comma :: rest) (.array items :: frames))
    (closeArray : ∀ d rest items frames,
      Places (.array (d :: items).reverse true) rest frames →
      Places d (.closeBracket :: rest) (.array items :: frames))
    (nextMember : ∀ d next rest members key frames,
      Reads rest (.object ((key, d) :: members) next :: frames) →
      Places d (.comma :: .text next :: .colon :: rest) (.object members key :: frames))
    (closeObject : ∀ d rest members key frames,
      Places (.object ((key, d) :: members).reverse .closed) rest frames →
      Places d (.closeBrace :: rest) (.object members key :: frames)) :
    (∀ tokens frames, (read tokens frames).1.isBroken = false → Reads tokens frames) ∧
    (∀ d tokens frames, (place d tokens frames).1.isBroken = false → Places d tokens frames) := by
  apply read.mutual_induct
  case case1 =>
    exact fun rest frames ih whole => simple _ .null rest frames rfl (fun _ _ => rfl) (ih whole)
  case case2 =>
    exact fun b rest frames ih whole =>
      simple _ (.bool b) rest frames rfl (fun _ _ => rfl) (ih whole)
  case case3 =>
    exact fun n rest frames ih whole =>
      simple _ (.number n) rest frames rfl (fun _ _ => rfl) (ih whole)
  case case4 =>
    exact fun s rest frames ih whole =>
      simple _ (.text s) rest frames rfl (fun _ _ => rfl) (ih whole)
  case case5 => exact fun rest frames ih whole => emptyArray rest frames (ih whole)
  case case6 =>
    intro rest frames nonempty ih whole
    rw [read_openBracket nonempty] at whole
    refine openArray rest frames nonempty ?_ (ih whole)
    rintro rfl
    exact not_whole_unwind (.array [] :: frames) rfl whole
  case case7 => exact fun rest frames ih whole => emptyObject rest frames (ih whole)
  case case8 => exact fun key rest frames ih whole => openObject key rest frames (ih whole)
  case case13 => exact fun d rest _ => done d rest
  case case14 => exact fun d rest items frames ih whole => nextItem d rest items frames (ih whole)
  case case15 =>
    exact fun d rest items frames ih whole => closeArray d rest items frames (ih whole)
  case case17 =>
    exact fun d next rest members key frames ih whole =>
      nextMember d next rest members key frames (ih whole)
  case case19 =>
    exact fun d rest members key frames ih whole =>
      closeObject d rest members key frames (ih whole)
  -- The other steps end in a fault.
  case case9 =>
    intro key rest frames noColon whole
    rw [read] at whole
    · exact absurd whole (not_whole_unwind frames rfl)
    · exact noColon
  case case10 =>
    intro token rest frames notClosing noName noKey whole
    rw [read] at whole
    · exact absurd whole (not_whole_unwind frames rfl)
    all_goals assumption
  case case11 => exact fun frames whole => absurd whole (not_whole_unwind frames rfl)
  case case12 =>
    intro tokens frames _ _ _ _ _ _ _ _ _ _ _ whole
    rw [read] at whole
    · exact absurd whole (not_whole_unwind frames rfl)
    all_goals assumption
  case case16 =>
    intro tokens d items frames noComma noBracket whole
    rw [place] at whole
    · exact absurd whole (not_whole_unwind frames rfl)
    all_goals assumption
  case case18 =>
    intro d next rest members key frames noColon whole
    rw [place] at whole
    · exact absurd whole (not_whole_unwind frames rfl)
    · exact noColon
  case case20 =>
    intro tokens d members key frames noMember noName noBrace whole
    rw [place] at whole
    · exact absurd whole (not_whole_unwind frames rfl)
    all_goals assumption

end Whole

/-! ## What is whole is a value -/

/-- A container that is open holds only JSON values so far. -/
def HoldsValues : Frame → Prop
  | .array items => ∀ d ∈ items, d.isValue = true
  | .object members _ => ∀ m ∈ members, m.2.isValue = true

theorem isValue_array_reverse {items : List Draft} (values : ∀ d ∈ items, d.isValue = true) :
    (array items.reverse true).isValue = true := by
  rw [isValue, areValues_iff.mpr fun d dMem => values d (List.mem_reverse.mp dMem)]
  rfl

theorem isValue_object_reverse {members : List (Option String × Draft)}
    (values : ∀ m ∈ members, m.2.isValue = true) :
    (object members.reverse .closed).isValue = true := by
  rw [isValue, areMemberValues_iff.mpr fun m mMem => values m (List.mem_reverse.mp mMem)]
  rfl

theorem isValue_of_isSimple {d : Draft} (simple : d.isSimple = true) : d.isValue = true := by
  cases d with
  | fault | array items closed | object members tail => exact absurd simple Bool.false_ne_true
  | _ => rfl

/-- What is read or placed among JSON values is a JSON value if it is whole. -/
theorem isValue_read_and_place :
    (∀ tokens frames, (read tokens frames).1.isBroken = false →
      (∀ f ∈ frames, HoldsValues f) → (read tokens frames).1.isValue = true) ∧
    (∀ d tokens frames, (place d tokens frames).1.isBroken = false → d.isValue = true →
      (∀ f ∈ frames, HoldsValues f) → (place d tokens frames).1.isValue = true) := by
  apply whole_induction
  case simple =>
    intro token d rest frames simple reads ih held
    rw [reads]
    exact ih (isValue_of_isSimple simple) held
  case emptyArray => exact fun rest frames ih held => ih rfl held
  case openArray =>
    intro rest frames nonempty _ ih held
    rw [read_openBracket nonempty]
    exact ih (List.forall_mem_cons.mpr ⟨by simp [HoldsValues], held⟩)
  case emptyObject => exact fun rest frames ih held => ih rfl held
  case openObject =>
    intro key rest frames ih held
    exact ih (List.forall_mem_cons.mpr ⟨by simp [HoldsValues], held⟩)
  case done =>
    intro d rest value _
    rw [place]
    exact value
  case nextItem =>
    intro d rest items frames ih value held
    obtain ⟨inner, outer⟩ := List.forall_mem_cons.mp held
    exact ih (List.forall_mem_cons.mpr ⟨List.forall_mem_cons.mpr ⟨value, inner⟩, outer⟩)
  case closeArray =>
    intro d rest items frames ih value held
    obtain ⟨inner, outer⟩ := List.forall_mem_cons.mp held
    exact ih (isValue_array_reverse (List.forall_mem_cons.mpr ⟨value, inner⟩)) outer
  case nextMember =>
    intro d next rest members key frames ih value held
    obtain ⟨inner, outer⟩ := List.forall_mem_cons.mp held
    exact ih (List.forall_mem_cons.mpr ⟨List.forall_mem_cons.mpr ⟨value, inner⟩, outer⟩)
  case closeObject =>
    intro d rest members key frames ih value held
    obtain ⟨inner, outer⟩ := List.forall_mem_cons.mp held
    exact ih (isValue_object_reverse (List.forall_mem_cons.mpr ⟨value, inner⟩)) outer

/-- A text that is read to a draft that is whole is a JSON value throughout. -/
theorem isValue_of_ofText {s : List Char} {d : Draft} {rest : List Token}
    (read : ofText s = (d, rest)) (whole : d.isBroken = false) : d.isValue = true := by
  have value := isValue_read_and_place.1 (Token.scan s) []
  rw [← ofText, read] at value
  exact value whole (by simp)

end Draft

end ControlPlane.Json
