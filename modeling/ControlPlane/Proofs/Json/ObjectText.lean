import ControlPlane.Proofs.Json.Closed
import ControlPlane.Proofs.Json.Written

/-!
# Texts of objects

The text of an object ends with a closing brace, perhaps with blanks after it.  Where it
stands inside another text it is therefore scanned to the same tokens and read to the
same draft as alone: neither the scanner nor the reader knows what stands around it.
-/

namespace ControlPlane.Json

/-- The text is an object with these members, whose names hold no lone surrogates, and
nothing follows it. -/
def IsObjectText (s : String) (members : List (String × Draft)) : Prop :=
  Draft.ofText s.toList = (.object (members.map Record.named) .closed, [])

namespace IsObjectText

variable {s : String} {members : List (String × Draft)}

theorem isValue_of_mem (object : IsObjectText s members) :
    ∀ m ∈ members, m.2.isValue = true := by
  have whole : (Draft.object (members.map Record.named) .closed).isValue = true :=
    Draft.isValue_of_ofText object rfl
  rw [Draft.isValue, Bool.and_eq_true, Draft.areMemberValues_iff] at whole
  intro m mMem
  exact whole.1 (Record.named m) (List.mem_map_of_mem mMem)

/-- Decoding the text is decoding the object. -/
theorem ofText_eq (object : IsObjectText s members) (decode : Decoder α) :
    Decoder.ofText decode s =
      decode depthLimit (.object (members.map Record.named) .closed) :=
  Decoder.ofText_of_draft object decode

end IsObjectText

/-- What is written of plain members is the text of an object. -/
theorem isObjectText_render {members : List (String × Value)}
    (plain : ∀ m ∈ members, m.2.Plain) :
    IsObjectText (Value.object members).render (Value.drafts members) := by
  rw [IsObjectText, (Value.Plain.object plain).ofText_render, Value.draft_object]

/-! ## Reading inside other texts -/

namespace Draft

/-- Whatever follows a value that is whole, and whatever stands around it, the value is
read as it is alone and then placed. -/
theorem read_and_place_append :
    (∀ tokens frames, (read tokens frames).1.isBroken = false → ∀ more outer,
      read (tokens ++ more) (frames ++ outer) =
        place (read tokens frames).1 ((read tokens frames).2 ++ more) outer) ∧
    (∀ d tokens frames, (place d tokens frames).1.isBroken = false → ∀ more outer,
      place d (tokens ++ more) (frames ++ outer) =
        place (place d tokens frames).1 ((place d tokens frames).2 ++ more) outer) := by
  apply whole_induction
  case simple =>
    intro token d rest frames _ reads ih more outer
    rw [List.cons_append, reads, reads]
    exact ih more outer
  case emptyArray => exact fun rest frames ih => ih
  case openArray =>
    intro rest frames nonempty nonnil ih more outer
    obtain ⟨token, rest, rfl⟩ := List.exists_cons_of_ne_nil nonnil
    have stillNonempty : ∀ after, token :: rest ++ more ≠ .closeBracket :: after := by
      intro after same
      exact nonempty rest (by rw [(List.cons.inj same).1])
    rw [read_openBracket nonempty, List.cons_append, read_openBracket stillNonempty]
    exact ih more outer
  case emptyObject => exact fun rest frames ih => ih
  case openObject => exact fun key rest frames ih => ih
  case done =>
    intro d rest more outer
    rw [place]
    rfl
  case nextItem => exact fun d rest items frames ih => ih
  case closeArray => exact fun d rest items frames ih => ih
  case nextMember => exact fun d next rest members key frames ih => ih
  case closeObject => exact fun d rest members key frames ih => ih

/-- The last of the tokens closes a container. -/
def EndsClosed (tokens : List Token) : Prop :=
  tokens.getLast? = some .closeBracket ∨ tokens.getLast? = some .closeBrace

theorem EndsClosed.cons {tokens : List Token} (ends : EndsClosed tokens) (token : Token) :
    EndsClosed (token :: tokens) := by
  rcases ends with last | last <;>
    simp [EndsClosed, List.getLast?_cons, last]

/-- If nothing is left after a value, it is either simple or ends with the token that
closes it. -/
theorem endsClosed_of_read_and_place :
    (∀ tokens frames, (read tokens frames).1.isBroken = false → (read tokens frames).2 = [] →
      (frames = [] ∧ (read tokens frames).1.isSimple = true) ∨ EndsClosed tokens) ∧
    (∀ d tokens frames, (place d tokens frames).1.isBroken = false →
      (place d tokens frames).2 = [] → (frames = [] ∧ tokens = []) ∨ EndsClosed tokens) := by
  apply whole_induction
  case simple =>
    intro token d rest frames simple reads ih whole
    rw [reads] at whole ⊢
    rcases ih whole with ⟨rfl, rfl⟩ | ends
    · exact .inl ⟨rfl, simple⟩
    · exact .inr (ends.cons token)
  case emptyArray =>
    intro rest frames ih whole
    rcases ih whole with ⟨rfl, rfl⟩ | ends
    · exact .inr (.inl rfl)
    · exact .inr ((ends.cons _).cons _)
  case openArray =>
    intro rest frames nonempty _ ih whole
    rw [read_openBracket nonempty] at whole
    rcases ih whole with ⟨outermost, -⟩ | ends
    · cases outermost
    · exact .inr (ends.cons _)
  case emptyObject =>
    intro rest frames ih whole
    rcases ih whole with ⟨rfl, rfl⟩ | ends
    · exact .inr (.inr rfl)
    · exact .inr ((ends.cons _).cons _)
  case openObject =>
    intro key rest frames ih whole
    rcases ih whole with ⟨outermost, -⟩ | ends
    · cases outermost
    · exact .inr (((ends.cons _).cons _).cons _)
  case done =>
    intro d rest whole
    rw [place] at whole
    exact .inl ⟨rfl, whole⟩
  case nextItem =>
    intro d rest items frames ih whole
    rcases ih whole with ⟨outermost, -⟩ | ends
    · cases outermost
    · exact .inr (ends.cons _)
  case closeArray =>
    intro d rest items frames ih whole
    rcases ih whole with ⟨rfl, rfl⟩ | ends
    · exact .inr (.inl rfl)
    · exact .inr (ends.cons _)
  case nextMember =>
    intro d next rest members key frames ih whole
    rcases ih whole with ⟨outermost, -⟩ | ends
    · cases outermost
    · exact .inr (((ends.cons _).cons _).cons _)
  case closeObject =>
    intro d rest members key frames ih whole
    rcases ih whole with ⟨rfl, rfl⟩ | ends
    · exact .inr (.inr rfl)
    · exact .inr (ends.cons _)

end Draft

/-! ## Scanning inside other texts -/

namespace Mode

/-- The tokens that are complete after some characters. -/
def scanned : Mode → List Char → List Token
  | _, [] => []
  | mode, c :: rest => (mode.step c).1 ++ (mode.step c).2.scanned rest

/-- The mode after some characters. -/
def after : Mode → List Char → Mode
  | mode, [] => mode
  | mode, c :: rest => (mode.step c).2.after rest

theorem run_append (mode : Mode) (s rest : List Char) :
    mode.run (s ++ rest) = mode.scanned s ++ (mode.after s).run rest := by
  induction s generalizing mode with
  | nil => rfl
  | cons c s ih => rw [List.cons_append, run, ih, scanned, after, List.append_assoc]

theorem run_stopped (s : List Char) : stopped.run s = [] := by
  induction s with
  | nil => rfl
  | cons c s ih => exact ih

/-- If the scanner gave up, it left a fault. -/
def Admits (result : List Token × Mode) : Prop :=
  result.2 = stopped → result.1.getLast? = some .fault

theorem admits_fail : Admits fail :=
  fun _ => rfl

theorem admits_of_ne {tokens : List Token} {mode : Mode} (going : mode ≠ stopped) :
    Admits (tokens, mode) :=
  fun stops => absurd stops going

theorem admits_ite {p : Prop} [Decidable p] {first second : List Token × Mode}
    (yes : Admits first) (no : Admits second) : Admits (if p then first else second) := by
  split
  · exact yes
  · exact no

theorem admits_start (c : Char) : Admits (start c) := by
  unfold start
  -- Twelve kinds of characters begin a token each, and digits begin a number.
  iterate 12 refine admits_ite (admits_of_ne nofun) ?_
  split
  · exact admits_of_ne nofun
  · exact admits_fail

theorem admits_step {mode : Mode} (going : mode ≠ stopped) (c : Char) :
    Admits (mode.step c) := by
  cases mode with
  | stopped => exact absurd rfl going
  | between => exact admits_start c
  | word token next rest =>
      refine admits_ite ?_ admits_fail
      cases rest <;> exact admits_of_ne (by simp)
  | text pieces =>
      refine admits_ite (admits_of_ne (by simp)) (admits_ite (admits_of_ne (by simp)) ?_)
      exact admits_ite admits_fail (admits_of_ne (by simp))
  | escape pieces =>
      simp only [step]
      split
      · exact admits_of_ne (by simp)
      · exact admits_ite (admits_of_ne (by simp)) admits_fail
  | unit pieces value left =>
      simp only [step.eq_def]
      split
      · exact admits_fail
      · exact admits_of_ne (by simp)
      · exact admits_of_ne (by simp)
  | numeral n stage =>
      simp only [step]
      split
      · exact admits_of_ne (by simp)
      · refine admits_ite ?_ admits_fail
        intro stops
        have last := admits_start c stops
        simp only [List.getLast?_cons, last, Option.getD_some]

/-- Does a token end what breaks off, or a number that the end of the text ends? -/
def IsCutOff (token : Token) : Prop :=
  token = .fault ∨ ∃ n, token = .number n

theorem isCutOff_finish {mode : Mode} (going : mode ≠ stopped) :
    mode = between ∨ ∃ token, mode.finish.getLast? = some token ∧ IsCutOff token := by
  cases mode with
  | between => exact .inl rfl
  | stopped => exact absurd rfl going
  | numeral n stage =>
      rw [finish]
      split
      · exact .inr ⟨.number n, rfl, .inr ⟨n, rfl⟩⟩
      · exact .inr ⟨.fault, rfl, .inl rfl⟩
  | _ => exact .inr ⟨.fault, rfl, .inl rfl⟩

/-- A text that is not cut off ends between two tokens. -/
theorem after_eq_between {mode : Mode} {s : List Char} (going : mode ≠ stopped)
    (ends : ∀ token, (mode.run s).getLast? = some token → ¬ IsCutOff token) :
    mode.after s = between := by
  induction s generalizing mode with
  | nil =>
      rcases isCutOff_finish going with isBetween | ⟨token, last, cutOff⟩
      · exact isBetween
      · exact absurd cutOff (ends token last)
  | cons c s ih =>
      rw [run] at ends
      apply ih
      · intro stops
        rw [stops, run_stopped, List.append_nil] at ends
        exact ends .fault (admits_step going c stops) (.inl rfl)
      · intro token last
        apply ends
        rw [List.getLast?_append, last, Option.some_or]

/-- A text that ends by closing a container is scanned in front of others as alone. -/
theorem run_append_of_endsClosed {s : List Char} (ends : Draft.EndsClosed (Token.scan s))
    (rest : List Char) : between.run (s ++ rest) = Token.scan s ++ between.run rest := by
  have going : between ≠ stopped := nofun
  have isBetween : between.after s = between := by
    apply after_eq_between going
    rintro token last (rfl | ⟨n, rfl⟩) <;>
      rcases ends with closed | closed <;>
      · rw [Token.scan, last] at closed
        cases closed
  have alone := run_append between s []
  rw [List.append_nil, isBetween, run, finish, List.append_nil] at alone
  rw [run_append, isBetween, Token.scan, alone]

end Mode

namespace IsObjectText

variable {s : String} {members : List (String × Draft)}

theorem endsClosed (object : IsObjectText s members) :
    Draft.EndsClosed (Token.scan s.toList) := by
  have ends := Draft.endsClosed_of_read_and_place.1 (Token.scan s.toList) []
  rw [← Draft.ofText, object] at ends
  rcases ends rfl rfl with ⟨-, simple⟩ | ends
  · cases simple
  · exact ends

/-- In front of other tokens the object is read and then placed. -/
theorem read_append (object : IsObjectText s members) (more : List Token)
    (frames : List Frame) :
    Draft.read (Token.scan s.toList ++ more) frames =
      Draft.place (.object (members.map Record.named) .closed) more frames := by
  have placed := Draft.read_and_place_append.1 (Token.scan s.toList) []
  rw [← Draft.ofText, object] at placed
  exact placed rfl more frames

end IsObjectText

/-- The text of an object with a member in front of written ones, whose value is given as
a text. -/
def withFirstMember (key s : String) (others : List (String × Value)) : String :=
  String.ofList <|
    '{' :: (spellText key ++
      ':' :: (s.toList ++ (Value.memberTokens others).flatMap Token.spell))

/-- The text of an object may stand as the value of a member. -/
theorem IsObjectText.inside {s : String} {members : List (String × Draft)}
    (object : IsObjectText s members) (key : String) {others : List (String × Value)}
    (plain : ∀ m ∈ others, m.2.Plain) :
    IsObjectText (withFirstMember key s others)
      ((key, .object (members.map Record.named) .closed) :: Value.drafts others) := by
  have othersScanned : Mode.between.run ((Value.memberTokens others).flatMap Token.spell) =
      Value.memberTokens others := by
    have back := Value.run_memberTokens (fun m mMem => (plain m mMem).scansBack) []
    rwa [List.append_nil, Mode.run, Mode.finish, List.append_nil] at back
  have scanned : Token.scan (withFirstMember key s others).toList =
      .openBrace :: .text (some key) :: .colon ::
        (Token.scan s.toList ++ Value.memberTokens others) :=
    calc
      _ = .openBrace :: Mode.between.run (spellText key ++
            ':' :: (s.toList ++ (Value.memberTokens others).flatMap Token.spell)) := by
          rw [withFirstMember, String.toList_ofList]
          rfl
      _ = .openBrace :: .text (some key) :: .colon ::
            Mode.between.run (s.toList ++ (Value.memberTokens others).flatMap Token.spell) := by
          rw [Mode.run_spellText]
          rfl
      _ = _ := by rw [Mode.run_append_of_endsClosed object.endsClosed, othersScanned]
  have placed := Value.place_memberTokens others (.object (members.map Record.named) .closed)
    (some key) [] [] []
  rw [List.append_nil] at placed
  rw [IsObjectText, Draft.ofText, scanned, Draft.read, object.read_append, placed,
    Value.memberDrafts_eq_map, Value.drafts, List.map_cons, List.map_map]
  rfl

end ControlPlane.Json
