import SceneDescription.Proofs.Sessions.Declared
import SceneDescription.Proofs.Sessions.ScopeWords
import SceneDescription.Proofs.Stages.Slots
import SceneDescription.Transform.Elimination

/-!
# The last declaration wins

What a scene has one of, it has from the last event that gives it (`Session.Run.last_wins`): the camera, a setting, an
option, the transform times.  The warnings of a scene depend on the events alone: there is one for each declaration of
the camera or a setting behind an earlier one, which names the place of the latest of these, and one for each area light
inside of an object (`warningsAlong`).  They tell the user what is wrong and where (`warningsAlong_tell`).
-/

namespace SceneDescription

/-! ### What events give -/

/-- Reads a parameter behind a keyword. -/
def readOptionParameter : Read Parameter := do
  let _ ← Read.take
  readParameter

namespace Moment

/-- The camera that an event has declared. -/
def camera? (m : Moment) : Option Camera :=
  m.declared?.bind Entity.camera?

/-- The setting that an event has declared, if it is of the given kind. -/
def setting? (kind : SettingKind) (m : Moment) : Option Setting :=
  match m.event with
  | .performed _ d location => (d.setting? location).filter (·.kind = kind)
  | .left _ _ => none

/-- The times that an event has set. -/
def transformTimes? (m : Moment) : Option (Shutter Float) :=
  m.event.directive?.bind Directive.transformTimes?

/-- The parameter behind the keyword of an option. -/
def parameter? (m : Moment) : Option Parameter :=
  if m.event.keyword? = some .option then
    match readOptionParameter m.before.stream.top.cursor with
    | .ok p _ => some p
    | .error _ _ => none
  else none

/-- The first component of the parameter behind the keyword of an option, if it names the given one. -/
def optionValue? (option : RenderOption) (m : Moment) : Option Component :=
  m.parameter?.bind fun p => if p.name = option.name then p.value.components.head? else none

end Moment

/-! ### Warnings by events -/

namespace Event

/-- The place of a directive with the given keyword. -/
def place? (keyword : Keyword) : Event → Option Location
  | .performed k _ location => if k = keyword then some location else none
  | .left _ _ => none

/-- The object that is being recorded behind an event. -/
def recordingAfter (recording : Option String) : Event → Option String
  | .performed _ (.objectBegin name) _ => some name
  | .performed _ .objectEnd _ => none
  | _ => recording

end Event

/-- The object that is being recorded behind some events. -/
def recordingBehind (events : List Event) : Option String :=
  events.foldl (fun recording e => e.recordingAfter recording) none

/-- The warning that an event draws behind other ones, if any. -/
def Event.warning? (earlier : List Event) : Event → Option Warning
  | .performed keyword _ location =>
    if keyword.isSingle then
      (earlier.filterMap (·.place? keyword)).getLast?.map fun previous =>
        ⟨.redefined keyword.name (some previous), some location⟩
    else if keyword = .areaLightSource then
      (recordingBehind earlier).map fun object => ⟨.areaLightInObject object, some location⟩
    else none
  | .left _ _ => none

/-- The warnings that events draw behind other ones. -/
def warningsAlong (earlier : List Event) : List Event → List Warning
  | [] => []
  | e :: later => (e.warning? earlier).toList ++ warningsAlong (earlier ++ [e]) later

private theorem warningsAlong_concat (earlier later : List Event) (e : Event) :
    warningsAlong earlier (later ++ [e]) = warningsAlong earlier later ++ (e.warning? (earlier ++ later)).toList := by
  induction later generalizing earlier with
  | nil => simp [warningsAlong]
  | cons first later ih => simp [warningsAlong, ih, List.append_assoc]

/-- What a user is told about a place. -/
structure Notice where
  place : Location
  text : String

def Notice.toText (n : Notice) : String :=
  n.place.source ++ ":" ++ Nat.repr n.place.line ++ ": " ++ n.text

/-- What a user is told about an event behind other ones, if anything.  A repeated declaration is set against the one
right before it. -/
def Event.notice? (earlier : List Event) : Event → Option Notice
  | .performed keyword _ location =>
    if keyword.isSingle then
      (earlier.filterMap (·.place? keyword)).getLast?.map fun previous =>
        { place := location
          text := keyword.name ++ " redefined, the last declaration wins"
            ++ (" (previously declared at " ++ (previous.source ++ ":" ++ Nat.repr previous.line) ++ ")") }
    else if keyword = .areaLightSource then
      (recordingBehind earlier).map fun object =>
        { place := location
          text := "AreaLightSource inside object \"" ++ object ++ "\": area lights are not instanced" }
    else none
  | .left _ _ => none

/-- What a user is told about events behind other ones. -/
def noticesAlong (earlier : List Event) : List Event → List Notice
  | [] => []
  | e :: later => (e.notice? earlier).toList ++ noticesAlong (earlier ++ [e]) later

/-- A warning tells the user this. -/
structure Warning.Tells (w : Warning) (n : Notice) : Prop where
  location : w.location = some n.place
  message : w.remark.message = n.text
  toText : w.toText = n.toText

private theorem Warning.tells_of_message {remark : Remark} {place : Location} {text : String}
    (h : remark.message = text) : Warning.Tells ⟨remark, some place⟩ ⟨place, text⟩ where
  location := rfl
  message := h
  toText := by
    rw [Notice.toText, ← h]
    rfl

private theorem Warning.map_toText_of_tells {warnings : List Warning} {notices : List Notice}
    (h : List.Forall₂ Tells warnings notices) : warnings.map Warning.toText = notices.map Notice.toText := by
  induction h with
  | nil => rfl
  | cons hfirst _ ih => rw [List.map_cons, List.map_cons, hfirst.toText, ih]

/-- The warning that an event draws and what the user is told about it. -/
private theorem Event.warning?_tells (earlier : List Event) (e : Event) :
    List.Forall₂ Warning.Tells (e.warning? earlier).toList (e.notice? earlier).toList := by
  cases e with
  | left source mark => exact .nil
  | performed keyword d location =>
    rw [warning?, notice?]
    split
    · cases (earlier.filterMap (·.place? keyword)).getLast? with
      | none => exact .nil
      | some previous => exact .cons (Warning.tells_of_message rfl) .nil
    split
    · cases recordingBehind earlier with
      | none => exact .nil
      | some object => exact .cons (Warning.tells_of_message rfl) .nil
    · exact .nil

/-- The warnings that events draw tell the user about these events, one by one. -/
theorem warningsAlong_tell (earlier later : List Event) :
    List.Forall₂ Warning.Tells (warningsAlong earlier later) (noticesAlong earlier later) := by
  induction later generalizing earlier with
  | nil => exact .nil
  | cons e later ih => exact List.rel_append (e.warning?_tells earlier) (ih (earlier ++ [e]))

/-- The scene has what the moments have given last, or else what a scene has at first, and the warnings that their
events draw. -/
structure Scene.Reflects (scene : Scene) (moments : List Moment) : Prop where
  camera : scene.camera = (moments.filterMap Moment.camera?).getLast?
  settings : ∀ kind, scene.settings.get? kind = (moments.filterMap (Moment.setting? kind)).getLast?
  options : ∀ option, (scene.options.get? option).map RenderSetting.component =
    (moments.filterMap (Moment.optionValue? option)).getLast?.or
      ((({} : RenderOptions).get? option).map RenderSetting.component)
  transformTimes : scene.transformTimes = (moments.filterMap Moment.transformTimes?).getLast?.getD ⟨0.0, 1.0⟩
  warnings : scene.warnings = warningsAlong [] (moments.map (·.event))

/-- What a moment gives is known from its keyword. -/
structure Moment.Given (m : Moment) : Prop where
  camera : m.camera?.isSome ↔ m.event.keyword? = some .camera
  setting : ∀ kind, (m.setting? kind).isSome ↔ m.event.keyword? = some (.setting kind)
  parameter : m.parameter?.isSome ↔ m.event.keyword? = some .option
  transformTimes : m.transformTimes?.isSome ↔ m.event.keyword? = some .transformTimes

namespace Session

variable {s s' last : Session} {event : Event} {moments : List Moment}

/-! ### Single values -/

/-- What every step takes from its event, if this gives it, a run takes from the last event that does. -/
theorem Run.last_wins [LinearAlgebra] {α : Type} (value : Session → Option α) {given? : Moment → Option α}
    (hstep : ∀ s e s', s.Moves e s' → value s' = (given? ⟨s, e⟩).or (value s)) (h : Run s moments s') :
    value s' = (moments.filterMap given?).getLast?.or (value s) := by
  induction h with
  | nil s => rfl
  | @cons s s₁ s' e moments hmoved _ ih =>
    rw [ih, hstep s e s₁ (moves_of_step hmoved), List.filterMap_cons]
    cases given? ⟨s, e⟩ with
    | none => rfl
    | some a =>
      rw [List.getLast?_cons]
      cases (moments.filterMap given?).getLast? <;> rfl

private theorem Moves.camera [LinearAlgebra] (h : s.Moves event s') :
    s'.scene.camera = (Moment.mk s event).camera?.or s.scene.camera := by
  cases h with
  | performs h => exact Stage.execute_camera h.execute
  | leaves h => exact congrArg (·.camera) h.draft

private theorem Moves.setting [LinearAlgebra] (h : s.Moves event s') (kind : SettingKind) :
    s'.scene.settings.get? kind = ((Moment.mk s event).setting? kind).or (s.scene.settings.get? kind) := by
  cases h with
  | performs h => exact Stage.execute_setting h.execute kind
  | leaves h => exact congrArg (·.settings.get? kind) h.draft

private theorem Moves.transformTimes [LinearAlgebra] (h : s.Moves event s') :
    some s'.scene.transformTimes = (Moment.mk s event).transformTimes?.or (some s.scene.transformTimes) := by
  cases h with
  | @performs t c₁ c₂ keyword d _ h =>
    have htimes : s'.scene.transformTimes = d.transformTimes?.getD s.scene.transformTimes :=
      Stage.execute_transformTimes h.execute
    have hgiven : (Moment.mk s (.performed keyword d ⟨s.stream.source, t.line⟩)).transformTimes? =
        d.transformTimes? := rfl
    rw [htimes, hgiven]
    cases d.transformTimes? <;> rfl
  | leaves h => exact congrArg (some ·.transformTimes) h.draft

/-- An option has been made of its parameter. -/
theorem Performs.exists_parameter [LinearAlgebra] {t : Token} {c₁ c₂ : Cursor} {d : Directive} (location : Location)
    (h : s.Performs t c₁ c₂ .option d s') :
    ∃ p setting, (Moment.mk s (.performed .option d location)).parameter? = some p ∧
      RenderSetting.ofParameter p = .ok setting ∧ d = .option setting := by
  obtain ⟨setting, hsetting, rfl⟩ := Read.map_ok.1 h.read
  obtain ⟨p, c, hparameter, hmake⟩ := Read.bind_ok.1 hsetting
  have hread : readOptionParameter s.stream.top.cursor = .ok p c :=
    Read.bind_ok.2 ⟨some t, c₁, h.take, hparameter⟩
  cases hmade : RenderSetting.ofParameter p with
  | ok made =>
    rw [hmade] at hmake
    obtain ⟨rfl, rfl⟩ := EStateM.Result.ok.inj hmake
    refine ⟨p, made, ?_, hmade, rfl⟩
    simp [Moment.parameter?, Event.keyword?, hread]
  | error f =>
    rw [hmade] at hmake
    exact absurd hmake (Read.fail_ne_ok _ _)

private theorem Performs.optionValue? [LinearAlgebra] {t : Token} {c₁ c₂ : Cursor} {keyword : Keyword} {d : Directive}
    (location : Location) (h : s.Performs t c₁ c₂ keyword d s') (option : RenderOption) :
    (Moment.mk s (.performed keyword d location)).optionValue? option =
      (d.option?.filter (·.option = option)).map RenderSetting.component := by
  by_cases hkeyword : keyword = .option
  · subst hkeyword
    obtain ⟨p, setting, hp, hmade, rfl⟩ := h.exists_parameter location
    obtain ⟨hname, hvalue⟩ := RenderSetting.of_ofParameter hmade
    rw [Moment.optionValue?, hp, Directive.option?, Option.filter_some, Option.bind_some, hname]
    by_cases hoption : setting.option = option
    · simp [hoption, hvalue]
    · have hother : setting.option.name ≠ option.name := fun heq => hoption (RenderOption.name_inj heq)
      simp [hoption, hother]
  · have hnone : d.option? = none := by
      cases d with
      | option setting => exact absurd (h.hasKeyword.eq_of_keyword? rfl) hkeyword
      | _ => rfl
    have hparameter : (Moment.mk s (.performed keyword d location)).parameter? = none :=
      if_neg (by simpa [Event.keyword?] using hkeyword)
    rw [Moment.optionValue?, hparameter, hnone]
    rfl

private theorem Moves.option [LinearAlgebra] (h : s.Moves event s') (option : RenderOption) :
    (s'.scene.options.get? option).map RenderSetting.component =
      ((Moment.mk s event).optionValue? option).or
        ((s.scene.options.get? option).map RenderSetting.component) := by
  cases h with
  | performs h =>
    rw [h.optionValue?, ← Option.map_or]
    exact congrArg (Option.map _) (Stage.execute_option h.execute option)
  | leaves h => exact congrArg (fun d => (d.options.get? option).map RenderSetting.component) h.draft

/-! ### Warnings -/

private theorem Moves.recordingAfter [LinearAlgebra] (h : s.Moves event s') :
    s'.stage.scopes.recording = event.recordingAfter s.stage.scopes.recording := by
  have hrecording := ScopeMachine.step_recording h.machine
  cases event with
  | performed keyword d location => cases d <;> exact hrecording
  | left source mark => cases mark <;> exact hrecording

/-- The session tells of the events so far what the warnings depend on. -/
structure Recalls (events : List Event) (s : Session) : Prop where
  recording : s.stage.scopes.recording = recordingBehind events
  previous : ∀ keyword : Keyword, keyword.isSingle →
    s.stage.draft.previous? keyword = (events.filterMap (·.place? keyword)).getLast?.map some
  warnings : s.stage.draft.warnings = warningsAlong [] events

private theorem Start.recalls (h : s.Start) : s.Recalls [] := by
  constructor
  case recording | warnings =>
    rw [h.stage]
    rfl
  case previous =>
    intro keyword hsingle
    rw [h.stage]
    cases keyword with
    | camera => rfl
    | setting kind => cases kind <;> rfl
    | _ => cases hsingle

private theorem Moves.recalls [LinearAlgebra] {events : List Event} (hs : s.Recalls events) (h : s.Moves event s') :
    s'.Recalls (events ++ [event]) := by
  have hrecording : s'.stage.scopes.recording = recordingBehind (events ++ [event]) := by
    rw [h.recordingAfter, hs.recording, recordingBehind, recordingBehind, List.foldl_append]
    rfl
  cases h with
  | @performs t c₁ c₂ keyword d _ h =>
    refine ⟨hrecording, fun other hother => ?_, ?_⟩
    · rw [List.filterMap_append]
      by_cases hsame : keyword = other
      · subst hsame
        have hd := h.hasKeyword.keyword?_eq (Keyword.not_isMotion_of_isSingle hother)
        simp [Stage.execute_previous_self h.execute hd hother, Event.place?]
      · have hd : d.keyword? ≠ some other := fun hd => hsame (h.hasKeyword.eq_of_keyword? hd)
        simp [Stage.execute_previous_of_ne h.execute hd, hs.previous other hother, Event.place?, hsame]
    · rw [Stage.execute_warnings h.execute, hs.warnings, warningsAlong_concat, Stage.warningsOf_eq h.hasKeyword]
      congr 1
      rw [List.nil_append, Event.warning?]
      split
      · rename_i hsingle
        rw [hs.previous keyword hsingle, Option.map_map]
        rfl
      · split
        · rw [hs.recording]
        · rfl
  | leaves h =>
    refine ⟨hrecording, fun other hother => ?_, ?_⟩
    · rw [h.draft, hs.previous other hother, List.filterMap_append]
      simp [Event.place?]
    · rw [h.draft, hs.warnings, warningsAlong_concat]
      simp [Event.warning?]

private theorem Run.recalls [LinearAlgebra] (h : Run s moments s') (hs : s.Recalls []) :
    s'.Recalls (moments.map (·.event)) := by
  let P (earlier : List Moment) (s : Session) : Prop := s.Recalls (earlier.map (·.event))
  have hstep : ∀ earlier s e s', P earlier s → s.Moves e s' → P (earlier ++ [⟨s, e⟩]) s' := by
    intro earlier s e s' hs hmoves
    unfold P
    rw [List.map_append]
    exact hmoves.recalls hs
  have hnone : P [] s := hs
  exact h.invariant_along hstep hnone

/-! ### The last declaration wins -/

private theorem Start.scene (h : s.Start) : s.scene = {} := by
  rw [Session.scene, h.stage]
  rfl

private theorem Start.reflects [LinearAlgebra] (hs : s.Start) (h : Run s moments s') : s'.scene.Reflects moments where
  camera := by
    rw [h.last_wins (·.scene.camera) (fun _ _ _ hmoves => hmoves.camera), hs.scene]
    exact Option.or_none
  settings kind := by
    rw [h.last_wins (·.scene.settings.get? kind) (fun _ _ _ hmoves => hmoves.setting kind), hs.scene]
    cases kind <;> exact Option.or_none
  options option := by
    rw [h.last_wins (fun t => (t.scene.options.get? option).map RenderSetting.component)
      (fun _ _ _ hmoves => hmoves.option option), hs.scene]
  transformTimes := by
    have htimes := h.last_wins (fun t => some t.scene.transformTimes) (fun _ _ _ hmoves => hmoves.transformTimes)
    rw [hs.scene] at htimes
    rw [← Option.some.injEq, htimes]
    cases (moments.filterMap Moment.transformTimes?).getLast? <;> rfl
  warnings := (h.recalls hs.recalls).warnings

private theorem Moves.given [LinearAlgebra] (h : s.Moves event s') : (Moment.mk s event).Given := by
  constructor
  case camera =>
    rw [h.keyword_iff id]
    cases event with
    | performed keyword d location =>
      cases d <;> simp [Moment.camera?, Moment.declared?, Event.entity?, Directive.entity?, Entity.camera?,
        Event.directive?, Directive.keyword?]
    | left source mark => simp [Moment.camera?, Moment.declared?, Event.entity?, Event.directive?]
  case setting =>
    intro kind
    rw [h.keyword_iff id]
    cases event with
    | performed keyword d location =>
      cases d <;> simp [Moment.setting?, Directive.setting?, Event.directive?, Directive.keyword?]
    | left source mark => simp [Moment.setting?, Event.directive?]
  case transformTimes =>
    rw [h.keyword_iff id]
    cases event with
    | performed keyword d location =>
      cases d <;> simp [Moment.transformTimes?, Directive.transformTimes?, Event.directive?, Directive.keyword?]
    | left source mark => simp [Moment.transformTimes?, Event.directive?]
  case parameter =>
    constructor
    · intro hsome
      by_contra hkeyword
      rw [Moment.parameter?, if_neg hkeyword] at hsome
      cases hsome
    · intro hkeyword
      cases h with
      | performs h =>
        cases hkeyword
        obtain ⟨p, _, hp, _⟩ := h.exists_parameter _
        rw [hp]
        rfl
      | leaves h => cases hkeyword

/-- An option directive names one option, and changes nothing but this one. -/
theorem Moves.changes_option [LinearAlgebra] (h : s.Moves event s') (hevent : event.keyword? = some .option) :
    ∃ p option, (Moment.mk s event).parameter? = some p ∧ p.name = option.name ∧
      p.value.components.head?.isSome ∧
      s'.stage = { s.stage with draft := { s.stage.draft with options := s'.scene.options } } ∧
      ∀ other ≠ option, s'.scene.options.get? other = s.scene.options.get? other := by
  cases h with
  | performs h =>
    cases hevent
    obtain ⟨p, setting, hp, hmade, rfl⟩ := h.exists_parameter _
    obtain ⟨hname, hvalue⟩ := RenderSetting.of_ofParameter hmade
    refine ⟨p, setting.option, hp, hname, by rw [hvalue]; rfl, ?_, fun other hother => ?_⟩
    · rw [scene, ← Except.ok.inj h.execute]
      rfl
    · rw [scene, ← Except.ok.inj h.execute]
      exact (s.stage.draft.options.get?_set setting other).trans (if_neg hother)
  | leaves h => cases hevent

/-- In a session that finishes, the camera, each setting, each option and the transform times of the scene are those
given last; the value of an option is the first component of its parameter.  The warnings are those of the repeated
declarations and of the area lights in objects, and each tells the user about its event: a repeated declaration is named
with the place of the one right before it.  An option directive changes one option and nothing else. -/
theorem last_declaration_wins [LinearAlgebra] (hs : s.Start) (h : s.finish = .finished last) :
    last.scene.Reflects s.moments ∧
    List.Forall₂ Warning.Tells last.scene.warnings (noticesAlong [] (s.moments.map (·.event))) ∧
    (∀ m ∈ s.moments, m.Given) ∧
    ∀ m ∈ s.moments, m.event.keyword? = some .option →
      ∃ p option after, m.parameter? = some p ∧ p.name = option.name ∧ p.value.components.head?.isSome ∧
        m.before.step = .moved m.event after ∧
        after.stage = { m.before.stage with
          draft := { m.before.stage.draft with options := after.scene.options } } ∧
        ∀ other ≠ option, after.scene.options.get? other = m.before.scene.options.get? other := by
  have hrun := (run_moments h).1
  have hstep : ∀ m ∈ s.moments, ∃ after, m.before.step = .moved m.event after := by
    intro m hm
    obtain ⟨earlier, later, heq⟩ := List.append_of_mem hm
    rw [heq] at hrun
    obtain ⟨_, _, hrest⟩ := Run.append_iff.1 hrun
    cases hrest with
    | cons hstep _ => exact ⟨_, hstep⟩
  have hreflects := hs.reflects hrun
  have htells := warningsAlong_tell [] (s.moments.map (·.event))
  rw [← hreflects.warnings] at htells
  refine ⟨hreflects, htells, fun m hm => ?_, fun m hm hkeyword => ?_⟩
  · obtain ⟨after, hafter⟩ := hstep m hm
    exact (moves_of_step hafter).given
  · obtain ⟨after, hafter⟩ := hstep m hm
    obtain ⟨p, option, hp, hname, hvalue, hstage, hother⟩ := (moves_of_step hafter).changes_option hkeyword
    exact ⟨p, option, after, hp, hname, hvalue, hafter, hstage, hother⟩

end Session

namespace Session

attribute [local instance] LinearAlgebra.stepwise

/-- Two cameras, a seed that is given twice and an area light in an object. -/
theorem second_camera_wins :
    ∃ s last : Session, s.Start ∧ s.finish = .finished last ∧ last.scene.Reflects s.moments ∧
      keywordsOf s.moments = [.camera, .camera, .option, .option, .worldBegin, .objectBegin, .areaLightSource,
        .objectEnd] ∧
      last.scene.camera.map (·.type) = some "realistic" ∧ last.scene.options.seed = 9 ∧
      last.scene.warnings = [⟨.redefined "Camera" (some ⟨"<string>", 1⟩), some ⟨"<string>", 2⟩⟩,
        ⟨.areaLightInObject "lamp", some ⟨"<string>", 5⟩⟩] ∧
      (noticesAlong [] (s.moments.map (·.event))).map Notice.toText =
        ["<string>:2: Camera redefined, the last declaration wins (previously declared at <string>:1)",
          "<string>:5: AreaLightSource inside object \"lamp\": area lights are not instanced"] := by
  let s := ofText ⟨{}, (FileTree.directory []).fileSystem []⟩
    ("Camera \"perspective\"\nCamera \"realistic\"\nOption \"integer seed\" 7 Option \"integer seed\" [9 3]\n" ++
      "WorldBegin ObjectBegin \"lamp\"\nAreaLightSource \"diffuse\" ObjectEnd").toList
  have hkeywords : (s.momentsWithin 9).map keywordsOf = some [.camera, .camera, .option, .option,
      .worldBegin, .objectBegin, .areaLightSource, .objectEnd] := by decide +kernel
  have hscene : (s.endWithin 9).map (fun last => (last.scene.camera.map (·.type), last.scene.options.seed,
      last.scene.warnings)) = some (some "realistic", 9,
        [⟨.redefined "Camera" (some ⟨"<string>", 1⟩), some ⟨"<string>", 2⟩⟩,
          ⟨.areaLightInObject "lamp", some ⟨"<string>", 5⟩⟩]) := by decide +kernel
  obtain ⟨last, hlast, hscene⟩ := Option.map_eq_some_iff.1 hscene
  simp only [Prod.mk.injEq] at hscene
  obtain ⟨hcamera, hseed, hwarnings⟩ := hscene
  have hfinish := finish_of_endWithin hlast
  obtain ⟨hreflects, htells, _⟩ := last_declaration_wins (.text _ _) hfinish
  refine ⟨s, last, .text _ _, hfinish, hreflects, keywordsOf_of_momentsWithin hkeywords, hcamera, hseed, hwarnings, ?_⟩
  rw [← Warning.map_toText_of_tells htells, hwarnings]
  decide +kernel

end Session

end SceneDescription
