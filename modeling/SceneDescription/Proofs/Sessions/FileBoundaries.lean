import SceneDescription.Proofs.Sessions.Declared
import SceneDescription.Proofs.Sessions.Readings
import SceneDescription.Proofs.Sessions.Termination
import SceneDescription.Proofs.Stages.Emissions
import SceneDescription.Transform.Elimination

/-!
# Directives stay in their files

A directive is read in the innermost text from its keyword to its last operand, and its handling leaves no text, even
where it ends together with its file (`Session.Handles`).  So the place of everything that is emitted is that of a
keyword: the name of the text that this stands in, and its line there (`Root.directives_stay_in_files`).
-/

namespace SceneDescription

namespace Session

variable {s s' : Session} {event : Event} {moments : List Moment}

private theorem left_notMem_notesOn (d : Directive) (location : Location) (before after : Draft) (source : String) :
    Note.left source ∉ notesOn d location before after := by
  have hwarned : Note.left source ∉ (after.warnings.drop before.warnings.length).map Note.warned := by
    intro hleft
    obtain ⟨_, _, hsame⟩ := List.mem_map.1 hleft
    cases hsame
  unfold notesOn
  split
  · exact List.not_mem_cons_of_ne_of_not_mem (by simp) hwarned
  · exact hwarned

variable [LinearAlgebra]

/-- What the handling of the directive that begins with a token does to a session, where it succeeds and where it
fails. -/
structure Handles (s : Session) (t : Token) (s' : Session) : Prop where
  /-- The innermost text goes forward, those around it stay as they are, and none is left.  At most one text is put
  on top, and only by the two directives for this. -/
  frames : ∃ opened c, s'.stream.frames = opened ++ (s.stream.withCursor c).frames ∧
    c.items <:+ s.stream.top.cursor.items ∧
    (opened = [] ∨ (∃ frame, opened = [frame]) ∧
      (t.lexeme = .identifier "Include" ∨ t.lexeme = .identifier "Import"))
  /-- Only the directive changes the stage: no import is closed. -/
  stage : s'.stage = s.stage ∨ ∃ d, s.stage.execute ⟨s.stream.source, t.line⟩ d = .ok s'.stage
  /-- The journal tells of no text that has been left. -/
  journal : ∃ notes, s'.journal = s.journal ++ notes ∧ ∀ source, Note.left source ∉ notes

/-- Carrying out a directive leaves no text. -/
theorem carryOut_handles {t : Token} {c : Cursor} {keyword : Keyword} {d : Directive}
    (hitems : c.items <:+ s.stream.top.cursor.items)
    (hopens : ∀ relative, d.opens? = some relative →
      t.lexeme = .identifier "Include" ∨ t.lexeme = .identifier "Import") :
    (∃ s', ({ s with stream := s.stream.withCursor c } : Session).carryOut keyword t.line d =
        .moved (.performed keyword d ⟨s.stream.source, t.line⟩) s' ∧ s.Handles t s') ∨
      ∃ r s', ({ s with stream := s.stream.withCursor c } : Session).carryOut keyword t.line d = .failed r s' ∧
        s.Handles t s' := by
  unfold carryOut
  dsimp only
  have hsource : (s.stream.withCursor c).source = s.stream.source := rfl
  rw [hsource]
  cases hexecute : s.stage.execute ⟨s.stream.source, t.line⟩ d with
  | error f =>
    exact .inr ⟨_, _, rfl, ⟨[], c, rfl, hitems, .inl rfl⟩, .inl rfl, [], (List.append_nil _).symm, by simp⟩
  | ok stage =>
    have hnotes := left_notMem_notesOn d ⟨s.stream.source, t.line⟩ s.stage.draft stage.draft
    dsimp only
    cases hrelative : d.opens? with
    | none => exact .inl ⟨_, rfl, ⟨[], c, rfl, hitems, .inl rfl⟩, .inr ⟨d, hexecute⟩, _, rfl, hnotes⟩
    | some relative =>
      dsimp only
      cases hopen : (s.stream.withCursor c).openFile s.library relative t.line (markFor _ d) with
      | error r => exact .inr ⟨_, _, rfl, ⟨[], c, rfl, hitems, .inl rfl⟩, .inr ⟨d, hexecute⟩, _, rfl, hnotes⟩
      | ok opened =>
        obtain ⟨path, stream⟩ := opened
        obtain ⟨_, text, _, rfl⟩ := Stream.openFile_eq_ok hopen
        refine .inl ⟨_, rfl, ⟨[_], c, rfl, hitems, .inr ⟨⟨_, rfl⟩, hopens relative hrelative⟩⟩, .inr ⟨d, hexecute⟩,
          _, List.append_assoc .., fun source hleft => ?_⟩
        rcases List.mem_append.1 hleft with hleft | hleft
        · exact hnotes source hleft
        · unfold notesOnOpening at hleft
          cases d <;> simp at hleft

/-- A token of the innermost text begins a directive, which is handled there, or fails there. -/
theorem handles_of_take {t : Token} {c : Cursor} (htake : Read.take s.stream.top.cursor = .ok (some t) c) :
    (∃ keyword d s', s.step = .moved (.performed keyword d ⟨s.stream.source, t.line⟩) s' ∧ s.Handles t s') ∨
      ∃ r s', s.step = .failed r s' ∧ s.Handles t s' := by
  obtain ⟨told, hdialogue⟩ := s.stage.phase.exists_dialogue htake
  have hitems := hdialogue.suffix.1
  rw [step_eq]
  cases hread : s.stage.phase.readNext s.stream.top.cursor with
  | error r c' =>
    rw [hread] at hitems
    exact .inr ⟨_, _, rfl, ⟨[], c', rfl, hitems, .inl rfl⟩, .inl rfl, [], (List.append_nil _).symm, by simp⟩
  | ok reading c' =>
    rw [hread] at hitems
    obtain ⟨rfl, hnone⟩ | ⟨t', c₁, r, htake', hfrom, rfl⟩ := Phase.readNext_eq_ok hread
    · cases htake.symm.trans hnone
    cases htake.symm.trans htake'
    obtain ⟨name, keyword, d, hlexeme, hname, _, hread', rfl⟩ := Phase.readFrom_eq_ok hfrom
    have hopens : ∀ relative, d.opens? = some relative →
        t.lexeme = .identifier "Include" ∨ t.lexeme = .identifier "Import" := by
      intro relative hrelative
      rw [hlexeme]
      exact (readDirective_opens hname hread' hrelative).1.imp (congrArg _) (congrArg _)
    exact (carryOut_handles hitems hopens).imp_left fun hmoved => ⟨keyword, d, hmoved⟩

end Session

/-! ### Texts -/

/-- What is still to be read of an open text is the end of the root, or of the file that the text is named for. -/
structure Frame.Within {κ : Type} (frame : Frame κ) (library : Library) (root : Root) (text : List Char) : Prop where
  named : (root = .text text ∧ frame.source = "<string>") ∨
    ∃ path, frame.source = path.toText ∧ library.files.readText library.config path = .ok text
  items : frame.cursor.items <:+ (Cursor.ofText frame.source text).items

namespace Session

variable {library : Library} {root : Root} {start s s' : Session} {event : Event} {moments : List Moment}

/-- All open texts are the ends of texts. -/
def WithinTexts (library : Library) (root : Root) (s : Session) : Prop :=
  ∀ frame ∈ s.stream.frames, ∃ text, frame.Within library root text

private theorem withinTexts_start (h : root.session library = .ok start) : start.WithinTexts library root := by
  cases root with
  | text characters =>
    cases h
    intro frame hframe
    rw [List.mem_singleton.1 hframe]
    exact ⟨characters, .inl ⟨rfl, rfl⟩, List.suffix_refl _⟩
  | file path =>
    obtain ⟨stream, hstream, rfl⟩ := bind_pure_eq_ok.1 h
    obtain ⟨text, htext, rfl⟩ := Stream.ofFile_eq_ok hstream
    intro frame hframe
    rw [List.mem_singleton.1 hframe]
    exact ⟨text, .inr ⟨path, rfl, htext⟩, List.suffix_refl _⟩

private theorem Moves.withinTexts [LinearAlgebra] (hs : s.WithinTexts s.library root) (h : s.Moves event s') :
    s'.WithinTexts s'.library root := by
  rw [h.library]
  intro frame hframe
  cases h with
  | @leaves outer below _ h =>
    rw [h.stream] at hframe
    have hbelow : ∀ frame ∈ outer :: below, ∃ text, frame.Within s.library root text := by
      intro frame hframe
      refine hs frame (List.mem_cons_of_mem _ ?_)
      rwa [h.around]
    rcases List.mem_cons.1 hframe with rfl | hframe
    · obtain ⟨text, hnamed, hitems⟩ := hbelow outer (List.mem_cons_self ..)
      exact ⟨text, hnamed, hitems⟩
    · exact hbelow frame (List.mem_cons_of_mem _ hframe)
  | @performs t c₁ c₂ keyword d _ h =>
    obtain ⟨more, hread, _⟩ := (Read.advances_take h.take).trans ((traced_readDirective _).advances h.read)
    have hitems : c₂.items <:+ s.stream.top.cursor.items := ⟨_, hread.symm⟩
    have hbefore : ∀ frame ∈ (s.stream.withCursor c₂).frames, ∃ text, frame.Within s.library root text := by
      intro frame hframe
      rcases List.mem_cons.1 hframe with rfl | hframe
      · obtain ⟨text, hnamed, hall⟩ := hs s.stream.top (List.mem_cons_self ..)
        exact ⟨text, hnamed, hitems.trans hall⟩
      · exact hs frame (List.mem_cons_of_mem _ hframe)
    rcases h.stream with ⟨_, hstream⟩ | ⟨relative, path, _, hopen⟩
    · rw [hstream] at hframe
      exact hbefore frame hframe
    · obtain ⟨_, text, htext, hstream⟩ := Stream.openFile_eq_ok hopen
      rw [hstream] at hframe
      rcases List.mem_cons.1 hframe with rfl | hframe
      · exact ⟨text, .inr ⟨path, rfl, htext⟩, List.suffix_refl _⟩
      · exact hbefore frame hframe

end Session

/-! ### Places -/

/-- The directive of this moment has emitted something that was not there before. -/
structure Moment.Emits [LinearAlgebra] (m : Moment) (keyword : Keyword) (location : Location) (x : Emission) :
    Prop where
  before : ¬ m.before.stage.draft.Emitted x
  after : ∃ d stage, m.event = .performed keyword d location ∧
    m.before.stage.execute location d = .ok stage ∧ stage.draft.Emitted x

/-- The place of what has been emitted is that of the keyword, in the text that this has been read in. -/
structure Moment.Places (m : Moment) (library : Library) (root : Root) (x : Emission) (keyword : Keyword)
    (location : Location) : Prop where
  emitter : x.keyword? = some keyword
  place : x.location = some location
  text : ∃ text, m.before.stream.top.Within library root text ∧ location.source = m.before.stream.source ∧
    ∃ rest, m.before.stream.top.cursor.items = .token ⟨.identifier keyword.name, location.line⟩ :: rest

namespace Session

variable {library : Library} {root : Root} {start s s' : Session} {event : Event} {moments : List Moment}

/-- What a directive emits has the place of its keyword. -/
theorem Moves.emitted [LinearAlgebra] (h : s.Moves event s') (hstep : s.stage.InStep)
    (htexts : s.WithinTexts library root) {x : Emission} (hx : s'.stage.draft.Emitted x) :
    s.stage.draft.Emitted x ∨ ∃ keyword location, (Moment.mk s event).Emits keyword location x ∧
      (Moment.mk s event).Places library root x keyword location := by
  by_cases hold : s.stage.draft.Emitted x
  · exact .inl hold
  cases h with
  | leaves h =>
    rw [h.draft] at hx
    exact .inl hx
  | @performs t c₁ c₂ keyword d _ h =>
    obtain ⟨name, hlexeme, hname⟩ := h.named
    obtain ⟨text, hwithin⟩ := htexts s.stream.top (List.mem_cons_self ..)
    rcases Stage.execute_emitted h.execute hstep hx with hx' | ⟨hplace, hkeyword, hsome⟩
    · exact absurd hx' hold
    obtain ⟨emitter, hemitter⟩ := Option.isSome_iff_exists.1 hsome
    have hsame : emitter = keyword := emittedBy_readDirective ⟨keyword, t.line⟩ c₁ d c₂ h.read emitter hemitter
    have htoken : t = ⟨.identifier keyword.name, t.line⟩ := by
      rw [Keyword.name_of_ofName? hname, ← hlexeme]
    refine .inr ⟨keyword, ⟨s.stream.source, t.line⟩, ⟨hold, d, _, rfl, h.execute, hx⟩, ?_, hplace, text, hwithin,
      rfl, c₁.items, ?_⟩
    · rw [hkeyword, hemitter, hsame]
    · rw [(Read.take_some h.take).1]
      exact congrArg (Item.token · :: c₁.items) htoken

/-- Whatever has been emitted in a run, a moment of the run has emitted, and its place is that of the keyword. -/
theorem Run.emitted [LinearAlgebra] (h : start.Run moments s) (hstart : root.session library = .ok start) {x : Emission}
    (hx : s.stage.draft.Emitted x) :
    ∃ m ∈ moments, ∃ keyword location, m.Emits keyword location x ∧ m.Places library root x keyword location := by
  have hs := (Root.start_of_session hstart).1
  let P (earlier : List Moment) (s : Session) : Prop :=
    (s.library = library ∧ s.stage.InStep ∧ s.WithinTexts library root) ∧
      ∀ x, s.stage.draft.Emitted x → ∃ m ∈ earlier, ∃ keyword location, m.Emits keyword location x ∧
        m.Places library root x keyword location
  have hall : P ([] ++ moments) s := by
    refine h.invariant_along (P := P) ?_ ⟨⟨(Root.start_of_session hstart).2, hs.inStep, withinTexts_start hstart⟩, ?_⟩
    · rintro earlier s event s' ⟨⟨rfl, hstep, htexts⟩, hemitted⟩ hmoves
      refine ⟨⟨hmoves.library, hmoves.inStep hstep, hmoves.library ▸ hmoves.withinTexts htexts⟩, fun x hx => ?_⟩
      rcases hmoves.emitted hstep htexts hx with hold | ⟨keyword, location, hemits, hplaces⟩
      · obtain ⟨m, hm, hrest⟩ := hemitted x hold
        exact ⟨m, List.mem_append_left _ hm, hrest⟩
      · exact ⟨_, List.mem_append_right _ (List.mem_singleton_self _), keyword, location, hemits, hplaces⟩
    · intro x hx
      rw [hs.stage] at hx
      exact absurd hx (Draft.not_emitted_initial x)
  exact hall.2 x hx

end Session

/-- A directive stays in its file.  In every session that can be reached, a token of the innermost text begins a
directive that is read in this text alone: all that its reading is told of, in looking or taking, are tokens in front
of the cursor there.  Its handling leaves no text, closes no import, keeps the texts around as they are, and opens
another one only if the token is `Include` or `Import`.  So everything that has been emitted has the place of the
keyword of its directive: the name of the text that the keyword stands in, and the line there. -/
theorem Root.directives_stay_in_files [LinearAlgebra] {library : Library} {root : Root} {start s : Session}
    {moments : List Moment} (hstart : root.session library = .ok start) (hrun : start.Run moments s) :
    (∀ t c, Read.take s.stream.top.cursor = .ok (some t) c →
      (∃ told, s.stage.phase.readNext.Dialogue s.stream.top.cursor (some t :: told)
        (s.stage.phase.readNext s.stream.top.cursor)) ∧
      (∀ told ending, s.stage.phase.readNext.Dialogue s.stream.top.cursor told ending →
        ∀ u, some u ∈ told → Item.token u ∈ s.stream.top.cursor.items) ∧
      ((∃ keyword d s', s.step = .moved (.performed keyword d ⟨s.stream.source, t.line⟩) s' ∧ s.Handles t s') ∨
        ∃ r s', s.step = .failed r s' ∧ s.Handles t s')) ∧
    ∀ x, s.stage.draft.Emitted x → ∃ m ∈ moments, ∃ keyword location, m.Emits keyword location x ∧
      m.Places library root x keyword location := by
  refine ⟨fun t c htake => ⟨s.stage.phase.exists_dialogue htake, ?_, Session.handles_of_take htake⟩, ?_⟩
  · intro told ending hdialogue u hu
    exact hdialogue.mem_items hu
  · intro x hx
    exact hrun.emitted hstart hx

/-! ### A directive at the end of an included file -/

namespace FilmInInclude

attribute [local instance] LinearAlgebra.stepwise

/-- A library with a file that holds one directive, whose parameters are looked for up to the end of the file. -/
def library : Library :=
  ⟨{ one_le_maxIncludeDepth := Config.one_le_defaultDepth },
    (FileTree.directory [("a", .file "Film \"rgb\"".toUTF8.toList)]).fileSystem []⟩

def root : Root :=
  .text "Include \"a\" WorldBegin".toList

/-- The rest of the root behind the directive that includes the file. -/
def rest : Cursor :=
  { items := [.token ⟨.identifier "WorldBegin", 1⟩], stuck := none, lastLine := 1 }

/-- The session at the start of the root. -/
def outer : Session where
  library := FilmInInclude.library
  stream.top :=
    { source := "<string>", path := none,
      cursor :=
        { items := .token ⟨.identifier "Include", 1⟩ :: .token ⟨.quoted "a", 1⟩ :: rest.items, stuck := none } }

/-- The session at the start of the included file. -/
def inner : Session where
  library := FilmInInclude.library
  stream :=
    { top :=
        { source := "a", path := some { names := ["a"] }, includeLine := some 1,
          cursor := { items := [.token ⟨.identifier "Film", 1⟩, .token ⟨.quoted "rgb", 1⟩], stuck := none,
                      lastLine := 1 } },
      below := [{ outer.stream.top with cursor := rest }] }
  journal := [.opened { names := ["a"] } "<string>" 1, .included { names := ["a"] }]

def film : Setting :=
  { kind := .film, type := "rgb", location := some ⟨"a", 1⟩ }

/-- The session behind the directive, where the included file is still open. -/
def behind : Session :=
  { inner with
    stream := inner.stream.withCursor { items := [], stuck := none, lastLine := 1 }
    stage := { draft := { settings := ({} : Settings).put film } } }

private theorem session_root : root.session library = .ok outer := by
  have hcursor : Cursor.ofText "<string>" "Include \"a\" WorldBegin".toList =
      { items := .token ⟨.identifier "Include", 1⟩ :: .token ⟨.quoted "a", 1⟩ :: rest.items, stuck := none } := by cbv
  rw [root, Root.session, Session.ofText, Stream.ofText, hcursor]
  rfl

private theorem openFile_film :
    (outer.stream.withCursor rest).openFile library "a" (some 1) none = .ok ({ names := ["a"] }, inner.stream) := by
  have hpath : Path.ofString "a" = { names := ["a"] } := by cbv
  have htext : ({ names := ["a"] } : Path).toText = "a" := by cbv
  have hread : library.files.readText library.config { names := ["a"] } = .ok "Film \"rgb\"".toList := by cbv
  have hcursor : Cursor.ofText "a" "Film \"rgb\"".toList =
      { items := [.token ⟨.identifier "Film", 1⟩, .token ⟨.quoted "rgb", 1⟩], stuck := none } := by cbv
  have hresolve : (outer.stream.withCursor rest).resolve library.config "a" = { names := ["a"] } := by
    rw [Stream.resolve_eq, hpath]
    rfl
  rw [Stream.openFile_of_checks (some 1) none hresolve (by decide) rfl hread, Stream.push, htext, hcursor]
  rfl

private theorem step_outer :
    outer.step = .moved (.performed .includeFile (.includeFile "a") ⟨"<string>", 1⟩) inner :=
  Session.carryOut_of_opening (t := { outer with stream := outer.stream.withCursor rest }) .includeFile 1
    (.includeFile "a") rfl rfl openFile_film

private theorem step_inner :
    inner.step = .moved (.performed (.setting .film) (.setting .film "rgb" {}) ⟨"a", 1⟩) behind := by
  have hend : readParameters { items := [], stuck := none, lastLine := 1 } =
      .ok {} { items := [], stuck := none, lastLine := 1 } := by
    rw [readParameters, readParametersOnto_eq]
    rfl
  have hread : readDirective ⟨.setting .film, 1⟩
      { items := [.token ⟨.quoted "rgb", 1⟩], stuck := none, lastLine := 1 } =
        .ok (.setting .film "rgb" {}) { items := [], stuck := none, lastLine := 1 } :=
    Read.bind_ok.2 ⟨"rgb", _, rfl, Read.bind_ok.2 ⟨_, _, hend, rfl⟩⟩
  have hnext : inner.stage.phase.readNext inner.stream.top.cursor = _ :=
    Phase.readNext_of_readDirective (t := ⟨.identifier "Film", 1⟩) rfl rfl rfl rfl hread
  rw [Session.step_eq, hnext]
  rfl

/-- The film is declared by the last directive of the included file, and its place is there. -/
theorem film_located :
    root.session library = .ok outer ∧
      behind.stream.top.cursor.items = [] ∧ behind.stage.draft.Emitted (.setting .film film) ∧
      ∃ moments, outer.Run moments behind ∧
        ∃ m ∈ moments, ∃ keyword location, m.Emits keyword location (.setting .film film) ∧
          m.Places library root (.setting .film film) keyword location := by
  have hrun : outer.Run _ behind := .cons step_outer (.cons step_inner (.nil _))
  exact ⟨session_root, rfl, rfl, _, hrun, (Root.directives_stay_in_files session_root hrun).2 _ rfl⟩

end FilmInInclude

end SceneDescription
