import SceneDescription.Proofs.Sessions.ScopeWords
import SceneDescription.Proofs.Splicing.FlatScopes
import SceneDescription.Proofs.Splicing.Operands
import SceneDescription.Proofs.Splicing.Spliced

/-!
# Replaying a session on the spliced text

A session that finishes can be replayed on what remains of its texts after splicing.  This is shown from the end
backwards (`Session.exists_replay`): the steps inside a text are replayed one by one, an include and the end of its
file take no step, and an import and the end of its file are replayed as `AttributeBegin` and `AttributeEnd`.
-/

namespace SceneDescription

theorem Keyword.name_of_ofName? {name : String} {keyword : Keyword} (h : ofName? name = some keyword) :
    keyword.name = name := by
  unfold ofName? at h
  split at h <;> cases h <;> rfl

theorem Read.over_of_take_none {c c' : Cursor} (h : take c = .ok none c') : c.Over [] := by
  obtain ⟨_ | ⟨_ | _, rest⟩, stuck, line⟩ := c
  · cases stuck with
    | some r => cases h
    | none => exact ⟨rfl, rfl⟩
  · cases h
  · cases h

/-! ### Directives in front of keywords -/

/-- The lexemes are read as the operands of a directive, if a keyword or nothing comes behind them. -/
def Reads (keyword : Keyword) (operands : List Lexeme) (d : Directive) : Prop :=
  ∀ line e tokens rest, e.Over (tokens ++ rest) → tokens.map (·.lexeme) = operands →
    (∀ t, rest.head? = some t → ∃ name, t.lexeme = .identifier name) →
    ∃ e', readDirective ⟨keyword, line⟩ e = .ok d e' ∧ e'.Over rest

private theorem reads_pure {keyword : Keyword} {d : Directive} (h : ∀ line, readDirective ⟨keyword, line⟩ = pure d) :
    Reads keyword [] d := by
  intro line e tokens rest he htokens _
  obtain rfl : tokens = [] := List.map_eq_nil_iff.1 htokens
  rw [h]
  exact ⟨e, rfl, he⟩

/-- What has been read is the operands of a directive that opens no file, or the name of a file. -/
theorem readDirective_cases {name : String} {keyword : Keyword} {line : Nat} {c c' : Cursor} {d : Directive}
    (hname : Keyword.ofName? name = some keyword) (hread : readDirective ⟨keyword, line⟩ c = .ok d c') :
    ∃ taken : List Token, c.items = taken.map .token ++ c'.items ∧
      ((d.opens? = none ∧ (Lexeme.identifier name).IsPlain ∧ (∀ t ∈ taken, t.lexeme.IsPlain) ∧
        Reads keyword (taken.map (·.lexeme)) d) ∨
      (∃ relative line', name = "Include" ∧ d = .includeFile relative ∧ taken = [⟨.quoted relative, line'⟩]) ∨
      ∃ relative line', name = "Import" ∧ keyword = .importFile ∧ d = .importFile relative ∧
        taken = [⟨.quoted relative, line'⟩]) := by
  have hword := Keyword.name_of_ofName? hname
  by_cases hinclude : keyword = .includeFile
  · subst hinclude
    obtain ⟨relative, line', hd, hitems⟩ := readDirective_includeFile hread
    exact ⟨[⟨.quoted relative, line'⟩], hitems, .inr (.inl ⟨relative, line', hword.symm, hd, rfl⟩)⟩
  by_cases himport : keyword = .importFile
  · subst himport
    obtain ⟨relative, line', hd, hitems⟩ := readDirective_importFile hread
    exact ⟨[⟨.quoted relative, line'⟩], hitems, .inr (.inr ⟨relative, line', hword.symm, rfl, hd, rfl⟩)⟩
  have hplain : (Lexeme.identifier name).IsPlain := by
    constructor
    · rintro ⟨⟩
      exact hinclude (Option.some.inj hname).symm
    · rintro ⟨⟩
      exact himport (Option.some.inj hname).symm
  -- for every line the same tokens have been taken
  obtain ⟨hopens, taken, hitems, hall, _⟩ := local_readDirective hinclude himport line line c d c' hread
  refine ⟨taken, hitems, .inl ⟨hopens, hplain, hall, ?_⟩⟩
  intro line' e tokens rest he htokens hrest
  obtain ⟨_, taken', hitems', _, hagain⟩ := local_readDirective hinclude himport line line' c d c' hread
  obtain rfl : taken' = taken := taken_unique (hitems'.symm.trans hitems)
  exact hagain e tokens rest he htokens (.inl hrest)

/-- A directive that opens a file is one of two, and has one operand. -/
theorem readDirective_opens {name relative : String} {keyword : Keyword} {line : Nat} {c c' : Cursor} {d : Directive}
    (hname : Keyword.ofName? name = some keyword) (hread : readDirective ⟨keyword, line⟩ c = .ok d c')
    (hopens : d.opens? = some relative) :
    (name = "Include" ∨ name = "Import") ∧ ∃ operand, c.items = .token operand :: c'.items := by
  obtain ⟨taken, hitems, ⟨hnone, _⟩ | ⟨_, _, hword, _, rfl⟩ | ⟨_, _, hword, _, _, rfl⟩⟩ :=
    readDirective_cases hname hread
  · cases hnone.symm.trans hopens
  · exact ⟨.inl hword, _, hitems⟩
  · exact ⟨.inr hword, _, hitems⟩

namespace Session

/-! ### Replaying on one text -/

/-- A session in front of the lexemes, with no text around them, whose stage is like the given one, with attribute
scopes in place of imports. -/
structure InFrontOf (t : Session) (lexemes : List Lexeme) (stage : Stage) : Prop where
  alone : t.stream.below = []
  ahead : ∃ tokens, t.stream.top.cursor.Over tokens ∧ tokens.map (·.lexeme) = lexemes
  stage : stage.flat.unlocated = t.stage.unlocated

/-- Only in the world are files imported. -/
def ImportsInWorld (s : Session) : Prop :=
  openMarks s.stream.frames ≠ [] → s.stage.phase = .world

theorem Start.importsInWorld {s : Session} (h : s.Start) : s.ImportsInWorld := by
  obtain ⟨hbelow, hclose⟩ := h.frames
  intro hmarks
  exact absurd (by simp [openMarks, Stream.frames, hbelow, hclose]) hmarks

variable [LinearAlgebra]

/-- The lexemes lead from the stage to the scene, up to locations.  If there are any, a keyword comes first. -/
structure Replays (stage : Stage) (lexemes : List Lexeme) (scene : Scene) : Prop where
  keyword : ∀ l, lexemes.head? = some l → ∃ name, l = .identifier name
  finish : ∀ t : Session, t.InFrontOf lexemes stage →
    ∃ last, t.finish = .finished last ∧ last.scene.unlocated = scene.unlocated

theorem step_of_ended {t : Session} (halone : t.stream.below = []) (hover : t.stream.top.cursor.Over [])
    (hbalanced : t.stage.scopes.checkBalanced = .ok ()) : t.step = .finished := by
  have htake : Read.take t.stream.top.cursor = .ok none t.stream.top.cursor := by
    simp [Read.take, hover.1, hover.2]
  simp [step, Stream.advance, htake, halone, hbalanced]

theorem step_of_directive {t : Session} {token : Token} {c₁ c₂ : Cursor} {name : String} {keyword : Keyword}
    {d : Directive} {stage : Stage} (htake : Read.take t.stream.top.cursor = .ok (some token) c₁)
    (hlexeme : token.lexeme = .identifier name) (hname : Keyword.ofName? name = some keyword)
    (hphase : keyword.allowedIn t.stage.phase) (hread : readDirective ⟨keyword, token.line⟩ c₁ = .ok d c₂)
    (hopens : d.opens? = none) (hexecute : t.stage.execute ⟨t.stream.source, token.line⟩ d = .ok stage) :
    ∃ e t', t.step = .moved e t' ∧ t'.stage = stage ∧ t'.stream = t.stream.withCursor c₂ := by
  have hstep : t.step = ({ t with stream := t.stream.withCursor c₂ } : Session).carryOut keyword token.line d := by
    simp [step, Stream.advance, htake, perform, hlexeme, hname, hphase, Stream.withCursor, hread]
  have hcarry : ({ t with stream := t.stream.withCursor c₂ } : Session).carryOut keyword token.line d =
      .moved (.performed keyword d ⟨t.stream.source, token.line⟩)
        (Session.log { t with stream := t.stream.withCursor c₂, stage }
          (notesOn d ⟨t.stream.source, token.line⟩ t.stage.draft stage.draft)) := by
    unfold carryOut
    dsimp only [Stream.withCursor, Stream.source] at hexecute ⊢
    rw [hexecute, hopens]
  exact ⟨_, _, hstep.trans hcarry, rfl, rfl⟩

private theorem Replays.nil {stage : Stage} (hbalanced : stage.scopes.checkBalanced = .ok ()) :
    Replays stage [] stage.draft.scene := by
  refine ⟨by simp, ?_⟩
  intro t ht
  obtain ⟨tokens, hover, htokens⟩ := ht.ahead
  obtain rfl : tokens = [] := List.map_eq_nil_iff.1 htokens
  have hbalanced' : t.stage.scopes.checkBalanced = .ok () :=
    ScopeStack.checkBalanced_congr (congrArg (·.scopes) ht.stage) (ScopeStack.checkBalanced_flat hbalanced)
  refine ⟨t, finish_of_finished (step_of_ended ht.alone hover hbalanced'), ?_⟩
  have hdraft : stage.draft.unlocated = t.stage.draft.unlocated := congrArg (·.draft) ht.stage
  rw [Session.scene, Draft.scene_unlocated, Draft.scene_unlocated, hdraft]

/-- A directive in front of what can be replayed. -/
private theorem Replays.directive {stage stage' : Stage} {keyword : Keyword} {d : Directive}
    {operands rest : List Lexeme} {location : Location} {scene : Scene} (name : String)
    (hname : Keyword.ofName? name = some keyword) (hphase : keyword.allowedIn stage.phase)
    (hreads : Reads keyword operands d) (hopens : d.opens? = none)
    (hexecute : stage.flat.execute location d = .ok stage'.flat) (h : Replays stage' rest scene) :
    Replays stage (.identifier name :: (operands ++ rest)) scene := by
  constructor
  · rintro l ⟨⟩
    exact ⟨name, rfl⟩
  intro t ht
  obtain ⟨tokens, hover, htokens⟩ := ht.ahead
  obtain ⟨token, tokens, rfl, hlexeme, htokens⟩ := List.map_eq_cons_iff.1 htokens
  obtain ⟨taken, more, rfl, htaken, hmore⟩ := List.map_eq_append_iff.1 htokens
  obtain ⟨c₁, htake, hc₁⟩ := Read.take_over hover
  have hkeyword : ∀ u, more.head? = some u → ∃ name, u.lexeme = .identifier name := by
    intro u hu
    refine h.keyword u.lexeme ?_
    rw [← hmore, List.head?_map, hu]
    rfl
  obtain ⟨c₂, hread, hc₂⟩ := hreads token.line c₁ taken more hc₁ htaken hkeyword
  have hphase' : keyword.allowedIn t.stage.phase := by
    have heq : stage.phase = t.stage.phase := congrArg (·.phase) ht.stage
    rw [← heq]
    exact hphase
  obtain ⟨after, hexecute', hafter⟩ := Stage.execute_congr ht.stage ⟨t.stream.source, token.line⟩ hexecute
  obtain ⟨e, t', hstep, hstage, hstream⟩ :=
    step_of_directive htake hlexeme hname hphase' hread hopens hexecute'
  rw [finish_of_moved hstep]
  refine h.finish t' ⟨?_, ⟨more, ?_, hmore⟩, ?_⟩
  · rw [hstream]
    exact ht.alone
  · rw [hstream]
    exact hc₂
  · rw [hstage]
    exact hafter

/-! ### Replaying on open texts -/

variable {s s' : Session} {e : Event}

theorem Moves.importsInWorld (hs : s.ImportsInWorld) (h : s.Moves e s') : s'.ImportsInWorld := by
  intro hmarks
  cases h with
  | leaves h =>
    have hworld : s.stage.phase = .world := by
      refine hs ?_
      rw [h.stream, openMarks_backTo] at hmarks
      rw [Stream.frames, openMarks_cons, h.around]
      exact List.append_ne_nil_of_right_ne_nil _ hmarks
    rcases h.stage with ⟨_, hstage⟩ | ⟨mark, _, hleave⟩
    · rw [hstage]
      exact hworld
    · obtain ⟨_, _, hstage⟩ := bind_pure_eq_ok.1 hleave
      rw [← hstage]
      exact hworld
  | @performs t c₁ c₂ keyword d _ h =>
    refine Stage.execute_world h.execute ?_
    obtain ⟨name, _, hname⟩ := h.named
    rcases h.stream with ⟨_, hstream⟩ | ⟨relative, path, hopens, hopen⟩
    · rw [hstream, openMarks_withCursor] at hmarks
      exact hs hmarks
    obtain ⟨_, text, _, hstream⟩ := Stream.openFile_eq_ok hopen
    obtain ⟨_, _, ⟨hnone, _⟩ | ⟨_, _, _, rfl, _⟩ | ⟨_, _, _, rfl, _⟩⟩ := readDirective_cases hname h.read
    · cases hnone.symm.trans hopens
    · rw [hstream] at hmarks
      exact hs hmarks
    · have hphase := h.phase
      simpa [Keyword.allowedIn, Keyword.phase?, eq_comm] using hphase

/-- The session can be replayed on what remains of its texts. -/
def Replayable (s : Session) (scene : Scene) : Prop :=
  ∃ lexemes, Remains s.library s.stream.frames lexemes ∧ Replays s.stage lexemes scene

private theorem replayable_of_finished (hs : s.Consistent) (h : s.step = .finished) : s.Replayable s.scene := by
  obtain ⟨hbelow, ⟨c, htake⟩, hbalanced⟩ := of_step_finished h
  obtain ⟨hrecording, hsaved⟩ := ScopeStack.checkBalanced_eq_ok.1 hbalanced
  have hclose : s.stream.top.onClose = none := by
    have hopen : OpenScopes s.stage.scopes.kinds s.stage.scopes.floor s.stage.scopes.recording
        (openMarks s.stream.frames) := hs
    rw [ScopeStack.kinds, hsaved, Stream.frames, hbelow, openMarks_cons] at hopen
    have hmarks := hopen.marks_eq_nil
    simpa [openMarks] using hmarks
  refine ⟨[], ⟨[], [], [], Read.over_of_take_none htake, .nil, ?_, ?_⟩, .nil hbalanced⟩
  · rw [hbelow]
    rfl
  · simp [closing, hclose]

/-- The end of an imported file is replayed as `AttributeEnd`. -/
theorem Leaves.replayable {outer : Frame Mark} {below : List (Frame Mark)} {scene : Scene} (hs : s.Consistent)
    (hworld : s.ImportsInWorld) (h : s.Leaves outer below s') (hnext : s'.Replayable scene) :
    s.Replayable scene := by
  obtain ⟨rest, hremains, hreplays⟩ := hnext
  obtain ⟨c, htake⟩ := h.take
  rw [h.library, h.stream] at hremains
  have hbelow : Remains s.library s.stream.below rest := by
    rw [h.around]
    exact hremains
  refine ⟨closing s.stream.top.onClose ++ rest, ⟨[], [], rest, Read.over_of_take_none htake, .nil, hbelow, rfl⟩, ?_⟩
  rcases h.stage with ⟨hclose, hstage⟩ | ⟨mark, hclose, hleave⟩
  · rw [hstage] at hreplays
    rw [hclose]
    exact hreplays
  · have hmarks : openMarks s.stream.frames = mark :: openMarks s.stream.below := by
      rw [Stream.frames, openMarks_cons, hclose]
      rfl
    have hopen : OpenScopes s.stage.scopes.kinds s.stage.scopes.floor s.stage.scopes.recording
        (mark :: openMarks s.stream.below) := hmarks ▸ hs
    have hphase : Keyword.attributeEnd.allowedIn s.stage.phase := by
      rw [hworld (by simp [hmarks])]
      rfl
    rw [hclose]
    exact hreplays.directive "AttributeEnd" rfl hphase (reads_pure fun _ => rfl) rfl
      (Stage.leaveImport_flat ⟨s.stream.source, 0⟩ hopen hleave)

/-- In front of the tokens of a directive stand its keyword and its operands. -/
theorem Performs.cursor_over {t : Token} {c₁ c₂ : Cursor} {keyword : Keyword} {d : Directive}
    {taken tokens : List Token} (h : s.Performs t c₁ c₂ keyword d s') (hitems : c₁.items = taken.map .token ++ c₂.items)
    (hover : c₂.Over tokens) : s.stream.top.cursor.Over (t :: (taken ++ tokens)) := by
  obtain ⟨hfirst, hstuck⟩ := Read.take_some h.take
  have hforward := (forward_readDirective ⟨keyword, t.line⟩ c₁).2
  simp only [Read.after, h.read] at hforward
  constructor
  · rw [hfirst, hitems, hover.1, List.map_cons, List.map_append]
  · rw [← hstuck, ← hforward]
    exact hover.2

/-- What remains behind a directive that opens a file. -/
theorem Performs.remains_opened {t : Token} {c₁ c₂ : Cursor} {keyword : Keyword} {d : Directive}
    {relative : String} {lexemes : List Lexeme} (h : s.Performs t c₁ c₂ keyword d s')
    (hopens : d.opens? = some relative) (hremains : Remains s.library s'.stream.frames lexemes) :
    ∃ path file inner tokens rest outer,
      path = (s.stream.baseDirectory s.library.config).join (.ofString relative) ∧
      s.library.tokens? path = some file ∧ Spliced s.library path.parent file inner ∧ c₂.Over tokens ∧
      Spliced s.library (s.stream.baseDirectory s.library.config) tokens rest ∧
      Remains s.library s.stream.below outer ∧
      lexemes = inner ++ closing (s.markFor d) ++ (rest ++ closing s.stream.top.onClose ++ outer) := by
  rcases h.stream with ⟨hnone, _⟩ | ⟨relative', path, hsome, hopen⟩
  · cases hnone.symm.trans hopens
  cases hsome.symm.trans hopens
  obtain ⟨hpath, text, htext, hstream⟩ := Stream.openFile_eq_ok hopen
  rw [hstream] at hremains
  obtain ⟨file, inner, _, hfile, hinner, ⟨tokens, rest, outer, hover, hrest, houter, rfl⟩, rfl⟩ := hremains
  have hfile' : (Cursor.ofText path.toText text).Over file := hfile
  exact ⟨path, file, inner, tokens, rest, outer, hpath, Library.tokens?_eq_some htext hfile', hinner, hover, hrest,
    houter, rfl⟩

private theorem Performs.replayable {t : Token} {c₁ c₂ : Cursor} {keyword : Keyword} {d : Directive} {scene : Scene}
    (h : s.Performs t c₁ c₂ keyword d s') (hnext : s'.Replayable scene) : s.Replayable scene := by
  obtain ⟨name, hlexeme, hname⟩ := h.named
  obtain ⟨lexemes, hremains, hreplays⟩ := hnext
  obtain ⟨lexeme, line⟩ := t
  subst hlexeme
  rw [h.library] at hremains
  obtain ⟨taken, hitems, ⟨hopens, hplain, hall, hreads⟩ | ⟨relative, line', rfl, rfl, rfl⟩ |
    ⟨relative, line', rfl, rfl, rfl, rfl⟩⟩ := readDirective_cases hname h.read
  · rcases h.stream with ⟨_, hstream⟩ | ⟨relative, path, hsome, _⟩
    -- behind the operands stands the end of the text or a keyword, possibly of another text
    · rw [hstream] at hremains
      obtain ⟨tokens, inner, outer, hover, hspliced, hbelow, rfl⟩ := hremains
      have hremains : Remains s.library s.stream.frames
          (.identifier name :: (taken.map (·.lexeme) ++ inner) ++ closing s.stream.top.onClose ++ outer) :=
        ⟨_, _, outer, h.cursor_over hitems hover, .plain hplain (.append hall hspliced), hbelow, rfl⟩
      refine ⟨_, hremains, ?_⟩
      have hdirective := hreplays.directive name hname h.phase hreads hopens (Stage.execute_flat hopens h.execute)
      simpa [Stream.withCursor] using hdirective
    · cases hopens.symm.trans hsome
  · obtain ⟨path, file, inner, tokens, rest, outer, hpath, hfile, hinner, hover, hrest, hbelow, rfl⟩ :=
      h.remains_opened rfl hremains
    -- an include takes no step on the spliced text
    have hstage : s'.stage = s.stage := (Except.ok.inj h.execute).symm
    refine ⟨_, ⟨_, _, outer, h.cursor_over hitems hover,
      .included hpath hfile hinner hrest, hbelow, rfl⟩, ?_⟩
    rw [hstage] at hreplays
    simpa [closing, markFor] using hreplays
  · obtain ⟨path, file, inner, tokens, rest, outer, hpath, hfile, hinner, hover, hrest, hbelow, rfl⟩ :=
      h.remains_opened rfl hremains
    refine ⟨_, ⟨_, _, outer, h.cursor_over hitems hover,
      .imported hpath hfile hinner hrest, hbelow, rfl⟩, ?_⟩
    have hphase : Keyword.attributeBegin.allowedIn s.stage.phase := h.phase
    have hdirective := hreplays.directive "AttributeBegin" rfl hphase (reads_pure fun _ => rfl) rfl
      (Stage.import_flat h.execute)
    simpa [closing, markFor] using hdirective

/-- A session that finishes can be replayed on what remains of its texts. -/
theorem exists_replay {last : Session} (hs : s.Consistent) (hworld : s.ImportsInWorld)
    (h : s.finish = .finished last) : s.Replayable last.scene := by
  -- from the end backwards, because what remains of the texts is known to have no fault only once it has been read
  refine finish_induction (motive := fun s => s.Consistent → s.ImportsInWorld → s.Replayable last.scene)
    ?_ ?_ h hs hworld
  · intro hstep hs _
    exact replayable_of_finished hs hstep
  · intro s e s' hstep _ ih hs hworld
    have hmoves := moves_of_step hstep
    have hnext := ih (hmoves.consistent hs) (hmoves.importsInWorld hworld)
    cases hmoves with
    | performs h => exact h.replayable hnext
    | leaves h => exact h.replayable hs hworld hnext

end Session

end SceneDescription
