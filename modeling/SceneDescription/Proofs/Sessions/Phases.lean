import SceneDescription.Proofs.Sessions.LexicalScoping
import SceneDescription.Proofs.Sessions.Prologues
import SceneDescription.Transform.Elimination

/-!
# The two phases of a session

`WorldBegin` divides the keywords of a session into those of the options and those of the world, however they are
spread over files (`Session.Run.phases`).  Among the options no scope can be opened, no file be imported and nothing of
the world be declared (`Session.Blank`).  So the world begins outside of all scopes, and an end or an import that is
left later brings back a state from after the begin of the world (`Session.Run.exists_opening`).
-/

namespace SceneDescription

/-- Keywords that may stand before the world, then perhaps its begin and keywords that may stand in the world. -/
def PhaseOrdered (keywords : List Keyword) : Prop :=
  ∃ options rest, keywords = options ++ rest ∧
    (∀ k ∈ options, k.phase? ≠ some .world ∧ k ≠ .worldBegin) ∧
    (rest = [] ∨ ∃ world, rest = .worldBegin :: world ∧ ∀ k ∈ world, k.phase? ≠ some .options)

private theorem Keyword.phase?_ne_of_allowedIn {k : Keyword} {phase other : Phase} (h : k.allowedIn phase)
    (hother : other ≠ phase) : k.phase? ≠ some other := by
  intro hphase
  simp [allowedIn, hphase, hother] at h

private theorem keywordsOf_cons (m : Moment) (moments : List Moment) :
    keywordsOf (m :: moments) = m.event.keyword?.toList ++ keywordsOf moments := by
  unfold keywordsOf
  rw [List.filterMap_cons]
  cases m.event.keyword? <;> rfl

namespace Session

variable {s s' last : Session} {event : Event} {moments : List Moment}

/-! ### The order of keywords -/

private theorem Moves.allowedIn [LinearAlgebra] (h : s.Moves event s') {k : Keyword} (hk : event.keyword? = some k) :
    k.allowedIn s.stage.phase := by
  cases h with
  | performs h =>
    cases hk
    exact h.phase
  | leaves h => cases hk

/-- The phase changes by the begin of the world and by nothing else. -/
theorem Moves.phase [LinearAlgebra] (h : s.Moves event s') :
    s'.stage.phase = if event.keyword? = some .worldBegin then .world else s.stage.phase := by
  cases h with
  | @performs t c₁ c₂ keyword d _ h =>
    rw [Stage.execute_phase h.execute]
    split
    · rename_i hkeyword
      cases hkeyword
      have hd := h.hasKeyword.keyword?_eq id
      cases d with
      | worldBegin => rfl
      | _ => cases hd
    · rename_i hkeyword
      cases d with
      | worldBegin => exact absurd (congrArg some (h.hasKeyword.eq_of_keyword? rfl)) hkeyword
      | _ => rfl
  | leaves h =>
    rw [if_neg (by simp [Event.keyword?])]
    rcases h.stage with ⟨_, hstage⟩ | ⟨mark, _, hleave⟩
    · rw [hstage]
    · obtain ⟨_, _, hstage⟩ := bind_pure_eq_ok.1 hleave
      rw [← hstage]

/-- In the world, a run comes across no keyword of the options. -/
theorem Run.in_world [LinearAlgebra] (h : Run s moments s') (hworld : s.stage.phase = .world) :
    ∀ k ∈ keywordsOf moments, k.phase? ≠ some .options := by
  induction h with
  | nil s => simp [keywordsOf]
  | @cons s s₁ s' event moments hstep _ ih =>
    have hmoves := moves_of_step hstep
    have hnext : s₁.stage.phase = .world := by
      rw [hmoves.phase, hworld, ite_self]
    intro k hk
    rw [keywordsOf_cons] at hk
    rcases List.mem_append.1 hk with hfirst | hrest
    · have hallowed := hmoves.allowedIn (Option.mem_toList.1 hfirst)
      rw [hworld] at hallowed
      exact Keyword.phase?_ne_of_allowedIn hallowed (by decide)
    · exact ih hnext k hrest

/-- The keywords of a run from the options on. -/
theorem Run.phases [LinearAlgebra] (h : Run s moments s') (hoptions : s.stage.phase = .options) :
    PhaseOrdered (keywordsOf moments) := by
  induction h with
  | nil s => exact ⟨[], [], rfl, by simp, .inl rfl⟩
  | @cons s s₁ s' event moments hstep hrun ih =>
    have hmoves := moves_of_step hstep
    have hphase := hmoves.phase
    rw [keywordsOf_cons]
    by_cases hbegin : event.keyword? = some .worldBegin
    · rw [if_pos hbegin] at hphase
      refine ⟨[], _, rfl, by simp, .inr ⟨keywordsOf moments, ?_, hrun.in_world hphase⟩⟩
      rw [hbegin]
      rfl
    · rw [if_neg hbegin] at hphase
      obtain ⟨options, rest, heq, hfront, hback⟩ := ih (hphase.trans hoptions)
      refine ⟨event.keyword?.toList ++ options, rest, by rw [heq, List.append_assoc], ?_, hback⟩
      intro k hk
      rcases List.mem_append.1 hk with hfirst | hlater
      · have hkeyword : event.keyword? = some k := Option.mem_toList.1 hfirst
        have hallowed := hmoves.allowedIn hkeyword
        rw [hoptions] at hallowed
        refine ⟨Keyword.phase?_ne_of_allowedIn hallowed (by decide), ?_⟩
        rintro rfl
        exact hbegin hkeyword
      · exact hfront k hlater

/-! ### Before the world -/

/-- No scope is open, no file is being imported, and nothing of the world has been chosen or declared. -/
structure Blank (s : Session) : Prop where
  saved : s.stage.scopes.saved = []
  floor : s.stage.scopes.floor = 0
  recording : s.stage.scopes.recording = none ∧ s.stage.draft.recording = none
  onClose : ∀ frame ∈ s.stream.frames, frame.onClose = none
  reverseOrientation : s.stage.active.reverseOrientation = false
  material : s.stage.active.material = .default
  areaLight : s.stage.active.areaLight = none
  attributes : s.stage.active.attributes = []
  shapes : s.scene.shapes = []
  lights : s.scene.lights = []
  areaLights : s.scene.areaLights = []
  materials : s.scene.materials = []
  textures : s.scene.textures = []
  objects : s.scene.objects = []
  instances : s.scene.instances = []

private theorem WorldAhead.blank (h : s.WorldAhead) (hoptions : s.stage.phase = .options) : s.Blank := by
  obtain ⟨⟨ctm, activeTimes, mediumInterface, hscopes⟩, hdraft⟩ := h.untouched hoptions
  have hactive : s.stage.active = { ctm, activeTimes, mediumInterface } := congrArg (·.active) hscopes
  have hmarks : openMarks s.stream.frames = [] := by
    by_contra hmarks
    cases hoptions.symm.trans (h.imports hmarks)
  constructor
  case saved | floor => rw [hscopes]
  case recording =>
    rw [hscopes]
    exact ⟨rfl, congrArg (·.recording) hdraft⟩
  case onClose => exact List.filterMap_eq_nil_iff.1 hmarks
  case reverseOrientation | material | areaLight | attributes => rw [hactive]
  case shapes => exact congrArg (·.shapes) hdraft
  case lights => exact congrArg (·.lights) hdraft
  case areaLights => exact congrArg (·.areaLights) hdraft
  case materials => exact congrArg (·.materials) hdraft
  case textures => exact congrArg (·.textures) hdraft
  case objects => exact congrArg (·.objects) hdraft
  case instances => exact congrArg (·.instances) hdraft

private theorem Start.blank [LinearAlgebra] (hs : s.Start) (h : Run s moments s')
    (hoptions : s'.stage.phase = .options) : s'.Blank := by
  have hahead := h.invariant (fun _ _ _ hs hmoves => hmoves.worldAhead hs) hs.worldAhead
  exact hahead.blank hoptions

/-! ### The begin of the world -/

/-- The transformations and the active times are reset, outside of all scopes. -/
theorem Moves.worldBegin [LinearAlgebra] (h : s.Moves event s') (hevent : event.keyword? = some .worldBegin) :
    s.stage.phase = .options ∧ s'.stage.scopes.saved = s.stage.scopes.saved ∧
      s'.stage.active.ctm = .both .identity ∧ s'.stage.active.activeTimes = .both true := by
  have hallowed := h.allowedIn hevent
  cases h with
  | @performs t c₁ c₂ keyword d _ h =>
    cases hevent
    have hd := h.hasKeyword.keyword?_eq id
    cases d with
    | worldBegin =>
      refine ⟨?_, ?_⟩
      · simpa [Keyword.allowedIn, Keyword.phase?, eq_comm] using hallowed
      · rw [← Except.ok.inj h.execute]
        exact ⟨rfl, rfl, rfl⟩
    | _ => cases hd
  | leaves h => cases hevent

/-- Where no scope is open, a scope that is closed later has been opened later, and its end brings back the scopes as
they were before. -/
theorem Run.exists_opening [LinearAlgebra] {y : Moment} {kind : ScopeKind} (hs : s.Consistent)
    (hsaved : s.stage.scopes.saved = []) (h : Run s (moments ++ [y]) s') (hy : y.side = .closing kind) :
    ∃ earlier x inner, moments = earlier ++ x :: inner ∧ x.side = .opening kind ∧ WellNested Moment.side inner ∧
      s'.stage.scopes = x.before.stage.scopes := by
  obtain ⟨s₁, hfirst, hlast⟩ := append_iff.1 h
  obtain ⟨rfl, hstep⟩ := singleton_iff.1 hlast
  have hunclosed := hfirst.unclosed_of_saved hs hsaved
  have hconsistent := hfirst.invariant (fun _ _ _ hs hmoves => hmoves.consistent hs) hs
  have hnext := (ScopeMachine.step_consistent hconsistent (moves_of_step hstep).machine).2
  have hside : (y.event.op y.before.stage.draft).side = .closing kind := hy
  rw [hside] at hnext
  -- the end closes the innermost scope, which a moment of the run has opened
  cases hkinds : y.before.stage.scopes.kinds with
  | nil =>
    rw [show y.before.machine.stack.kinds = [] from hkinds] at hnext
    cases hnext
  | cons innermost kinds =>
    rw [show y.before.machine.stack.kinds = innermost :: kinds from hkinds] at hnext
    obtain rfl : innermost = kind := by
      by_contra hne
      simp [Side.next, hne] at hnext
    rw [hkinds] at hunclosed
    obtain ⟨earlier, x, inner, heq, _, hx, hinner⟩ := hunclosed
    refine ⟨earlier, x, inner, heq, hx, hinner, ?_⟩
    subst heq
    have hblock : Run s (earlier ++ x :: (inner ++ [y])) s' := by simpa using h
    obtain ⟨s₁, _, hblock⟩ := append_iff.1 hblock
    obtain rfl : x.before = s₁ := by
      cases hblock
      rfl
    have hrun := hblock.machine
    rw [List.map_cons, List.map_append] at hrun
    exact congrArg (·.stack) (ScopeMachine.run_block hx (WellNested.map (f := Moment.op) hinner) hy hrun)

/-- The directives of a session that finishes are in the order of the phases.  As long as it is among the options,
nothing of the world is there.  So the world begins outside of all scopes, and what it resets stays reset: every scope
that is closed later has been opened later, and the state at each later moment comes about from the reset one by the
effects on the path from there. -/
theorem phases_in_order [LinearAlgebra] (hs : s.Start) :
    (∀ last, s.finish = .finished last → PhaseOrdered (keywordsOf s.moments)) ∧
    (∀ moments s', Run s moments s' → s'.stage.phase = .options → s'.Blank) ∧
    ∀ earlier m s₁, Run s (earlier ++ [m]) s₁ → m.event.keyword? = some .worldBegin →
      m.before.stage.scopes.depth = 0 ∧ s₁.stage.scopes.depth = 0 ∧ s₁.stage.active.ctm = .both .identity ∧
      s₁.stage.active.activeTimes = .both true ∧
      (∀ moments y kind s', Run s₁ (moments ++ [y]) s' → y.side = .closing kind →
        ∃ before x inner, moments = before ++ x :: inner ∧ x.side = .opening kind ∧ WellNested Moment.side inner ∧
          s'.stage.scopes = x.before.stage.scopes) ∧
      ∀ later s', Run s₁ later s' → ∃ path, Pruned Moment.side later path ∧
        s'.stage.active = path.foldl (fun state m => m.effect state) s₁.stage.active := by
  refine ⟨fun last hfinish => ?_, fun moments s' hrun hoptions => hs.blank hrun hoptions, ?_⟩
  · refine (run_moments hfinish).1.phases ?_
    rw [hs.stage]
  · intro earlier m s₁ hrun hm
    obtain ⟨s₀, hfirst, hlast⟩ := Run.append_iff.1 hrun
    obtain ⟨rfl, hstep⟩ := Run.singleton_iff.1 hlast
    obtain ⟨hoptions, hsaved, hctm, htimes⟩ := (moves_of_step hstep).worldBegin hm
    have hempty := (hs.blank hfirst hoptions).saved
    rw [hempty] at hsaved
    have hconsistent := hrun.invariant (fun _ _ _ hs hmoves => hmoves.consistent hs) hs.consistent
    refine ⟨by rw [ScopeStack.depth, hempty]; rfl, by rw [ScopeStack.depth, hsaved]; rfl, hctm, htimes, ?_, ?_⟩
    · intro moments y kind s' hlater hy
      exact hlater.exists_opening hconsistent hsaved hy
    · intro later s' hlater
      obtain ⟨path, hpath⟩ := (hlater.unclosed_of_saved hconsistent hsaved).exists_pruned
      exact ⟨path, hpath, hlater.active_eq_foldl hpath⟩

end Session

namespace Session

attribute [local instance] LinearAlgebra.stepwise

/-- A world with a scope in it, behind a translation that concerns only the closing of the shutter. -/
theorem world_resets_motion :
    ∃ s last : Session, s.Start ∧ s.finish = .finished last ∧
      keywordsOf s.moments = [.activeTransform, .translate, .worldBegin, .attributeBegin, .shape, .attributeEnd] ∧
      PhaseOrdered (keywordsOf s.moments) ∧
      ∃ (m : Moment) (s₁ : Session) (later path : List Moment), m.event.keyword? = some .worldBegin ∧
        m.before.stage.scopes.depth = 0 ∧ s₁.stage.active.ctm = .both .identity ∧
        Run s₁ later last ∧ Pruned Moment.side later path ∧
        last.stage.active = path.foldl (fun state m => m.effect state) s₁.stage.active := by
  let s := ofText ⟨{}, (FileTree.directory []).fileSystem []⟩
    "ActiveTransform EndTime Translate 1 0 0 WorldBegin AttributeBegin Shape \"sphere\" AttributeEnd".toList
  have hkeywords : (s.momentsWithin 7).map keywordsOf = some [.activeTransform, .translate,
      .worldBegin, .attributeBegin, .shape, .attributeEnd] := by decide +kernel
  have hend : (s.endWithin 7).isSome := by decide +kernel
  obtain ⟨last, hlast⟩ := Option.isSome_iff_exists.1 hend
  have hfinish := finish_of_endWithin hlast
  have hkeywords := keywordsOf_of_momentsWithin hkeywords
  have hbegin : .worldBegin ∈ keywordsOf s.moments := by
    rw [hkeywords]
    decide
  obtain ⟨m, hm, hkeyword⟩ := List.mem_filterMap.1 hbegin
  obtain ⟨earlier, later, hsplit⟩ := List.append_of_mem hm
  obtain ⟨hordered, _, hworld⟩ := phases_in_order (.text _ _ : s.Start)
  have hrun := (run_moments hfinish).1
  rw [hsplit, List.append_cons] at hrun
  obtain ⟨s₁, hfirst, hlater⟩ := Run.append_iff.1 hrun
  obtain ⟨hdepth, _, hctm, _, _, hpaths⟩ := hworld earlier m s₁ hfirst hkeyword
  obtain ⟨path, hpath, hactive⟩ := hpaths later last hlater
  exact ⟨s, last, .text _ _, hfinish, hkeywords, hordered last hfinish, m, s₁, later, path, hkeyword, hdepth, hctm,
    hlater, hpath, hactive⟩

end Session

end SceneDescription
