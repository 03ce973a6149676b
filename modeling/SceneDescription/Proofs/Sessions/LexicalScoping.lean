import SceneDescription.Proofs.Sessions.Declared
import SceneDescription.Proofs.Sessions.ScopeWords
import SceneDescription.Transform.Elimination

/-!
# Lexical scoping

The graphics state at a moment of a session is determined by the path to it: take the events before the moment, take
out every block that has been closed, and apply the effects of the rest, one after the other, to the initial state
(`Session.Run.active_eq_foldl`).  No scope stack is needed to say this.  What a scene holds has been declared at some
moment under the state of the path to it.
-/

namespace SceneDescription

/-- The graphics state that the events of a path make of the initial one. -/
def stateAlong [LinearAlgebra] (path : List Moment) : GraphicsState :=
  path.foldl (fun state m => m.effect state) {}

namespace Session

variable [LinearAlgebra] {s s' last : Session} {event : Event} {moments : List Moment}

/-! ### The state at a moment -/

/-- An event that closes no scope has its own effect and no other. -/
theorem Moves.active (h : s.Moves event s') (hside : ∀ kind, (Moment.mk s event).side ≠ .closing kind) :
    s'.stage.active = (Moment.mk s event).effect s.stage.active := by
  have hstep := h.machine
  cases hkind : (Moment.mk s event).side with
  | closing kind => exact absurd hkind (hside kind)
  | plain => exact congrArg (·.stack.active) (ScopeMachine.step_plain hstep hkind)
  | opening kind =>
    have hactive : s'.stage.active = s.stage.active := (ScopeMachine.step_opening hstep hkind).1
    rw [hactive, Moment.effect, ScopeMachine.effect_of_opening hkind]
    rfl

/-- The state after a run is the fold of the effects along what is left of the run without its closed blocks. -/
theorem Run.active_eq_foldl {path : List Moment} (hpath : Pruned Moment.side moments path) (h : Run s moments s') :
    s'.stage.active = path.foldl (fun state m => m.effect state) s.stage.active := by
  induction hpath generalizing s' with
  | nil =>
    cases h
    rfl
  | @keep x w path _ hx ih =>
    obtain ⟨s₁, hfirst, hlast⟩ := append_iff.1 h
    obtain ⟨rfl, hstep⟩ := singleton_iff.1 hlast
    rw [List.foldl_append, ← ih hfirst]
    exact (moves_of_step hstep).active hx
  | @block kind x y w inner path _ hx hinner hy ih =>
    obtain ⟨s₁, hfirst, hblock⟩ := append_iff.1 h
    have hrun := hblock.machine
    rw [List.map_cons, List.map_append] at hrun
    have hnested : WellNested ScopeOp.side (inner.map Moment.op) := WellNested.map (f := Moment.op) hinner
    have hsame : s'.machine = s₁.machine := ScopeMachine.run_block hx hnested hy hrun
    rw [← ih hfirst]
    exact congrArg (·.stack.active) hsame

/-! ### Whole sessions -/

/-- Between the start and a moment of a session lies a run, which leaves a path to the moment. -/
theorem Start.exists_path (hs : s.Start) {earlier : List Moment} (h : Run s earlier s') :
    ∃ path, Pruned Moment.side earlier path := by
  have hsaved : s.stage.scopes.saved = [] := by rw [hs.stage]
  exact (h.unclosed_of_saved hs.consistent hsaved).exists_pruned

private theorem Start.active_eq_stateAlong (hs : s.Start) {earlier path : List Moment} (h : Run s earlier s')
    (hpath : Pruned Moment.side earlier path) : s'.stage.active = stateAlong path := by
  rw [h.active_eq_foldl hpath, hs.stage]
  rfl

/-- In a session that finishes, there is a path to every moment, and the graphics state there is the one along the
path.  The scene holds exactly what has been declared under the states along the paths and not been replaced. -/
theorem lexically_scoped (hs : s.Start) (h : s.finish = .finished last) :
    (∀ earlier m later, s.moments = earlier ++ m :: later → (∃ path, Pruned Moment.side earlier path) ∧
      ∀ path, Pruned Moment.side earlier path → m.before.stage.active = stateAlong path) ∧
    ∀ e, last.scene.Holds e ↔ ∃ earlier m later path, s.moments = earlier ++ m :: later ∧
      Pruned Moment.side earlier path ∧ m.event.entity? (stateAlong path) = some e ∧ Unreplaced e later := by
  obtain ⟨hrun, hlast⟩ := run_moments h
  have hbefore : ∀ earlier m later, s.moments = earlier ++ m :: later → Run s earlier m.before := by
    intro earlier m later heq
    rw [heq] at hrun
    exact hrun.split.1
  refine ⟨?_, ?_⟩
  · intro earlier m later heq
    have hfirst := hbefore earlier m later heq
    exact ⟨hs.exists_path hfirst, fun path hpath => hs.active_eq_stateAlong hfirst hpath⟩
  · intro e
    have hnothing : ¬ s.stage.draft.Holds e := by
      rw [hs.stage]
      cases e <;> simp [Draft.Holds, Declarations.Holds]
    rw [holds_scene (hrun.inStep hs.inStep) hlast, hrun.holds hs.inStep]
    constructor
    · rintro (⟨hheld, _⟩ | ⟨earlier, m, later, heq, hm, hlater⟩)
      · exact absurd hheld hnothing
      · have hfirst := hbefore earlier m later heq
        obtain ⟨path, hpath⟩ := hs.exists_path hfirst
        refine ⟨earlier, m, later, path, heq, hpath, ?_, hlater⟩
        rw [← hs.active_eq_stateAlong hfirst hpath]
        exact hm
    · rintro ⟨earlier, m, later, path, heq, hpath, hm, hlater⟩
      rw [← hs.active_eq_stateAlong (hbefore earlier m later heq) hpath] at hm
      exact .inr ⟨earlier, m, later, heq, hm, hlater⟩

end Session

namespace Session

attribute [local instance] LinearAlgebra.stepwise

/-- A shape inside of a scope that turns the orientation, and one behind it. -/
theorem sphere_in_scope_and_disk_behind_it :
    ∃ s last : Session, s.Start ∧ s.finish = .finished last ∧
      last.scene.shapes.map (fun shape => (shape.type, shape.reverseOrientation)) =
        [("sphere", true), ("disk", false)] ∧
      ∀ shape ∈ last.scene.shapes, ∃ earlier m later path, s.moments = earlier ++ m :: later ∧
        Pruned Moment.side earlier path ∧ m.event.entity? (stateAlong path) = some (.shape shape) := by
  let s := ofText ⟨{}, (FileTree.directory []).fileSystem []⟩
    "WorldBegin AttributeBegin ReverseOrientation Shape \"sphere\" AttributeEnd Shape \"disk\"".toList
  have hshapes : (s.endWithin 8).map (fun last =>
      last.scene.shapes.map (fun shape => (shape.type, shape.reverseOrientation))) =
        some [("sphere", true), ("disk", false)] := by decide +kernel
  obtain ⟨last, hlast, hshapes⟩ := Option.map_eq_some_iff.1 hshapes
  have hfinish := finish_of_endWithin hlast
  refine ⟨s, last, .text _ _, hfinish, hshapes, ?_⟩
  intro shape hshape
  obtain ⟨earlier, m, later, path, heq, hpath, hm, _⟩ :=
    ((lexically_scoped (.text _ _) hfinish).2 (.shape shape)).1 (.inl hshape)
  exact ⟨earlier, m, later, path, heq, hpath, hm⟩

end Session

end SceneDescription
