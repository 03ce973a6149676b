import SceneDescription.Proofs.Sessions.LexicalScoping
import SceneDescription.Proofs.Stages.WellFormed
import SceneDescription.Proofs.Stages.World
import SceneDescription.Transform.Elimination

/-!
# Scenes without motion

Transformations take effect at the shutter times that are active, and only `ActiveTransform` makes a difference
between the two.  As long as it has not been executed, the current transformation is the same at both times, in the
active state, in every saved one and in every named coordinate system (`Stage.Still`), whatever scopes are closed,
imports left and coordinate systems recalled.  So nothing moves in a scene without this directive
(`Session.nothing_moves`).
-/

namespace SceneDescription

/-! ### Values that are the same at both times -/

/-- The value is the same when the shutter opens and when it closes. -/
def Shutter.Still {α : Type} (s : Shutter α) : Prop :=
  s.opening = s.closing

namespace Shutter

variable {α β : Type} {s new old : Shutter α} {chosen : Shutter Bool}

private theorem still_both (a : α) : (both a).Still :=
  rfl

private theorem Still.map (h : s.Still) (f : α → β) : (s.map f).Still :=
  congrArg f h

/-- Values that are the same at both times stay so if a change concerns both times or none. -/
private theorem Still.update (hchosen : chosen.Still) (hnew : new.Still) (hold : old.Still) :
    (update chosen new old).Still := by
  unfold Still Shutter.update at *
  rw [hchosen, hnew, hold]

end Shutter

/-- The transformation is the same at both times, and new transformations concern both or none. -/
structure GraphicsState.Still (state : GraphicsState) : Prop where
  ctm : state.ctm.Still
  activeTimes : state.activeTimes.Still

private theorem GraphicsState.still_initial : ({} : GraphicsState).Still where
  ctm := rfl
  activeTimes := rfl

/-- The edit makes no difference between the two times. -/
def Edit.Still : Edit → Prop
  | .reinstate ctm => ctm.Still
  | .activate times => times.Still
  | _ => True

private theorem Edit.apply_still [LinearAlgebra] {state : GraphicsState} {e : Edit} (hstate : state.Still)
    (he : e.Still) : (e.apply state).Still := by
  obtain ⟨hctm, htimes⟩ := hstate
  cases e with
  | compose m => exact ⟨.update htimes (hctm.map _) hctm, htimes⟩
  | replace m => exact ⟨.update htimes (Shutter.still_both m) hctm, htimes⟩
  | reinstate ctm => exact ⟨.update htimes he hctm, htimes⟩
  | activate times => exact ⟨hctm, he⟩
  | enterWorld => exact ⟨rfl, rfl⟩
  | _ => exact ⟨hctm, htimes⟩

/-! ### Directives -/

/-- Only the choice of active times makes a difference between them, and what is recalled by name. -/
private theorem Directive.edit?_still [LinearAlgebra] {draft : Draft} {location : Location} {state : GraphicsState}
    {d : Directive} {e : Edit} (hsystems : ∀ system ∈ draft.coordinateSystems, system.2.Still)
    (hd : d.keyword? ≠ some .activeTransform) (h : d.edit? draft location state = some e) : e.Still := by
  cases d with
  | coordSysTransform name =>
    obtain ⟨ctm, hctm, rfl⟩ := Option.map_eq_some_iff.1 h
    exact hsystems _ (mem_of_lookup hctm)
  | activeTransform times => exact absurd rfl hd
  | replaceTransform motion | composeTransform motion | namedMaterial name =>
    obtain ⟨_, _, rfl⟩ := Option.map_eq_some_iff.1 h
    exact trivial
  | worldBegin | reverseOrientation | attributeDefaults _ _ | areaLightSource _ _ | material _ _
  | mediumInterface _ _ =>
    cases h
    exact trivial
  | _ => cases h

/-- The transformation of an entity that may move. -/
def Entity.ctm? : Entity → Option (Shutter Matrix)
  | shape x => some x.transform
  | placement x => some x.transform
  | _ => none

/-- Such an entity has the current transformation. -/
private theorem Directive.ctm_of_entity? {location : Location} {state : GraphicsState} {d : Directive} {e : Entity}
    {ctm : Shutter Matrix} (h : d.entity? location state = some e) (he : e.ctm? = some ctm) : ctm = state.ctm := by
  cases d with
  | shape _ _ | objectInstance _ =>
    cases h
    cases he
    rfl
  | makeNamedMaterial _ _ | makeNamedMedium _ _ =>
    obtain ⟨_, _, rfl⟩ := Option.map_eq_some_iff.1 h
    cases he
  | camera _ _ | lightSource _ _ | areaLightSource _ _ | material _ _ | texture _ _ _ _ =>
    cases h
    cases he
  | _ => cases h

namespace Stage

variable {s s' : Stage} {location : Location} {d : Directive}

/-- All transformations of a stage are the same at both times. -/
structure Still (s : Stage) : Prop where
  states : ∀ state ∈ s.scopes.states, state.Still
  systems : ∀ system ∈ s.draft.coordinateSystems, system.2.Still

private theorem Still.active (h : s.Still) : s.active.Still :=
  h.states _ (List.mem_cons_self ..)

private theorem Still.effect [LinearAlgebra] (h : s.Still) (hd : d.keyword? ≠ some .activeTransform) :
    (d.effect s.draft location s.active).Still := by
  unfold Directive.effect
  split
  · rename_i e he
    exact Edit.apply_still h.active (Directive.edit?_still h.systems hd he)
  · exact h.active

private theorem Still.execute_systems [LinearAlgebra] (h : s.Still) (hexecute : s.execute location d = .ok s') :
    ∀ system ∈ s'.draft.coordinateSystems, system.2.Still := by
  intro system hsystem
  rw [(execute_tables hexecute).2] at hsystem
  cases d with
  | worldBegin =>
    rcases mem_setEntry hsystem with rfl | hold
    · exact Shutter.still_both _
    · exact h.systems system hold
  | coordinateSystem name =>
    rcases mem_setEntry hsystem with rfl | hold
    · exact h.active.ctm
    · exact h.systems system hold
  | _ => exact h.systems system hsystem

end Stage

/-! ### Runs -/

namespace Session

variable {s s' last : Session} {event : Event} {moments : List Moment}

private theorem Start.still (h : s.Start) : s.stage.Still := by
  rw [h.stage]
  refine ⟨fun state hstate => ?_, by simp⟩
  rw [List.mem_singleton.1 hstate]
  exact GraphicsState.still_initial

/-- Closing a scope brings back a saved state, so only the effects of directives matter. -/
theorem Moves.still [LinearAlgebra] (hs : s.stage.Still) (h : s.Moves event s')
    (hevent : event.keyword? ≠ some .activeTransform) : s'.stage.Still := by
  have heffect : ((event.op s.stage.draft).effect s.stage.active).Still ∧
      ∀ system ∈ s'.stage.draft.coordinateSystems, system.2.Still := by
    cases h with
    | @performs t c₁ c₂ keyword d _ h =>
      have hd : d.keyword? ≠ some .activeTransform := by
        intro hd
        apply hevent
        rw [h.hasKeyword.eq_of_keyword? hd]
        rfl
      refine ⟨?_, hs.execute_systems h.execute⟩
      rw [Event.op, Directive.effect_op]
      exact hs.effect hd
    | leaves h =>
      rw [h.draft]
      refine ⟨?_, hs.systems⟩
      cases s.stream.top.onClose <;> exact hs.active
  refine ⟨fun state hstate => ?_, heffect.2⟩
  rcases ScopeMachine.step_states h.machine hstate with hold | rfl
  · exact hs.states state hold
  · exact heffect.1

private theorem Run.still [LinearAlgebra] (h : Run s moments s') (hs : s.stage.Still)
    (hmoments : ∀ m ∈ moments, m.event.keyword? ≠ some .activeTransform) : s'.stage.Still := by
  induction h with
  | nil s => exact hs
  | cons hstep _ ih =>
    obtain ⟨hfirst, hrest⟩ := List.forall_mem_cons.1 hmoments
    exact ih ((moves_of_step hstep).still hs hfirst) hrest

/-- What has been declared has the transformation of the moment. -/
theorem ctm_of_declared {m : Moment} {e : Entity} {ctm : Shutter Matrix} (h : m.declared? = some e)
    (he : e.ctm? = some ctm) : ctm = m.before.stage.active.ctm := by
  obtain ⟨before, event⟩ := m
  cases event with
  | performed keyword d location => exact Directive.ctm_of_entity? h he
  | left source mark => cases h

/-- Without `ActiveTransform`, the entities of a scene do not move. -/
theorem still_of_holds [LinearAlgebra] (hs : s.Start) (h : s.finish = .finished last)
    (hmoments : ∀ m ∈ s.moments, m.event.keyword? ≠ some .activeTransform) {e : Entity} {ctm : Shutter Matrix}
    (he : last.scene.Holds e) (hctm : e.ctm? = some ctm) : ctm.Still := by
  obtain ⟨hrun, hlast⟩ := run_moments h
  rw [holds_scene (hrun.inStep hs.inStep) hlast, hrun.holds hs.inStep] at he
  rcases he with ⟨hheld, _⟩ | ⟨earlier, m, later, heq, hm, _⟩
  · rw [hs.stage] at hheld
    cases e <;> simp [Draft.Holds, Declarations.Holds] at hheld
  · rw [heq] at hrun hmoments
    have hstill := hrun.split.1.still hs.still (List.forall_mem_append.1 hmoments).1
    rw [ctm_of_declared hm hctm]
    exact hstill.active.ctm

/-- In a session without `ActiveTransform`, the current transformation is the same at both shutter times in every
state that is reached, and so are the transformations that are saved or named there.  At the end, no shape, in an
object or not, and no instance moves. -/
theorem nothing_moves [LinearAlgebra] (hs : s.Start) :
    (∀ moments s', Run s moments s' → .activeTransform ∉ keywordsOf moments →
      s'.stage.active.ctm.opening = s'.stage.active.ctm.closing ∧
      (∀ saved ∈ s'.stage.scopes.saved, saved.2.ctm.opening = saved.2.ctm.closing) ∧
      ∀ system ∈ s'.stage.draft.coordinateSystems, system.2.opening = system.2.closing) ∧
    ∀ last, s.finish = .finished last → .activeTransform ∉ keywordsOf s.moments →
      (∀ shape, shape ∈ last.scene.shapes ∨ (∃ object ∈ last.scene.objects, shape ∈ object.shapes) →
        shape.transform.opening = shape.transform.closing) ∧
      ∀ placement ∈ last.scene.instances, placement.transform.opening = placement.transform.closing := by
  refine ⟨fun moments s' hrun hmoments => ?_, fun last hfinish hmoments => ⟨fun shape hshape => ?_, ?_⟩⟩
  · have hstill := hrun.still hs.still (notMem_keywordsOf.1 hmoments)
    refine ⟨hstill.active.ctm, fun saved hsaved => ?_, hstill.systems⟩
    exact (hstill.states saved.2 (List.mem_cons_of_mem _ (List.mem_map_of_mem hsaved))).ctm
  · exact still_of_holds hs hfinish (notMem_keywordsOf.1 hmoments) (e := .shape shape) hshape rfl
  · intro placement hplacement
    exact still_of_holds hs hfinish (notMem_keywordsOf.1 hmoments) (e := .placement placement) hplacement rfl

end Session

namespace Session

attribute [local instance] LinearAlgebra.stepwise

/-- An object that has been moved, scaled and placed by a named coordinate system, and does not move. -/
theorem placed_object_does_not_move :
    ∃ s last : Session, s.Start ∧ s.finish = .finished last ∧
      keywordsOf s.moments = [.translate, .coordinateSystem, .worldBegin, .attributeBegin, .scale,
        .objectBegin, .shape, .objectEnd, .attributeEnd, .coordSysTransform, .objectInstance] ∧
      last.scene.objects.map (·.shapes.map (·.type)) = [["sphere"]] ∧ last.scene.instances.map (·.name) = ["o"] ∧
      (∀ object ∈ last.scene.objects, ∀ shape ∈ object.shapes, shape.transform.opening = shape.transform.closing) ∧
      ∀ placement ∈ last.scene.instances, placement.transform.opening = placement.transform.closing := by
  let s := ofText ⟨{}, (FileTree.directory []).fileSystem []⟩
    ("Translate 1 0 0 CoordinateSystem \"c\" WorldBegin AttributeBegin Scale 2 2 2 ObjectBegin \"o\" " ++
      "Shape \"sphere\" ObjectEnd AttributeEnd CoordSysTransform \"c\" ObjectInstance \"o\"").toList
  have hkeywords : (s.momentsWithin 12).map keywordsOf = some [.translate, .coordinateSystem,
      .worldBegin, .attributeBegin, .scale, .objectBegin, .shape, .objectEnd, .attributeEnd, .coordSysTransform,
      .objectInstance] := by decide +kernel
  have hscene : (s.endWithin 12).map (fun last => (last.scene.objects.map (·.shapes.map (·.type)),
      last.scene.instances.map (·.name))) = some ([["sphere"]], ["o"]) := by decide +kernel
  obtain ⟨last, hlast, hscene⟩ := Option.map_eq_some_iff.1 hscene
  obtain ⟨hobjects, hinstances⟩ := Prod.mk.inj hscene
  have hfinish := finish_of_endWithin hlast
  have hkeywords := keywordsOf_of_momentsWithin hkeywords
  have hnone : .activeTransform ∉ keywordsOf s.moments := by
    rw [hkeywords]
    decide
  obtain ⟨hshapes, hplacements⟩ := (nothing_moves (.text _ _)).2 last hfinish hnone
  exact ⟨s, last, .text _ _, hfinish, hkeywords, hobjects, hinstances,
    fun object hobject shape hshape => hshapes shape (.inr ⟨object, hobject, hshape⟩), hplacements⟩

end Session

end SceneDescription
