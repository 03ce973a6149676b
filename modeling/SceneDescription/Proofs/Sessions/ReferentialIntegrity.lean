import SceneDescription.Proofs.Sessions.Declared
import SceneDescription.Proofs.Stages.References
import SceneDescription.Transform.Elimination

/-!
# Referential integrity

Every reference in the scene of a session that finishes leads to something that the scene has.  What refers has been
declared at some moment, under a graphics state all of whose references were good; from then on the declarations
have only grown.
-/

namespace SceneDescription

/-- The references of an entity are those of a graphics state. -/
def Entity.Inherits (state : GraphicsState) : Entity → Prop
  | .camera c => c.medium = state.mediumInterface.outside
  | .shape x =>
    x.material = state.material ∧ x.areaLight = state.areaLight ∧ x.mediumInterface = state.mediumInterface
  | .light l => l.medium = state.mediumInterface.outside
  | _ => True

private theorem Directive.entity?_inherits {location : Location} {state : GraphicsState} {d : Directive} {e : Entity}
    (h : d.entity? location state = some e) : e.Inherits state := by
  cases d with
  | camera type params | shape type params | lightSource type params =>
    cases h
    simp [Entity.Inherits]
  | areaLightSource type params | material type params =>
    cases h
    trivial
  | texture name valueType textureClass params =>
    cases h
    trivial
  | objectInstance name =>
    cases h
    trivial
  | makeNamedMaterial name params | makeNamedMedium name params =>
    obtain ⟨_, _, rfl⟩ := Option.map_eq_some_iff.1 h
    trivial
  | _ => cases h

private theorem Moment.declared?_inherits {m : Moment} {e : Entity} (h : m.declared? = some e) :
    e.Inherits m.before.stage.active := by
  unfold Moment.declared? at h
  cases hevent : m.event with
  | performed keyword d location =>
    rw [hevent] at h
    exact Directive.entity?_inherits h
  | left source mark =>
    rw [hevent] at h
    cases h

namespace Session

variable {s s' last : Session} {event : Event} {moments : List Moment}

private theorem Moves.grows [LinearAlgebra] (h : s.Moves event s') :
    s.stage.draft.toDeclarations.Grows s'.stage.draft.toDeclarations := by
  cases h with
  | performs h => exact Stage.execute_grows h.execute
  | leaves h =>
    rw [h.draft]
    exact .refl _

private theorem Run.grows [LinearAlgebra] (h : Run s moments s') :
    s.stage.draft.toDeclarations.Grows s'.stage.draft.toDeclarations := by
  induction h with
  | nil s => exact .refl _
  | cons hstep _ ih => exact (moves_of_step hstep).grows.trans ih

private theorem Start.resolved (h : s.Start) : s.stage.Resolved := by
  rw [h.stage]
  intro state hstate
  rw [List.mem_singleton.1 hstate]
  exact GraphicsState.resolves_initial _

private theorem Moves.resolved [LinearAlgebra] (hs : s.stage.Resolved) (h : s.Moves event s') : s'.stage.Resolved := by
  cases h with
  | performs h => exact Stage.execute_resolved h.execute hs
  | leaves h =>
    rcases h.stage with ⟨_, hstage⟩ | ⟨mark, _, hleave⟩
    · rwa [hstage]
    · obtain ⟨scopes, hrestore, hstage⟩ := bind_pure_eq_ok.1 hleave
      obtain ⟨_, _, _, _, hsaved, _, rfl⟩ := ScopeStack.restore_eq_ok.1 hrestore
      rw [← hstage]
      intro state hstate
      refine hs state ?_
      rw [ScopeStack.states, hsaved]
      exact List.mem_cons_of_mem _ hstate

private theorem Run.resolved [LinearAlgebra] (h : Run s moments s') (hs : s.stage.Resolved) : s'.stage.Resolved :=
  h.invariant (P := fun s => s.stage.Resolved) (fun _ _ _ hs hmoves => hmoves.resolved hs) hs

/-- What is placed is there already, as a complete object. -/
theorem Moves.exists_object_of_placement [LinearAlgebra] {placement : ObjectInstance} (h : s.Moves event s')
    (hdeclared : (Moment.mk s event).declared? = some (.placement placement)) :
    ∃ object ∈ s.stage.draft.objects, object.name = placement.name := by
  cases h with
  | leaves _ => cases hdeclared
  | @performs t c₁ c₂ keyword d _ h =>
    have hentity : d.entity? ⟨s.stream.source, t.line⟩ s.stage.active = some (.placement placement) := hdeclared
    cases Stage.execute_drafts h.execute with
    | declares hnew hadmits _ _ =>
      cases hnew.symm.trans hentity
      obtain ⟨object, hobject⟩ := Option.isSome_iff_exists.1 hadmits
      have hname : object.name = placement.name := by simpa using List.find?_some hobject
      exact ⟨object, List.mem_reverse.1 (List.mem_of_find?_eq_some hobject), hname⟩
    | records hd _ _ _ | completes hd _ _ =>
      subst hd
      cases hentity
    | keeps hnone _ _ _ => cases hnone.symm.trans hentity

/-- What the scene holds has been declared under a state whose references, which it inherits, are good in the
scene. -/
theorem declared_resolves [LinearAlgebra] {e : Entity} (hs : s.Start) (h : s.finish = .finished last)
    (he : last.scene.Holds e) : ∃ earlier m later, s.moments = earlier ++ m :: later ∧ m.declared? = some e ∧
      ∃ state, e.Inherits state ∧ state.Resolves last.scene.toDeclarations := by
  obtain ⟨hrun, hlast⟩ := run_moments h
  rw [holds_scene (hrun.inStep hs.inStep) hlast, hrun.holds hs.inStep] at he
  rcases he with ⟨hheld, _⟩ | ⟨earlier, m, later, heq, hdeclared, _⟩
  · rw [hs.stage] at hheld
    cases e <;> simp [Draft.Holds, Declarations.Holds] at hheld
  · rw [heq] at hrun
    obtain ⟨hfirst, s₁, hmoves, hrest⟩ := hrun.split
    have hresolves := (hfirst.resolved hs.resolved).active
    refine ⟨earlier, m, later, heq, hdeclared, m.before.stage.active, ?_, ?_⟩
    · exact Moment.declared?_inherits hdeclared
    · exact hresolves.grows (hmoves.grows.trans hrest.grows)

/-- Every reference in the scene of a session that finishes leads to something in the scene, and an object is
complete before it is placed. -/
theorem references_resolve [LinearAlgebra] (hs : s.Start) (h : s.finish = .finished last) :
    (∀ placement ∈ last.scene.instances, ∃ earlier m later, s.moments = earlier ++ m :: later ∧
      m.declared? = some (.placement placement) ∧ ∃ completing ∈ earlier, ∃ object ∈ last.scene.objects,
        completing.completed? = some object ∧ object.name = placement.name) ∧
    (∀ shape, last.scene.Holds (.shape shape) →
      (shape.material = .default ∨ shape.material ∈ last.scene.materials) ∧
      (∀ name, shape.material.name = some name → last.scene.material? name = some shape.material) ∧
      (∀ light, shape.areaLight = some light → light ∈ last.scene.areaLights) ∧
      ∀ name, shape.mediumInterface.inside = some name ∨ shape.mediumInterface.outside = some name →
        (last.scene.medium? name).isSome) ∧
    (∀ light ∈ last.scene.lights, ∀ name, light.medium = some name → (last.scene.medium? name).isSome) ∧
    ∀ camera, last.scene.camera = some camera → ∀ name, camera.medium = some name →
      (last.scene.medium? name).isSome := by
  refine ⟨?_, ?_, ?_, ?_⟩
  · intro placement hplacement
    obtain ⟨earlier, m, later, heq, hdeclared, _⟩ := declared_resolves (e := .placement placement) hs h hplacement
    refine ⟨earlier, m, later, heq, hdeclared, ?_⟩
    have hrun := (run_moments h).1
    rw [heq] at hrun
    obtain ⟨hfirst, s₁, hmoves, hrest⟩ := hrun.split
    obtain ⟨object, hobject, hname⟩ := hmoves.exists_object_of_placement hdeclared
    rcases hfirst.objects hobject with hold | ⟨completing, hcompleting, hcompleted⟩
    · rw [hs.stage] at hold
      exact nomatch hold
    · have hgrows := hmoves.grows.trans hrest.grows
      exact ⟨completing, hcompleting, object, hgrows.objects.subset hobject, hcompleted, hname⟩
  · intro shape hshape
    obtain ⟨_, _, _, _, _, state, ⟨hmaterial, hlight, hmedia⟩, hresolves⟩ := declared_resolves hs h hshape
    rw [hmaterial, hlight, hmedia]
    exact ⟨hresolves.material, hresolves.named, hresolves.areaLight, hresolves.media⟩
  · intro light hlight name hname
    obtain ⟨_, _, _, _, _, state, hmedium, hresolves⟩ := declared_resolves (e := .light light) hs h hlight
    exact hresolves.media name (.inr (hmedium.symm.trans hname))
  · intro camera hcamera name hname
    obtain ⟨_, _, _, _, _, state, hmedium, hresolves⟩ := declared_resolves (e := .camera camera) hs h hcamera
    exact hresolves.media name (.inr (hmedium.symm.trans hname))

end Session

namespace Session

attribute [local instance] LinearAlgebra.stepwise

/-- An object is placed, and the shape in it has a material that was chosen by name. -/
theorem placed_object_resolves :
    ∃ s last : Session, s.Start ∧ s.finish = .finished last ∧
      last.scene.instances.map (·.name) = ["tree"] ∧
      (∀ placement ∈ last.scene.instances, ∃ object ∈ last.scene.objects, object.name = placement.name) ∧
      (last.scene.objects.flatMap (·.shapes)).map (·.material.name) = [some "bark"] ∧
      ∀ shape ∈ last.scene.objects.flatMap (·.shapes), ∀ name, shape.material.name = some name →
        last.scene.material? name = some shape.material := by
  let s := ofText ⟨{}, (FileTree.directory []).fileSystem []⟩ (
    "WorldBegin MakeNamedMaterial \"bark\" \"string type\" \"diffuse\" ObjectBegin \"tree\"" ++
    " NamedMaterial \"bark\" Shape \"sphere\" ObjectEnd ObjectInstance \"tree\"").toList
  have hlast : ((s.endWithin 8).map fun last => (last.scene.instances.map (·.name),
      (last.scene.objects.flatMap (·.shapes)).map (·.material.name))) = some (["tree"], [some "bark"]) := by
    decide +kernel
  obtain ⟨last, hend, hnames⟩ := Option.map_eq_some_iff.1 hlast
  obtain ⟨hplaced, hmaterials⟩ := Prod.mk.injEq .. ▸ hnames
  have hfinish := finish_of_endWithin hend
  refine ⟨s, last, .text _ _, hfinish, hplaced, ?_, hmaterials, ?_⟩
  · intro placement hplacement
    obtain ⟨_, _, _, _, _, _, _, object, hobject, _, hname⟩ :=
      (references_resolve (.text _ _) hfinish).1 placement hplacement
    exact ⟨object, hobject, hname⟩
  · intro shape hshape
    exact ((references_resolve (.text _ _) hfinish).2.1 shape (.inr (List.mem_flatMap.1 hshape))).2.1

end Session

end SceneDescription
