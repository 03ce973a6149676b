import SceneDescription.Proofs.Sessions.Declared
import SceneDescription.Proofs.Stages.WellFormed
import SceneDescription.Transform.Elimination

/-!
# Parameters of a finished scene

Every parameter in the scene of a session that finishes is well-formed, wherever it has been on the way: it may have
been given as a default, merged with others, saved by a scope and brought back, or handed on with a material.  So its
groups are complete, and every typed question about it has an answer (`Session.parameters_wellFormed`).
-/

namespace SceneDescription

/-- The kinds of settings. -/
def SettingKind.all : List SettingKind :=
  [.film, .sampler, .integrator, .accelerator, .colorSpace, .pixelFilter]

namespace Declarations

/-- Everything that has been declared, with the shapes of the objects. -/
def entities (d : Declarations) : List Entity :=
  d.camera.toList.map .camera ++ d.shapes.map .shape ++ (d.objects.flatMap (·.shapes)).map .shape ++
    d.lights.map .light ++ d.areaLights.map .areaLight ++ d.materials.map .material ++ d.textures.map .texture ++
    d.media.map .medium ++ d.instances.map .placement

/-- All parameter lists of a scene. -/
def parameterLists (d : Declarations) : List ParameterList :=
  (SettingKind.all.filterMap d.settings.get?).map (·.params) ++ d.entities.flatMap (·.parameterLists)

private theorem mem_entities {d : Declarations} {e : Entity} : e ∈ d.entities ↔ d.Holds e := by
  cases e <;> simp [entities, Holds]

private theorem mem_parameterLists {d : Declarations} {params : ParameterList} (h : params ∈ d.parameterLists) :
    (∃ kind setting, d.settings.get? kind = some setting ∧ setting.params = params) ∨
      ∃ e, d.Holds e ∧ params ∈ e.parameterLists := by
  rcases List.mem_append.1 h with hsetting | hentity
  · obtain ⟨setting, hmem, hparams⟩ := List.mem_map.1 hsetting
    obtain ⟨kind, _, hget⟩ := List.mem_filterMap.1 hmem
    exact .inl ⟨kind, setting, hget, hparams⟩
  · obtain ⟨e, he, hparams⟩ := List.mem_flatMap.1 hentity
    exact .inr ⟨e, mem_entities.1 he, hparams⟩

end Declarations

namespace Session

variable {s s' last : Session} {event : Event} {moments : List Moment}

theorem Start.wellFormed (h : s.Start) : s.stage.WellFormed := by
  rw [h.stage]
  exact Stage.wellFormed_initial

private theorem Moves.wellFormed [LinearAlgebra] (hs : s.stage.InStep ∧ s.stage.WellFormed) (h : s.Moves event s') :
    s'.stage.WellFormed := by
  cases h with
  | performs h =>
    have hd := wellFormed_readDirective _ _ _ _ h.read
    exact Stage.execute_wellFormed h.execute hd hs.1 hs.2
  | leaves h =>
    rcases h.stage with ⟨_, hstage⟩ | ⟨mark, _, hleave⟩
    · rw [hstage]
      exact hs.2
    · exact Stage.leaveImport_wellFormed hleave hs.2

theorem Run.wellFormed [LinearAlgebra] (h : Run s moments s') (hs : s.stage.InStep ∧ s.stage.WellFormed) :
    s'.stage.InStep ∧ s'.stage.WellFormed :=
  h.invariant (P := fun s => s.stage.InStep ∧ s.stage.WellFormed)
    (fun _ _ _ hs hmoves => ⟨hmoves.inStep hs.1, hmoves.wellFormed hs⟩) hs

/-- The parameters of a session that finishes: the values have components, all of the kind of their type, which fall
into complete groups, and all typed questions about them are settled. -/
theorem parameters_wellFormed [LinearAlgebra] (hs : s.Start) (h : s.finish = .finished last) :
    ∀ params ∈ last.scene.parameterLists,
      (∀ p ∈ params.entries,
        (0 < p.value.size ∧ p.value.size % p.value.arity = 0 ∧
          (∀ component ∈ p.value.components, component.primitive = p.value.type.primitive) ∧
          (p.value.type = .text .namedSpectrum → p.value.size = 1) ∧
          (p.value.type = .real .spectrum → Even p.value.size)) ∧
        (∃ first, p.value.components.head? = some first) ∧
        p.value.grouped.length = p.value.count ∧
        (∀ group ∈ p.value.grouped, group.length = p.value.arity) ∧
        p.value.grouped.flatten = p.value.components) ∧
      ∀ name, params.Answers name := by
  obtain ⟨hrun, hlast⟩ := run_moments h
  obtain ⟨hinStep, hwf⟩ := hrun.wellFormed ⟨hs.inStep, hs.wellFormed⟩
  intro params hparams
  have hparamsWf : params.WellFormed := by
    rcases Declarations.mem_parameterLists hparams with ⟨kind, setting, hget, rfl⟩ | ⟨e, he, hmem⟩
    · exact hwf.settings kind setting hget
    · exact hwf.entities e ((holds_scene hinStep hlast).1 he) params hmem
  refine ⟨fun p hp => ?_, hparamsWf.answers⟩
  have hv := hparamsWf p hp
  have heven : p.value.type = .real .spectrum → Even p.value.size := by
    intro htype
    have hmultiple := hv.2.1
    rw [Value.arity, htype] at hmultiple
    exact Nat.even_iff.2 hmultiple
  exact ⟨⟨hv.1, hv.2.1, fun _ => Value.primitive_of_mem_components, hv.2.2, heven⟩, hv.exists_first, hv.grouped⟩

end Session

namespace Session

attribute [local instance] LinearAlgebra.stepwise

/-- A default colour, given as a spectrum of three numbers, and a named spectrum reach a shape and its material. -/
theorem default_colour_wellFormed :
    ∃ s last : Session, s.Start ∧ s.finish = .finished last ∧
      last.scene.parameterLists.map (fun params => params.entries.map fun p => (p.name, p.value.size)) =
        [[("Kd", 3), ("alpha", 1)], [("eta", 1)], [("eta", 1)]] ∧
      ∀ params ∈ last.scene.parameterLists, ∀ p ∈ params.entries,
        p.value.grouped.flatten = p.value.components ∧
          ∀ group ∈ p.value.grouped, group.length = p.value.arity := by
  let s := ofText ⟨{}, (FileTree.directory []).fileSystem []⟩ (
    "WorldBegin Attribute \"shape\" \"spectrum Kd\" [1 0 1] AttributeBegin Material \"conductor\"" ++
    " \"spectrum eta\" \"metal\" Shape \"sphere\" \"bool alpha\" true AttributeEnd").toList
  have hlast : ((s.endWithin 8).map fun last =>
      last.scene.parameterLists.map (fun params => params.entries.map fun p => (p.name, p.value.size))) =
        some [[("Kd", 3), ("alpha", 1)], [("eta", 1)], [("eta", 1)]] := by
    decide +kernel
  obtain ⟨last, hend, hsizes⟩ := Option.map_eq_some_iff.1 hlast
  have hfinish := finish_of_endWithin hend
  refine ⟨s, last, .text _ _, hfinish, hsizes, ?_⟩
  intro params hparams p hp
  obtain ⟨_, _, _, hfull, hflatten⟩ := (parameters_wellFormed (.text _ _) hfinish params hparams).1 p hp
  exact ⟨hflatten, hfull⟩

end Session

end SceneDescription
