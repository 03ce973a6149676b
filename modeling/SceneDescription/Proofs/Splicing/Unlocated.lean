import SceneDescription.Proofs.Stages.Relocated

/-!
# Scenes without locations

`Scene.unlocated` forgets where things stand: the locations of all entities and warnings, and the earlier location
that a warning mentions.  The same is defined for all that directives act on.  This is one way to replace locations,
so a directive does the same to stages that agree up to locations, wherever it stands itself
(`Stage.execute_unlocated`).
-/

namespace SceneDescription

/-! ### Forgetting locations -/

def Setting.unlocated (s : Setting) : Setting :=
  { s with location := none }

def Camera.unlocated (c : Camera) : Camera :=
  { c with location := none }

def Material.unlocated (m : Material) : Material :=
  { m with location := none }

def AreaLight.unlocated (l : AreaLight) : AreaLight :=
  { l with location := none }

def LightSource.unlocated (l : LightSource) : LightSource :=
  { l with location := none }

def Medium.unlocated (m : Medium) : Medium :=
  { m with location := none }

def Texture.unlocated (t : Texture) : Texture :=
  { t with location := none }

def Shape.unlocated (s : Shape) : Shape :=
  { s with material := s.material.unlocated, areaLight := s.areaLight.map AreaLight.unlocated, location := none }

def ObjectDefinition.unlocated (o : ObjectDefinition) : ObjectDefinition :=
  { o with shapes := o.shapes.map Shape.unlocated, location := none }

def ObjectInstance.unlocated (i : ObjectInstance) : ObjectInstance :=
  { i with location := none }

def Remark.unlocated : Remark → Remark
  | redefined directive _ => redefined directive none
  | remark => remark

def Warning.unlocated (w : Warning) : Warning :=
  ⟨w.remark.unlocated, none⟩

def Settings.unlocated (s : Settings) : Settings where
  film := s.film.map Setting.unlocated
  sampler := s.sampler.map Setting.unlocated
  integrator := s.integrator.map Setting.unlocated
  accelerator := s.accelerator.map Setting.unlocated
  colorSpace := s.colorSpace.map Setting.unlocated
  pixelFilter := s.pixelFilter.map Setting.unlocated

def Declarations.unlocated (d : Declarations) : Declarations where
  camera := d.camera.map Camera.unlocated
  settings := d.settings.unlocated
  options := d.options
  transformTimes := d.transformTimes
  shapes := d.shapes.map Shape.unlocated
  lights := d.lights.map LightSource.unlocated
  areaLights := d.areaLights.map AreaLight.unlocated
  materials := d.materials.map Material.unlocated
  textures := d.textures.map Texture.unlocated
  media := d.media.map Medium.unlocated
  objects := d.objects.map ObjectDefinition.unlocated
  instances := d.instances.map ObjectInstance.unlocated
  warnings := d.warnings.map Warning.unlocated

def Scene.unlocated (s : Scene) : Scene where
  toDeclarations := s.toDeclarations.unlocated
  coordinateSystems := s.coordinateSystems

def Draft.unlocated (d : Draft) : Draft where
  toDeclarations := d.toDeclarations.unlocated
  coordinateSystems := d.coordinateSystems
  recording := d.recording.map (·.map Shape.unlocated)

def GraphicsState.unlocated (s : GraphicsState) : GraphicsState :=
  { s with material := s.material.unlocated, areaLight := s.areaLight.map AreaLight.unlocated }

def ScopeStack.unlocated (s : ScopeStack) : ScopeStack :=
  { s with active := s.active.unlocated, saved := s.saved.map fun (kind, state) => (kind, state.unlocated) }

def Stage.unlocated (s : Stage) : Stage :=
  { s with scopes := s.scopes.unlocated, draft := s.draft.unlocated }

theorem Draft.scene_unlocated (d : Draft) : d.scene.unlocated = d.unlocated.scene :=
  rfl

namespace Stage

private theorem unlocated_eq_relocated (s : Stage) : s.unlocated = s.relocated fun _ => none :=
  rfl

/-- A directive does the same to stages that agree up to locations, wherever it stands. -/
theorem execute_unlocated [LinearAlgebra] {s t : Stage} (h : s.unlocated = t.unlocated) (location location' : Location)
    (d : Directive) : (s.execute location d).map unlocated = (t.execute location' d).map unlocated := by
  rw [unlocated_eq_relocated, unlocated_eq_relocated] at h
  exact execute_relocated h rfl d

end Stage

end SceneDescription
