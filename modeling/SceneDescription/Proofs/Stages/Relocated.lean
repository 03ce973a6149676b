import SceneDescription.Proofs.Stages.Scopes

/-!
# Scenes with other locations

`Scene.relocated` puts other locations in the place of all that a scene mentions: those of entities and warnings, and
the earlier location in a warning of a redefinition.  The same is defined for all that directives act on.  Locations
are stored and never asked for, so a directive does the same to stages that agree once their locations have been
replaced, if its own location is replaced in the same way (`Stage.execute_relocated`).
-/

namespace SceneDescription

variable (g g' : Option Location → Option Location)

/-! ### Replacing locations -/

def Setting.relocated (s : Setting) : Setting :=
  { s with location := g s.location }

def Camera.relocated (c : Camera) : Camera :=
  { c with location := g c.location }

def Material.relocated (m : Material) : Material :=
  { m with location := g m.location }

def AreaLight.relocated (l : AreaLight) : AreaLight :=
  { l with location := g l.location }

def LightSource.relocated (l : LightSource) : LightSource :=
  { l with location := g l.location }

def Medium.relocated (m : Medium) : Medium :=
  { m with location := g m.location }

def Texture.relocated (t : Texture) : Texture :=
  { t with location := g t.location }

def Shape.relocated (s : Shape) : Shape :=
  { s with
    material := s.material.relocated g
    areaLight := s.areaLight.map (AreaLight.relocated g)
    location := g s.location }

def ObjectDefinition.relocated (o : ObjectDefinition) : ObjectDefinition :=
  { o with shapes := o.shapes.map (Shape.relocated g), location := g o.location }

def ObjectInstance.relocated (i : ObjectInstance) : ObjectInstance :=
  { i with location := g i.location }

def Remark.relocated : Remark → Remark
  | redefined directive previous => redefined directive (g previous)
  | remark => remark

def Warning.relocated (w : Warning) : Warning :=
  ⟨w.remark.relocated g, g w.location⟩

def Settings.relocated (s : Settings) : Settings where
  film := s.film.map (Setting.relocated g)
  sampler := s.sampler.map (Setting.relocated g)
  integrator := s.integrator.map (Setting.relocated g)
  accelerator := s.accelerator.map (Setting.relocated g)
  colorSpace := s.colorSpace.map (Setting.relocated g)
  pixelFilter := s.pixelFilter.map (Setting.relocated g)

def Declarations.relocated (d : Declarations) : Declarations where
  camera := d.camera.map (Camera.relocated g)
  settings := d.settings.relocated g
  options := d.options
  transformTimes := d.transformTimes
  shapes := d.shapes.map (Shape.relocated g)
  lights := d.lights.map (LightSource.relocated g)
  areaLights := d.areaLights.map (AreaLight.relocated g)
  materials := d.materials.map (Material.relocated g)
  textures := d.textures.map (Texture.relocated g)
  media := d.media.map (Medium.relocated g)
  objects := d.objects.map (ObjectDefinition.relocated g)
  instances := d.instances.map (ObjectInstance.relocated g)
  warnings := d.warnings.map (Warning.relocated g)

def Scene.relocated (s : Scene) : Scene where
  toDeclarations := s.toDeclarations.relocated g
  coordinateSystems := s.coordinateSystems

def Draft.relocated (d : Draft) : Draft where
  toDeclarations := d.toDeclarations.relocated g
  coordinateSystems := d.coordinateSystems
  recording := d.recording.map (·.map (Shape.relocated g))

def GraphicsState.relocated (s : GraphicsState) : GraphicsState :=
  { s with material := s.material.relocated g, areaLight := s.areaLight.map (AreaLight.relocated g) }

def ScopeStack.relocated (s : ScopeStack) : ScopeStack :=
  { s with active := s.active.relocated g, saved := s.saved.map fun (kind, state) => (kind, state.relocated g) }

def Stage.relocated (s : Stage) : Stage :=
  { s with scopes := s.scopes.relocated g, draft := s.draft.relocated g }

/-! ### Locations that stay -/

theorem Shape.relocated_id (s : Shape) : s.relocated id = s := by
  have hlight : s.areaLight.map (AreaLight.relocated id) = s.areaLight := Option.map_id_apply
  unfold relocated
  rw [hlight]
  rfl

theorem ObjectDefinition.relocated_id (o : ObjectDefinition) : o.relocated id = o := by
  have hshapes : o.shapes.map (Shape.relocated id) = o.shapes := List.map_id'' Shape.relocated_id o.shapes
  unfold relocated
  rw [hshapes]
  rfl

theorem Warning.relocated_id (w : Warning) : w.relocated id = w := by
  obtain ⟨remark, location⟩ := w
  cases remark <;> rfl

theorem Settings.relocated_id (s : Settings) : s.relocated id = s := by
  have hsetting : ∀ setting : Option Setting, setting.map (Setting.relocated id) = setting := by
    intro setting
    cases setting <;> rfl
  simp only [relocated, hsetting]

theorem Scene.relocated_id (s : Scene) : s.relocated id = s := by
  have hcamera : s.camera.map (Camera.relocated id) = s.camera := by
    cases s.camera <;> rfl
  have hlights : s.lights.map (LightSource.relocated id) = s.lights := List.map_id _
  have hareaLights : s.areaLights.map (AreaLight.relocated id) = s.areaLights := List.map_id _
  have hmaterials : s.materials.map (Material.relocated id) = s.materials := List.map_id _
  have htextures : s.textures.map (Texture.relocated id) = s.textures := List.map_id _
  have hmedia : s.media.map (Medium.relocated id) = s.media := List.map_id _
  have hinstances : s.instances.map (ObjectInstance.relocated id) = s.instances := List.map_id _
  have hshapes : s.shapes.map (Shape.relocated id) = s.shapes := List.map_id'' Shape.relocated_id _
  have hobjects : s.objects.map (ObjectDefinition.relocated id) = s.objects :=
    List.map_id'' ObjectDefinition.relocated_id _
  have hwarnings : s.warnings.map (Warning.relocated id) = s.warnings := List.map_id'' Warning.relocated_id _
  simp only [relocated, Declarations.relocated, Settings.relocated_id, hcamera, hlights, hareaLights, hmaterials,
    htextures, hmedia, hinstances, hshapes, hobjects, hwarnings]

/-! ### Drafts -/

namespace Draft

variable (d : Draft)

private theorem material?_relocated (name : String) :
    (d.relocated g).material? name = (d.material? name).map (Material.relocated g) :=
  List.find?_map ..

private theorem medium?_relocated (name : String) :
    (d.relocated g).medium? name = (d.medium? name).map (Medium.relocated g) :=
  List.find?_map ..

private theorem texture?_relocated (valueType name : String) :
    (d.relocated g).texture? valueType name = (d.texture? valueType name).map (Texture.relocated g) :=
  List.find?_map ..

private theorem object?_relocated (name : String) :
    (d.relocated g).object? name = (d.object? name).map (ObjectDefinition.relocated g) := by
  unfold Declarations.object?
  show List.find? _ (d.objects.map (ObjectDefinition.relocated g)).reverse = _
  rw [← List.map_reverse]
  exact List.find?_map ..

private theorem map_defined {α β : Type} {thing : Named} {name : String} {f : α → β} (found : Option α) :
    (defined thing name found).map f = defined thing name (found.map f) := by
  cases found <;> rfl

private theorem relocated_material (name : String) :
    (d.material name).map (Material.relocated g) = (d.relocated g).material name := by
  unfold material
  rw [map_defined, material?_relocated]

private theorem relocated_object (name : String) :
    (d.object name).map (ObjectDefinition.relocated g) = (d.relocated g).object name := by
  unfold object
  rw [map_defined, object?_relocated]

private theorem relocated_medium (name : String) :
    (d.medium name).map (Medium.relocated g) = (d.relocated g).medium name := by
  unfold medium
  rw [map_defined, medium?_relocated]

theorem scene_relocated : d.scene.relocated g = (d.relocated g).scene :=
  rfl

private theorem relocated_warn (remark : Remark) (location : Option Location) :
    (d.warn remark location).relocated g = (d.relocated g).warn (remark.relocated g) (g location) := by
  simp [warn, relocated, Declarations.relocated, Warning.relocated]

private theorem relocated_warnRedefined (directive : String) (previous : Option (Option Location))
    (location : Option Location) : (d.warnRedefined directive previous location).relocated g =
      (d.relocated g).warnRedefined directive (previous.map g) (g location) := by
  cases previous with
  | none => rfl
  | some before => exact d.relocated_warn g _ _

private theorem relocated_setCamera (camera : Camera) :
    (d.setCamera camera).relocated g = (d.relocated g).setCamera (camera.relocated g) := by
  have hwarn := d.relocated_warnRedefined g "Camera" (d.camera.map (·.location)) camera.location
  have hprevious : (d.camera.map (·.location)).map g = (d.relocated g).camera.map (·.location) := by
    simp [relocated, Declarations.relocated, Camera.relocated, Function.comp_def]
  rw [hprevious] at hwarn
  exact congrArg (fun base : Draft => { base with camera := some (camera.relocated g) }) hwarn

private theorem relocated_put (s : Settings) (setting : Setting) :
    (s.put setting).relocated g = (s.relocated g).put (setting.relocated g) := by
  obtain ⟨kind, type, params, location⟩ := setting
  cases kind <;> rfl

private theorem get?_relocated (s : Settings) (kind : SettingKind) :
    (s.relocated g).get? kind = (s.get? kind).map (Setting.relocated g) := by
  cases kind <;> rfl

private theorem relocated_putSetting (setting : Setting) :
    (d.putSetting setting).relocated g = (d.relocated g).putSetting (setting.relocated g) := by
  have hwarn := d.relocated_warnRedefined g setting.kind.directive
    ((d.settings.get? setting.kind).map (·.location)) setting.location
  have hprevious : ((d.settings.get? setting.kind).map (·.location)).map g =
      ((d.relocated g).settings.get? setting.kind).map (·.location) := by
    show _ = ((d.settings.relocated g).get? setting.kind).map (·.location)
    simp [get?_relocated, Setting.relocated, Function.comp_def]
  rw [hprevious] at hwarn
  have hdraft := congrArg (fun base : Draft => { base with settings := (d.settings.put setting).relocated g }) hwarn
  refine hdraft.trans ?_
  rw [relocated_put]
  rfl

private theorem relocated_addShape (shape : Shape) :
    (d.addShape shape).relocated g = (d.relocated g).addShape (shape.relocated g) := by
  unfold addShape
  cases hrec : d.recording <;> simp [relocated, Declarations.relocated, hrec]

private theorem relocated_addLight (light : LightSource) :
    (d.addLight light).relocated g = (d.relocated g).addLight (light.relocated g) := by
  simp [addLight, relocated, Declarations.relocated]

private theorem relocated_addAreaLight (light : AreaLight) :
    (d.addAreaLight light).relocated g = (d.relocated g).addAreaLight (light.relocated g) := by
  simp [addAreaLight, relocated, Declarations.relocated]

private theorem relocated_addInstance (placement : ObjectInstance) :
    (d.addInstance placement).relocated g = (d.relocated g).addInstance (placement.relocated g) := by
  simp [addInstance, relocated, Declarations.relocated]

private theorem relocated_addMaterial (material : Material) :
    (d.addMaterial material).map (relocated g) = (d.relocated g).addMaterial (material.relocated g) := by
  unfold addMaterial
  have hname : (material.relocated g).name = material.name := rfl
  rw [hname]
  cases material.name with
  | none => simp [Except.map, relocated, Declarations.relocated]
  | some name =>
    simp only [material?_relocated, Option.isSome_map]
    split <;> simp [Except.map, relocated, Declarations.relocated]

private theorem relocated_addTexture (texture : Texture) :
    (d.addTexture texture).map (relocated g) = (d.relocated g).addTexture (texture.relocated g) := by
  unfold addTexture
  have hfound : (d.relocated g).texture? (texture.relocated g).valueType (texture.relocated g).name =
      (d.texture? texture.valueType texture.name).map (Texture.relocated g) := d.texture?_relocated g _ _
  rw [hfound, Option.isSome_map]
  split
  · rfl
  · simp [Except.map, relocated, Declarations.relocated]

private theorem relocated_addMedium (medium : Medium) :
    (d.addMedium medium).map (relocated g) = (d.relocated g).addMedium (medium.relocated g) := by
  unfold addMedium
  have hfound : (d.relocated g).medium? (medium.relocated g).name =
      (d.medium? medium.name).map (Medium.relocated g) := d.medium?_relocated g _
  rw [hfound, Option.isSome_map]
  split
  · rfl
  · simp [Except.map, relocated, Declarations.relocated]

private theorem relocated_beginObject (name : String) :
    (d.beginObject name).map (relocated g) = (d.relocated g).beginObject name := by
  unfold beginObject
  rw [object?_relocated, Option.isSome_map]
  split
  · rfl
  · simp [Except.map, relocated]

private theorem relocated_endObject (name : String) (location : Option Location) :
    (d.endObject name location).relocated g = (d.relocated g).endObject name (g location) := by
  cases hrec : d.recording <;>
    simp [endObject, relocated, Declarations.relocated, ObjectDefinition.relocated, hrec]

end Draft

/-! ### Scopes -/

def Edit.relocated : Edit → Edit
  | useMaterial material => useMaterial (material.relocated g)
  | useAreaLight light => useAreaLight (light.relocated g)
  | edit => edit

private theorem Edit.relocated_apply [LinearAlgebra] (e : Edit) (state : GraphicsState) :
    (e.apply state).relocated g = (e.relocated g).apply (state.relocated g) := by
  cases e <;> rfl

namespace ScopeStack

variable (s : ScopeStack)

private theorem depth_relocated : (s.relocated g).depth = s.depth :=
  List.length_map ..

private theorem relocated_edit [LinearAlgebra] (e : Edit) :
    (s.edit e).relocated g = (s.relocated g).edit (e.relocated g) := by
  unfold edit
  simp only [relocated, e.relocated_apply]

private theorem relocated_pop (kind : ScopeKind) : (s.pop kind).map (relocated g) = (s.relocated g).pop kind := by
  obtain ⟨active, saved, floor, recording⟩ := s
  unfold pop
  cases saved with
  | nil =>
    simp only [relocated, depth, List.map_nil]
    split <;> rfl
  | cons entry rest =>
    obtain ⟨innermost, state⟩ := entry
    simp only [relocated, depth, List.map_cons, List.length_cons, List.length_map]
    split
    · rfl
    · split <;> rfl

private theorem relocated_endObject :
    s.endObject.map (fun ended => (ended.1, ended.2.relocated g)) = (s.relocated g).endObject := by
  unfold endObject
  have hrec : (s.relocated g).recording = s.recording := rfl
  rw [hrec]
  cases s.recording with
  | none => rfl
  | some name =>
    dsimp only
    rw [← relocated_pop]
    cases s.pop .object <;> rfl

private theorem relocated_beginObject (name : String) :
    (s.beginObject name).map (relocated g) = (s.relocated g).beginObject name := by
  unfold beginObject
  have hrec : (s.relocated g).recording = s.recording := rfl
  rw [hrec]
  cases s.recording <;> rfl

theorem relocated_restore (mark : Mark) : (s.restore mark).map (relocated g) = (s.relocated g).restore mark := by
  obtain ⟨active, saved, floor, recording⟩ := s
  unfold restore
  cases saved with
  | nil =>
    simp only [relocated, List.map_nil]
    split <;> rfl
  | cons entry rest =>
    obtain ⟨innermost, state⟩ := entry
    simp only [relocated, List.map_cons, List.length_map]
    split
    · rfl
    · split <;> rfl

theorem relocated_checkBalanced : (s.relocated g).checkBalanced = s.checkBalanced := by
  obtain ⟨active, saved, floor, recording⟩ := s
  cases recording <;> cases saved <;> rfl

end ScopeStack

/-! ### Stages -/

namespace Stage

variable {g g' : Option Location → Option Location} {s t : Stage}

private theorem relocated_edit [LinearAlgebra] (s : Stage) (e : Edit) : (s.edit e).relocated g = (s.relocated g).edit
    (e.relocated g) := by
  unfold edit
  simp only [relocated, ScopeStack.relocated_edit]

private theorem relocated_congr {phase phase' : Phase} {scopes scopes' : ScopeStack} {draft draft' : Draft}
    (hphase : phase = phase') (hscopes : scopes.relocated g = scopes'.relocated g')
    (hdraft : draft.relocated g = draft'.relocated g') :
    (Stage.mk phase scopes draft).relocated g = (Stage.mk phase' scopes' draft').relocated g' := by
  simp only [relocated, hphase, hscopes, hdraft]

/-! ### Stages that agree up to locations -/

section Agreement

variable (h : s.relocated g = t.relocated g')
include h

theorem phase_congr : s.phase = t.phase :=
  congrArg (·.phase) h

theorem scopes_congr : s.scopes.relocated g = t.scopes.relocated g' :=
  congrArg (·.scopes) h

theorem draft_congr : s.draft.relocated g = t.draft.relocated g' :=
  congrArg (·.draft) h

private theorem active_congr : s.active.relocated g = t.active.relocated g' :=
  congrArg (·.scopes.active) h

theorem ctm_congr : s.active.ctm = t.active.ctm :=
  congrArg (·.scopes.active.ctm) h

private theorem media_congr : s.active.mediumInterface = t.active.mediumInterface :=
  congrArg (·.scopes.active.mediumInterface) h

private theorem recording_congr : s.scopes.recording = t.scopes.recording :=
  congrArg (·.scopes.recording) h

private theorem depth_congr : s.scopes.depth = t.scopes.depth := by
  rw [← s.scopes.depth_relocated g, scopes_congr h, t.scopes.depth_relocated]

/-- An import leaves the same mark. -/
theorem mark_congr : s.scopes.checkpoint.1 = t.scopes.checkpoint.1 := by
  have hfloor : s.scopes.floor = t.scopes.floor := congrArg (·.scopes.floor) h
  simp only [ScopeStack.checkpoint, depth_congr h, hfloor, recording_congr h]

theorem withDefaults_congr (target : String) (params : ParameterList) :
    s.withDefaults target params = t.withDefaults target params := by
  have hattributes : s.active.attributes = t.active.attributes := congrArg (·.attributes) (active_congr h)
  simp only [withDefaults, GraphicsState.defaults, hattributes]

theorem edit_congr [LinearAlgebra] {e e' : Edit} (he : e.relocated g = e'.relocated g') :
    (s.edit e).relocated g = (t.edit e').relocated g' := by
  rw [relocated_edit, relocated_edit, h, he]

private theorem useMaterial_congr [LinearAlgebra] {material material' : Material}
    (hmaterial : material.relocated g = material'.relocated g') :
    (s.edit (.useMaterial material)).relocated g = (t.edit (.useMaterial material')).relocated g' :=
  edit_congr h (congrArg Edit.useMaterial hmaterial)

theorem withDraft_congr {draft draft' : Draft} (hdraft : draft.relocated g = draft'.relocated g') :
    ({ s with draft } : Stage).relocated g = ({ t with draft := draft' } : Stage).relocated g' :=
  relocated_congr (phase_congr h) (scopes_congr h) hdraft

theorem withScopes_congr {scopes scopes' : ScopeStack} (hscopes : scopes.relocated g = scopes'.relocated g') :
    ({ s with scopes } : Stage).relocated g = ({ t with scopes := scopes' } : Stage).relocated g' :=
  relocated_congr (phase_congr h) hscopes (draft_congr h)

private theorem areaLight_congr [LinearAlgebra] {light light' : AreaLight}
    (hlight : light.relocated g = light'.relocated g') :
    (s.areaLight light).relocated g = (t.areaLight light').relocated g' := by
  have hedit : (s.edit (.useAreaLight light)).relocated g = (t.edit (.useAreaLight light')).relocated g' :=
    edit_congr h (congrArg Edit.useAreaLight hlight)
  refine relocated_congr (phase_congr hedit) (scopes_congr hedit) ?_
  rw [Draft.relocated_addAreaLight, Draft.relocated_addAreaLight, hlight, recording_congr h]
  refine congrArg (Draft.addAreaLight · (light'.relocated g')) ?_
  have hlocation : g light.location = g' light'.location := congrArg (·.location) hlight
  cases t.scopes.recording with
  | none => exact draft_congr h
  | some object =>
    dsimp only
    rw [Draft.relocated_warn, Draft.relocated_warn, draft_congr h, hlocation]
    rfl

private theorem mediumNamed_congr (name : String) : s.mediumNamed name = t.mediumNamed name := by
  unfold mediumNamed
  have hmedium : (s.draft.medium name).map (Medium.relocated g) =
      (t.draft.medium name).map (Medium.relocated g') := by
    rw [Draft.relocated_medium, Draft.relocated_medium, draft_congr h]
  split
  · rfl
  · have hnamed : (s.draft.medium name >>= fun _ => pure (some name)).map id =
        (t.draft.medium name >>= fun _ => pure (some name)).map id := map_bind_congr hmedium fun _ _ _ => rfl
    rw [Except.map_id] at hnamed
    exact hnamed

theorem leaveImport_congr (mark : Mark) :
    (s.leaveImport mark).map (relocated g) = (t.leaveImport mark).map (relocated g') := by
  refine map_bind_congr (f := ScopeStack.relocated g) (k := ScopeStack.relocated g') ?_ ?_
  · rw [ScopeStack.relocated_restore, ScopeStack.relocated_restore, scopes_congr h]
  · intro scopes scopes' heq
    exact congrArg Except.ok (withScopes_congr h heq)

variable {l l' : Location} (hl : g (some l) = g' (some l'))
include hl

private theorem shape_congr (type : String) (params : ParameterList) :
    (s.shape type params l).relocated g = (t.shape type params l').relocated g' := by
  have hreverse : s.active.reverseOrientation = t.active.reverseOrientation :=
    congrArg (·.reverseOrientation) (active_congr h)
  have hmaterial : s.active.material.relocated g = t.active.material.relocated g' :=
    congrArg (·.material) (active_congr h)
  have hlight : s.active.areaLight.map (AreaLight.relocated g) = t.active.areaLight.map (AreaLight.relocated g') :=
    congrArg (·.areaLight) (active_congr h)
  simp only [shape, Shape.relocated, withDefaults_congr h, ctm_congr h, hreverse, hmaterial, hlight, media_congr h,
    hl]

private theorem placeObject_congr (name : String) :
    (s.placeObject name l).map (relocated g) = (t.placeObject name l').map (relocated g') := by
  unfold placeObject
  rw [recording_congr h]
  cases t.scopes.recording with
  | some within => rfl
  | none =>
    refine map_bind_congr (f := ObjectDefinition.relocated g) (k := ObjectDefinition.relocated g') ?_ ?_
    · rw [Draft.relocated_object, Draft.relocated_object, draft_congr h]
    · intro object object' _
      refine congrArg Except.ok (withDraft_congr h ?_)
      rw [Draft.relocated_addInstance, Draft.relocated_addInstance, draft_congr h, ctm_congr h]
      simp only [ObjectInstance.relocated, hl]

end Agreement

/-- A directive does the same to stages that agree up to locations. -/
theorem execute_relocated [LinearAlgebra] (h : s.relocated g = t.relocated g') {l l' : Location}
    (hl : g (some l) = g' (some l')) (d : Directive) :
    (s.execute l d).map (relocated g) = (t.execute l' d).map (relocated g') := by
  cases d with
  | includeFile path | worldEnd => exact congrArg Except.ok h
  | importFile path =>
    have hpush := congrArg (fun scopes : ScopeStack => { scopes.push .imported with floor := t.scopes.depth + 1 })
      (scopes_congr h)
    refine congrArg Except.ok (withScopes_congr h ?_)
    simp only [ScopeStack.checkpoint, depth_congr h]
    exact hpush
  | option setting =>
    refine congrArg Except.ok (withDraft_congr h ?_)
    exact congrArg (Draft.setOption · setting) (draft_congr h)
  | camera type params =>
    refine congrArg Except.ok (withDraft_congr h ?_)
    rw [Draft.relocated_setCamera, Draft.relocated_setCamera, draft_congr h, ctm_congr h, media_congr h]
    simp only [Camera.relocated, hl]
  | setting kind type params =>
    refine congrArg Except.ok (withDraft_congr h ?_)
    rw [Draft.relocated_putSetting, Draft.relocated_putSetting, draft_congr h]
    simp only [Setting.relocated, hl]
  | transformTimes times =>
    refine congrArg Except.ok (withDraft_congr h ?_)
    exact congrArg (Draft.setTransformTimes · times) (draft_congr h)
  | coordinateSystem name =>
    refine congrArg Except.ok (withDraft_congr h ?_)
    rw [ctm_congr h]
    exact congrArg (Draft.nameCoordinateSystem · name t.active.ctm) (draft_congr h)
  | shape type params =>
    refine congrArg Except.ok (withDraft_congr h ?_)
    rw [Draft.relocated_addShape, Draft.relocated_addShape, draft_congr h, shape_congr h hl]
  | lightSource type params =>
    refine congrArg Except.ok (withDraft_congr h ?_)
    rw [Draft.relocated_addLight, Draft.relocated_addLight, draft_congr h, withDefaults_congr h, ctm_congr h,
      media_congr h]
    simp only [LightSource.relocated, hl]
  | worldBegin =>
    have hedit : (s.edit .enterWorld).relocated g = (t.edit .enterWorld).relocated g' := edit_congr h rfl
    have hworld := scopes_congr hedit
    have hdraft := congrArg (Draft.nameCoordinateSystem · "world" (.both .identity)) (draft_congr h)
    exact congrArg Except.ok (relocated_congr rfl hworld hdraft)
  | activeTransform times | reverseOrientation | attributeDefaults target params =>
    exact congrArg Except.ok (edit_congr h rfl)
  | replaceTransform motion | composeTransform motion =>
    refine map_bind_congr_next fun m => ?_
    exact congrArg Except.ok (edit_congr h rfl)
  | coordSysTransform name =>
    have hsystems : s.draft.coordinateSystem name = t.draft.coordinateSystem name := by
      have heq : s.draft.coordinateSystems = t.draft.coordinateSystems :=
        congrArg (·.coordinateSystems) (draft_congr h)
      simp only [Draft.coordinateSystem, heq]
    refine map_bind_congr (f := id) (k := id) (congrArg _ hsystems) ?_
    rintro ctm _ rfl
    exact congrArg Except.ok (edit_congr h rfl)
  | attributeBegin | transformBegin =>
    exact congrArg Except.ok (withScopes_congr h (congrArg (ScopeStack.push · _) (scopes_congr h)))
  | attributeEnd | transformEnd =>
    refine map_bind_congr (f := ScopeStack.relocated g) (k := ScopeStack.relocated g') ?_ ?_
    · rw [ScopeStack.relocated_pop, ScopeStack.relocated_pop, scopes_congr h]
    · intro scopes scopes' heq
      exact congrArg Except.ok (withScopes_congr h heq)
  | objectBegin name =>
    refine map_bind_congr (f := ScopeStack.relocated g) (k := ScopeStack.relocated g') ?_ ?_
    · rw [ScopeStack.relocated_beginObject, ScopeStack.relocated_beginObject, scopes_congr h]
    · intro scopes scopes' heq
      refine map_bind_congr (f := Draft.relocated g) (k := Draft.relocated g') ?_ ?_
      · rw [Draft.relocated_beginObject, Draft.relocated_beginObject, draft_congr h]
      · intro draft draft' heq'
        exact congrArg Except.ok (relocated_congr (phase_congr h) heq heq')
  | objectEnd =>
    refine map_bind_congr (f := fun ended => (ended.1, ended.2.relocated g))
      (k := fun ended => (ended.1, ended.2.relocated g')) ?_ ?_
    · rw [ScopeStack.relocated_endObject, ScopeStack.relocated_endObject, scopes_congr h]
    · rintro ⟨name, scopes⟩ ⟨name', scopes'⟩ heq
      obtain ⟨rfl, heq⟩ := Prod.mk.inj heq
      refine congrArg Except.ok (relocated_congr (phase_congr h) heq ?_)
      rw [Draft.relocated_endObject, Draft.relocated_endObject, draft_congr h, hl]
  | objectInstance name => exact placeObject_congr h hl name
  | areaLightSource type params =>
    refine congrArg Except.ok (areaLight_congr h ?_)
    simp only [withDefaults_congr h, AreaLight.relocated, hl]
  | material type params =>
    have hsame : (Material.mk type (s.withDefaults "material" params) none (some l)).relocated g =
        (Material.mk type (t.withDefaults "material" params) none (some l')).relocated g' := by
      simp only [withDefaults_congr h, Material.relocated, hl]
    refine map_bind_congr (f := Draft.relocated g) (k := Draft.relocated g') ?_ ?_
    · rw [Draft.relocated_addMaterial, Draft.relocated_addMaterial, draft_congr h, hsame]
    · intro draft draft' heq
      have hedit := useMaterial_congr h hsame
      exact congrArg Except.ok (relocated_congr (phase_congr hedit) (scopes_congr hedit) heq)
  | makeNamedMaterial name params =>
    simp only [execute, withDefaults_congr h]
    refine map_bind_congr_next fun type => ?_
    refine map_bind_congr (f := Draft.relocated g) (k := Draft.relocated g') ?_ ?_
    · rw [Draft.relocated_addMaterial, Draft.relocated_addMaterial, draft_congr h]
      simp only [Material.relocated, hl]
    · intro draft draft' heq
      exact congrArg Except.ok (withDraft_congr h heq)
  | namedMaterial name =>
    refine map_bind_congr (f := Material.relocated g) (k := Material.relocated g') ?_ ?_
    · rw [Draft.relocated_material, Draft.relocated_material, draft_congr h]
    · intro material material' heq
      exact congrArg Except.ok (useMaterial_congr h heq)
  | texture name valueType textureClass params =>
    simp only [execute, withDefaults_congr h, ctm_congr h]
    refine map_bind_congr (f := Draft.relocated g) (k := Draft.relocated g') ?_ ?_
    · rw [Draft.relocated_addTexture, Draft.relocated_addTexture, draft_congr h]
      simp only [Texture.relocated, hl]
    · intro draft draft' heq
      exact congrArg Except.ok (withDraft_congr h heq)
  | makeNamedMedium name params =>
    simp only [execute, withDefaults_congr h, ctm_congr h]
    refine map_bind_congr_next fun type => ?_
    refine map_bind_congr (f := Draft.relocated g) (k := Draft.relocated g') ?_ ?_
    · rw [Draft.relocated_addMedium, Draft.relocated_addMedium, draft_congr h]
      simp only [Medium.relocated, hl]
    · intro draft draft' heq
      exact congrArg Except.ok (withDraft_congr h heq)
  | mediumInterface inside outside =>
    simp only [execute, mediumNamed_congr h]
    refine map_bind_congr_next fun inner => ?_
    refine map_bind_congr_next fun outer => ?_
    exact congrArg Except.ok (edit_congr h rfl)

end Stage

end SceneDescription
