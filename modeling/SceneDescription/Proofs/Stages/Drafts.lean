import SceneDescription.Proofs.Stages.Scopes

/-!
# What directives do to the draft

`Directive.entity?` is the entity that a directive declares under a graphics state.  `Stage.Drafts` says once what a
directive can do to the draft: declare its entity, start to record an object, complete it, or change nothing that
holds entities.  So what a draft holds is what has been declared, except that a new camera takes the place of the
old one (`Stage.execute_holds`).  Shapes go through the recording of an object and come out of it when the object is
complete; for this, the draft has to record exactly while the scopes do (`Stage.InStep`).  `Stage.draftAfter` is the
whole draft after a directive, in terms of the entity that it declares and the warnings that it draws
(`Stage.execute_draft`).
-/

namespace SceneDescription

/-- Something that a directive declares, apart from settings and options. -/
inductive Entity
  | camera (camera : Camera)
  | shape (shape : Shape)
  | light (light : LightSource)
  | areaLight (light : AreaLight)
  | material (material : Material)
  | texture (texture : Texture)
  | medium (medium : Medium)
  | placement (placement : ObjectInstance)

/-- The entity that a directive declares under a graphics state: what it inherits, it takes from there, and its
parameters stand behind the defaults for their kind of entity. -/
def Directive.entity? (location : Location) (state : GraphicsState) : Directive → Option Entity
  | .camera type params =>
    some (.camera { type, params, cameraFromWorld := state.ctm.opening, medium := state.mediumInterface.outside,
                    location })
  | .shape type params =>
    some (.shape { type, params := params.mergedOver (state.defaults "shape"), transform := state.ctm,
                   reverseOrientation := state.reverseOrientation, material := state.material,
                   areaLight := state.areaLight, mediumInterface := state.mediumInterface, location })
  | .lightSource type params =>
    some (.light { type, params := params.mergedOver (state.defaults "light"), transform := state.ctm.opening,
                   medium := state.mediumInterface.outside, location })
  | .areaLightSource type params =>
    some (.areaLight { type, params := params.mergedOver (state.defaults "light"), location })
  | .material type params =>
    some (.material { type, params := params.mergedOver (state.defaults "material"), location })
  | .makeNamedMaterial name params =>
    let params := params.mergedOver (state.defaults "material")
    (params.string? "type").map fun type => .material { type, params, name, location }
  | .texture name valueType textureClass params =>
    some (.texture { name, valueType, textureClass, params := params.mergedOver (state.defaults "texture"),
                     transform := state.ctm.opening, location })
  | .makeNamedMedium name params =>
    let params := params.mergedOver (state.defaults "medium")
    (params.string? "type").map fun type =>
      .medium { name, type, params, transform := state.ctm.opening, location }
  | .objectInstance name => some (.placement { name, transform := state.ctm, location })
  | _ => none

/-- Whether a declaration takes the place of another one: a scene has only one camera. -/
def Entity.Replaces : Entity → Entity → Prop
  | .camera _, .camera _ => True
  | _, _ => False

/-- The entities that have been declared; shapes may lie in an object. -/
def Declarations.Holds (d : Declarations) : Entity → Prop
  | .camera camera => d.camera = some camera
  | .shape shape => shape ∈ d.shapes ∨ ∃ object ∈ d.objects, shape ∈ object.shapes
  | .light light => light ∈ d.lights
  | .areaLight light => light ∈ d.areaLights
  | .material material => material ∈ d.materials
  | .texture texture => texture ∈ d.textures
  | .medium medium => medium ∈ d.media
  | .placement placement => placement ∈ d.instances

namespace Draft

variable {d d' : Draft} {e : Entity}

/-- The entities of a draft; shapes may also lie in the object that is being recorded. -/
def Holds (d : Draft) (e : Entity) : Prop :=
  d.toDeclarations.Holds e ∨ ∃ shape ∈ d.recording.getD [], e = .shape shape

/-- Puts an entity in its place. -/
def insert (d : Draft) : Entity → Draft
  | .camera camera => { d with camera := some camera }
  | .shape shape => d.addShape shape
  | .light light => d.addLight light
  | .areaLight light => d.addAreaLight light
  | .material material => { d with materials := d.materials ++ [material] }
  | .texture texture => { d with textures := d.textures ++ [texture] }
  | .medium medium => { d with media := d.media ++ [medium] }
  | .placement placement => d.addInstance placement

/-- What has to hold for an entity to be declared: names are new, and what is placed exists. -/
def Admits (d : Draft) : Entity → Prop
  | .material material => ∀ name, material.name = some name → d.material? name = none
  | .texture texture => d.texture? texture.valueType texture.name = none
  | .medium medium => d.medium? medium.name = none
  | .placement placement => (d.object? placement.name).isSome
  | _ => True

/-- Two drafts that differ at most in settings, options, coordinate systems and warnings. -/
def Alike (d d' : Draft) : Prop :=
  ∃ settings options transformTimes warnings coordinateSystems,
    d' = { d with settings, options, transformTimes, warnings, coordinateSystems }

theorem alike_warnRedefined (d : Draft) (directive : String) (previous : Option (Option Location))
    (location : Option Location) : d.Alike (d.warnRedefined directive previous location) := by
  cases previous with
  | none => exact ⟨_, _, _, _, _, rfl⟩
  | some before => exact ⟨_, _, _, _, _, rfl⟩

theorem alike_putSetting (d : Draft) (setting : Setting) : d.Alike (d.putSetting setting) := by
  unfold putSetting
  cases d.settings.get? setting.kind with
  | none => exact ⟨_, _, _, _, _, rfl⟩
  | some previous => exact ⟨_, _, _, _, _, rfl⟩

theorem Alike.holds_iff (h : d.Alike d') : d'.Holds e ↔ d.Holds e := by
  obtain ⟨_, _, _, _, _, rfl⟩ := h
  cases e <;> exact Iff.rfl

/-- An entity that is put into a draft is there; what was there stays, unless it has been replaced. -/
private theorem holds_insert (d : Draft) (new : Entity) :
    (d.insert new).Holds e ↔ (d.Holds e ∧ ¬ new.Replaces e) ∨ e = new := by
  cases new with
  | camera camera => cases e <;> simp [insert, Holds, Declarations.Holds, Entity.Replaces, eq_comm]
  | shape shape =>
    unfold insert addShape
    cases hrec : d.recording with
    | none => cases e <;> simp [Holds, Declarations.Holds, Entity.Replaces, hrec, or_assoc, or_comm]
    | some shapes => cases e <;> simp [Holds, Declarations.Holds, Entity.Replaces, hrec, or_assoc, eq_comm]
  | _ => cases e <;> simp [insert, addLight, addAreaLight, addInstance, Holds, Declarations.Holds, Entity.Replaces]

private theorem isSome_recording_insert (d : Draft) (e : Entity) :
    (d.insert e).recording.isSome = d.recording.isSome := by
  cases e with
  | shape shape =>
    unfold insert addShape
    cases d.recording <;> rfl
  | _ => rfl

theorem objects_insert (d : Draft) (e : Entity) : (d.insert e).objects = d.objects := by
  cases e with
  | shape shape =>
    unfold insert addShape
    cases d.recording <;> rfl
  | _ => rfl

private theorem holds_endObject (d : Draft) (name : String) (location : Option Location) :
    (d.endObject name location).Holds e ↔ d.Holds e := by
  cases e with
  | shape shape =>
    simp only [endObject, Holds, Declarations.Holds, List.mem_append, List.mem_singleton, Option.getD_none,
      List.not_mem_nil, false_and, exists_false, or_false, Entity.shape.injEq]
    grind
  | _ => simp [endObject, Holds, Declarations.Holds]

theorem addMaterial_eq_ok {material : Material} :
    d.addMaterial material = .ok d' ↔ d.Admits (.material material) ∧ d' = d.insert (.material material) := by
  unfold addMaterial
  cases hname : material.name with
  | none => simp [Admits, insert, hname, eq_comm]
  | some name => cases hfound : d.material? name <;> simp [Admits, insert, hname, hfound, eq_comm]

theorem addTexture_eq_ok {texture : Texture} :
    d.addTexture texture = .ok d' ↔ d.Admits (.texture texture) ∧ d' = d.insert (.texture texture) := by
  unfold addTexture
  cases hfound : d.texture? texture.valueType texture.name <;> simp [Admits, insert, hfound, eq_comm]

theorem addMedium_eq_ok {medium : Medium} :
    d.addMedium medium = .ok d' ↔ d.Admits (.medium medium) ∧ d' = d.insert (.medium medium) := by
  unfold addMedium
  cases hfound : d.medium? medium.name <;> simp [Admits, insert, hfound, eq_comm]

theorem beginObject_eq_ok {name : String} :
    d.beginObject name = .ok d' ↔ d.object? name = none ∧ d' = { d with recording := some [] } := by
  unfold beginObject
  cases hfound : d.object? name <;> simp [eq_comm]

end Draft

namespace Stage

variable {s s' : Stage} {location : Location} {d : Directive} {e : Entity}

/-- What a directive can do to the draft. -/
inductive Drafts (s : Stage) (location : Location) (d : Directive) (draft : Draft) : Prop
  /-- It declares an entity, perhaps with a warning. -/
  | declares {new : Entity} {base : Draft} (hnew : d.entity? location s.active = some new)
      (hadmits : s.draft.Admits new) (hbase : s.draft.Alike base) (hdraft : draft = base.insert new)
  | records {name : String} (hd : d = .objectBegin name) (hrec : s.scopes.recording = none)
      (hname : s.draft.object? name = none) (hdraft : draft = { s.draft with recording := some [] })
  | completes {name : String} (hd : d = .objectEnd) (hrec : s.scopes.recording = some name)
      (hdraft : draft = s.draft.endObject name location)
  | keeps (hnone : d.entity? location s.active = none) (hbegin : ∀ name, d ≠ .objectBegin name)
      (hend : d ≠ .objectEnd) (hbase : s.draft.Alike draft)

private theorem declaredType_eq_ok {directive name type : String} {params : ParameterList}
    (h : declaredType directive name params = .ok type) : params.string? "type" = some type := by
  unfold declaredType at h
  split at h
  · rename_i htype
    cases h
    exact htype
  · cases h

/-- A named material whose type is known is declared. -/
theorem entity?_makeNamedMaterial {directive name type : String} {params : ParameterList}
    (h : declaredType directive name (s.withDefaults "material" params) = .ok type) :
    (Directive.makeNamedMaterial name params).entity? location s.active =
      some (.material { type, params := s.withDefaults "material" params, name, location }) :=
  congrArg (Option.map _) (declaredType_eq_ok h)

theorem entity?_makeNamedMedium {directive name type : String} {params : ParameterList}
    (h : declaredType directive name (s.withDefaults "medium" params) = .ok type) :
    (Directive.makeNamedMedium name params).entity? location s.active =
      some (.medium { name, type, params := s.withDefaults "medium" params, transform := s.active.ctm.opening,
                      location }) :=
  congrArg (Option.map _) (declaredType_eq_ok h)

theorem execute_drafts [LinearAlgebra] (h : s.execute location d = .ok s') : s.Drafts location d s'.draft := by
  have hsame : s.draft.Alike s.draft := ⟨_, _, _, _, _, rfl⟩
  cases d with
  | camera type params =>
    cases h
    exact .declares rfl trivial (s.draft.alike_warnRedefined _ _ _) rfl
  | shape type params | lightSource type params =>
    cases h
    exact .declares rfl trivial hsame rfl
  | areaLightSource type params =>
    cases h
    unfold areaLight
    cases s.scopes.recording with
    | none => exact .declares rfl trivial hsame rfl
    | some object => exact .declares rfl trivial ⟨_, _, _, _, _, rfl⟩ rfl
  | material type params =>
    obtain ⟨draft, hdraft, rfl⟩ := bind_pure_eq_ok.1 h
    obtain ⟨hadmits, rfl⟩ := Draft.addMaterial_eq_ok.1 hdraft
    exact .declares rfl hadmits hsame rfl
  | texture name valueType textureClass params =>
    obtain ⟨draft, hdraft, rfl⟩ := bind_pure_eq_ok.1 h
    obtain ⟨hadmits, rfl⟩ := Draft.addTexture_eq_ok.1 hdraft
    exact .declares rfl hadmits hsame rfl
  | makeNamedMaterial name params =>
    obtain ⟨type, htype, h⟩ := bind_eq_ok.1 h
    obtain ⟨draft, hdraft, rfl⟩ := bind_pure_eq_ok.1 h
    obtain ⟨hadmits, rfl⟩ := Draft.addMaterial_eq_ok.1 hdraft
    exact .declares (entity?_makeNamedMaterial htype) hadmits hsame rfl
  | makeNamedMedium name params =>
    obtain ⟨type, htype, h⟩ := bind_eq_ok.1 h
    obtain ⟨draft, hdraft, rfl⟩ := bind_pure_eq_ok.1 h
    obtain ⟨hadmits, rfl⟩ := Draft.addMedium_eq_ok.1 hdraft
    exact .declares (entity?_makeNamedMedium htype) hadmits hsame rfl
  | objectBegin name =>
    obtain ⟨scopes, hscopes, h⟩ := bind_eq_ok.1 h
    obtain ⟨draft, hdraft, rfl⟩ := bind_pure_eq_ok.1 h
    obtain ⟨hrec, _⟩ := ScopeStack.beginObject_eq_ok.1 hscopes
    obtain ⟨hname, rfl⟩ := Draft.beginObject_eq_ok.1 hdraft
    exact .records rfl hrec hname rfl
  | objectEnd =>
    obtain ⟨⟨name, scopes⟩, hend, rfl⟩ := bind_pure_eq_ok.1 h
    exact .completes rfl (ScopeStack.endObject_eq_ok.1 hend).1 rfl
  | objectInstance name =>
    simp only [execute, placeObject] at h
    split at h
    · cases h
    · obtain ⟨object, hobject, rfl⟩ := bind_pure_eq_ok.1 h
      have hsome : (s.draft.object? name).isSome := by rw [Draft.defined_eq_ok hobject]; rfl
      exact .declares rfl hsome hsame rfl
  | setting kind type params =>
    cases h
    exact .keeps rfl (by simp) (by simp) (s.draft.alike_putSetting _)
  | attributeEnd | transformEnd =>
    obtain ⟨scopes, _, rfl⟩ := bind_pure_eq_ok.1 h
    exact .keeps rfl (by simp) (by simp) hsame
  | replaceTransform motion | composeTransform motion | coordSysTransform name | namedMaterial name =>
    obtain ⟨_, _, rfl⟩ := bind_pure_eq_ok.1 h
    exact .keeps rfl (by simp) (by simp) hsame
  | mediumInterface inside outside =>
    obtain ⟨_, _, h⟩ := bind_eq_ok.1 h
    obtain ⟨_, _, rfl⟩ := bind_pure_eq_ok.1 h
    exact .keeps rfl (by simp) (by simp) hsame
  | _ =>
    cases h
    exact .keeps rfl (by simp) (by simp) ⟨_, _, _, _, _, rfl⟩

/-- Only the begin and the end of an object change which object is being recorded. -/
theorem execute_recording_of_ne [LinearAlgebra] (h : s.execute location d = .ok s')
    (hbegin : ∀ name, d ≠ .objectBegin name) (hend : d ≠ .objectEnd) : s'.scopes.recording = s.scopes.recording := by
  have hscopes := ScopeMachine.step_recording (execute_scopes h [])
  cases d with
  | objectBegin name => exact absurd rfl (hbegin name)
  | objectEnd => exact absurd rfl hend
  | _ => exact hscopes

/-- A directive that declares something neither begins nor ends an object. -/
theorem ne_of_entity?_eq_some {state : GraphicsState} (h : d.entity? location state = some e) :
    (∀ name, d ≠ .objectBegin name) ∧ d ≠ .objectEnd := by
  constructor
  · rintro name rfl
    cases h
  · rintro rfl
    cases h

/-- The draft records shapes exactly while the scopes record an object. -/
def InStep (s : Stage) : Prop :=
  s.draft.recording.isSome = s.scopes.recording.isSome

theorem execute_inStep [LinearAlgebra] (h : s.execute location d = .ok s') (hs : s.InStep) : s'.InStep := by
  have hscopes := ScopeMachine.step_recording (execute_scopes h [])
  unfold InStep at hs ⊢
  rw [hscopes]
  cases execute_drafts h with
  | declares hnew _ hbase hdraft =>
    obtain ⟨_, _, _, _, _, rfl⟩ := hbase
    rw [hdraft, Draft.isSome_recording_insert]
    cases d <;> first | exact hs | cases hnew
  | records hd _ _ hdraft =>
    subst hd
    rw [hdraft]
    rfl
  | completes hd _ hdraft =>
    subst hd
    rw [hdraft]
    rfl
  | keeps _ hbegin hend hbase =>
    obtain ⟨_, _, _, _, _, hdraft⟩ := hbase
    rw [hdraft]
    cases d with
    | objectBegin name => exact absurd rfl (hbegin name)
    | objectEnd => exact absurd rfl hend
    | _ => exact hs

/-- A directive adds to the draft what it declares, and what it declares replaces at most the camera. -/
theorem execute_holds [LinearAlgebra] (h : s.execute location d = .ok s') (hs : s.InStep) :
    s'.draft.Holds e ↔ (s.draft.Holds e ∧ ∀ new, d.entity? location s.active = some new → ¬ new.Replaces e) ∨
      d.entity? location s.active = some e := by
  cases execute_drafts h with
  | declares hnew _ hbase hdraft =>
    rw [hdraft, Draft.holds_insert, hbase.holds_iff, hnew]
    simp [eq_comm]
  | records hd hrec _ hdraft =>
    have hnone : s.draft.recording = none := by
      rw [InStep, hrec] at hs
      simpa using hs
    subst hd
    rw [hdraft]
    simp [Draft.Holds, hnone, Directive.entity?]
  | completes hd _ hdraft =>
    subst hd
    rw [hdraft, Draft.holds_endObject]
    simp [Directive.entity?]
  | keeps hnone _ _ hbase =>
    rw [hbase.holds_iff, hnone]
    simp

/-- A directive completes an object only if it is the end of one. -/
theorem execute_objects [LinearAlgebra] (h : s.execute location d = .ok s') {object : ObjectDefinition}
    (hobject : object ∈ s'.draft.objects) :
    object ∈ s.draft.objects ∨ (d = .objectEnd ∧ ∃ name, s.scopes.recording = some name ∧
      object = { name, shapes := s.draft.recording.getD [], location }) := by
  cases execute_drafts h with
  | declares _ _ hbase hdraft =>
    obtain ⟨_, _, _, _, _, rfl⟩ := hbase
    rw [hdraft, Draft.objects_insert] at hobject
    exact .inl hobject
  | records _ _ _ hdraft =>
    rw [hdraft] at hobject
    exact .inl hobject
  | completes hd hrec hdraft =>
    rw [hdraft] at hobject
    rcases List.mem_append.1 hobject with hold | hnew
    · exact .inl hold
    · exact .inr ⟨hd, _, hrec, List.mem_singleton.1 hnew⟩
  | keeps _ _ _ hbase =>
    obtain ⟨_, _, _, _, _, hdraft⟩ := hbase
    rw [hdraft] at hobject
    exact .inl hobject

end Stage

/-! ### The draft after a directive -/

private theorem Draft.warnRedefined_eq (d : Draft) (directive : String) (previous : Option (Option Location))
    (location : Option Location) : d.warnRedefined directive previous location =
      { d with warnings := d.warnings ++ (previous.map fun old => ⟨.redefined directive old, location⟩).toList } := by
  cases previous with
  | none => simp [warnRedefined]
  | some old => rfl

private theorem Draft.warnings_insert (d : Draft) (e : Entity) : (d.insert e).warnings = d.warnings := by
  cases e with
  | shape shape =>
    unfold insert addShape
    cases d.recording <;> rfl
  | _ => rfl

namespace Stage

/-- The warnings that a directive draws: of a declaration that overrides an earlier one, and of an area light in an
object. -/
def warningsOf (s : Stage) (location : Location) : Directive → List Warning
  | .camera _ _ => (s.draft.camera.map fun old => ⟨.redefined "Camera" old.location, some location⟩).toList
  | .setting kind _ _ =>
    ((s.draft.settings.get? kind).map fun old => ⟨.redefined kind.directive old.location, some location⟩).toList
  | .areaLightSource _ _ =>
    (s.scopes.recording.map fun object => ⟨.areaLightInObject object, some location⟩).toList
  | _ => []

/-- The draft with the warnings that a directive draws. -/
def warnedDraft (s : Stage) (location : Location) (d : Directive) : Draft :=
  { s.draft with warnings := s.draft.warnings ++ s.warningsOf location d }

/-- The draft after a directive. -/
def draftAfter (s : Stage) (location : Location) (d : Directive) : Draft :=
  match d with
  | .option setting => s.draft.setOption setting
  | .setting kind type params =>
    { s.warnedDraft location d with settings := s.draft.settings.put { kind, type, params, location } }
  | .worldBegin => s.draft.nameCoordinateSystem "world" (.both .identity)
  | .coordinateSystem name => s.draft.nameCoordinateSystem name s.active.ctm
  | .transformTimes times => s.draft.setTransformTimes times
  | .objectBegin _ => { s.draft with recording := some [] }
  | .objectEnd => s.draft.endObject (s.scopes.recording.getD "") location
  | _ =>
    match d.entity? location s.active with
    | some new => (s.warnedDraft location d).insert new
    | none => s.draft

variable {s s' : Stage} {location : Location} {d : Directive}

/-- A directive that declares an entity and draws no warning. -/
private theorem draftAfter_of_entity {new : Entity} (hnew : d.entity? location s.active = some new)
    (hnone : s.warningsOf location d = []) : s.draft.insert new = s.draftAfter location d := by
  have hsame : s.warnedDraft location d = s.draft := by rw [warnedDraft, hnone, List.append_nil]
  have hinsert : s.draftAfter location d = (s.warnedDraft location d).insert new := by
    unfold draftAfter
    split
    case h_8 => rw [hnew]
    all_goals cases hnew
  rw [hinsert, hsame]

/-- What a directive leaves in the draft. -/
theorem execute_draft [LinearAlgebra] (h : s.execute location d = .ok s') : s'.draft = s.draftAfter location d := by
  cases d with
  | camera type params =>
    cases h
    dsimp only [Draft.setCamera]
    rw [Draft.warnRedefined_eq, Option.map_map]
    rfl
  | setting kind type params =>
    cases h
    dsimp only [Draft.putSetting]
    rw [Draft.warnRedefined_eq, Option.map_map]
    rfl
  | areaLightSource type params =>
    cases h
    unfold draftAfter warnedDraft warningsOf areaLight
    cases s.scopes.recording with
    | none => simp [Directive.entity?, Draft.insert]; rfl
    | some object => rfl
  | shape type params =>
    cases h
    exact draftAfter_of_entity (d := .shape type params) rfl rfl
  | lightSource type params =>
    cases h
    exact draftAfter_of_entity (d := .lightSource type params) rfl rfl
  | material type params =>
    obtain ⟨draft, hdraft, rfl⟩ := bind_pure_eq_ok.1 h
    obtain ⟨_, rfl⟩ := Draft.addMaterial_eq_ok.1 hdraft
    exact draftAfter_of_entity (d := .material type params) rfl rfl
  | texture name valueType textureClass params =>
    obtain ⟨draft, hdraft, rfl⟩ := bind_pure_eq_ok.1 h
    obtain ⟨_, rfl⟩ := Draft.addTexture_eq_ok.1 hdraft
    exact draftAfter_of_entity (d := .texture name valueType textureClass params) rfl rfl
  | makeNamedMaterial name params =>
    obtain ⟨type, htype, h⟩ := bind_eq_ok.1 h
    obtain ⟨draft, hdraft, rfl⟩ := bind_pure_eq_ok.1 h
    obtain ⟨_, rfl⟩ := Draft.addMaterial_eq_ok.1 hdraft
    exact draftAfter_of_entity (entity?_makeNamedMaterial htype) rfl
  | makeNamedMedium name params =>
    obtain ⟨type, htype, h⟩ := bind_eq_ok.1 h
    obtain ⟨draft, hdraft, rfl⟩ := bind_pure_eq_ok.1 h
    obtain ⟨_, rfl⟩ := Draft.addMedium_eq_ok.1 hdraft
    exact draftAfter_of_entity (entity?_makeNamedMedium htype) rfl
  | objectBegin name =>
    obtain ⟨scopes, _, h⟩ := bind_eq_ok.1 h
    obtain ⟨draft, hdraft, rfl⟩ := bind_pure_eq_ok.1 h
    obtain ⟨_, rfl⟩ := Draft.beginObject_eq_ok.1 hdraft
    rfl
  | objectEnd =>
    obtain ⟨⟨name, scopes⟩, hend, rfl⟩ := bind_pure_eq_ok.1 h
    have hrec := (ScopeStack.endObject_eq_ok.1 hend).1
    simp only [draftAfter, hrec, Option.getD_some]
  | objectInstance name =>
    simp only [execute, placeObject] at h
    split at h
    · cases h
    · obtain ⟨object, _, rfl⟩ := bind_pure_eq_ok.1 h
      exact draftAfter_of_entity (d := .objectInstance name) rfl rfl
  | attributeEnd | transformEnd | replaceTransform motion | composeTransform motion | coordSysTransform name
  | namedMaterial name =>
    obtain ⟨_, _, rfl⟩ := bind_pure_eq_ok.1 h
    rfl
  | mediumInterface inside outside =>
    obtain ⟨_, _, h⟩ := bind_eq_ok.1 h
    obtain ⟨_, _, rfl⟩ := bind_pure_eq_ok.1 h
    rfl
  | _ =>
    cases h
    rfl

/-- A directive draws its warnings and no others. -/
theorem execute_warnings [LinearAlgebra] (h : s.execute location d = .ok s') :
    s'.draft.warnings = s.draft.warnings ++ s.warningsOf location d := by
  rw [execute_draft h]
  cases d with
  | camera _ _ | setting _ _ _ | areaLightSource _ _ => rfl
  | makeNamedMaterial _ _ | makeNamedMedium _ _ =>
    dsimp only [draftAfter]
    split
    · exact Draft.warnings_insert _ _
    · exact (List.append_nil _).symm
  | shape _ _ | lightSource _ _ | material _ _ | texture _ _ _ _ | objectInstance _ =>
    exact Draft.warnings_insert _ _
  | _ => exact (List.append_nil _).symm

end Stage

end SceneDescription
