import SceneDescription.Proofs.Readers.Yields
import SceneDescription.Proofs.Splicing.Unlocated
import SceneDescription.Proofs.Stages.Drafts

/-!
# What the world sees of the options

`Stage.world` forgets what the options are about: the camera, the settings, the options, the transform times, the
warnings, the media and the coordinate systems.  A directive does to the rest what it does to the rest alone, unless it
looks up a medium or a coordinate system.  So two stages with the same world, the same names of media and the same
coordinate systems stay so (`Stage.SameWorld.execute`).  Directives of the options leave the world empty, up to the
transformation, the shutter times and the media that are active (`Stage.Untouched`), and `WorldBegin` resets the first
two.
-/

namespace SceneDescription

/-! ### The world -/

/-- The declarations that make up the world. -/
def Declarations.world (d : Declarations) : Declarations where
  shapes := d.shapes
  lights := d.lights
  areaLights := d.areaLights
  materials := d.materials
  textures := d.textures
  objects := d.objects
  instances := d.instances

def Draft.world (d : Draft) : Draft where
  toDeclarations := d.toDeclarations.world
  recording := d.recording

def Stage.world (s : Stage) : Stage :=
  { s with draft := s.draft.world }

namespace Draft

variable (d : Draft)

private theorem world_warnRedefined (directive : String) (previous : Option (Option Location))
    (location : Option Location) : (d.warnRedefined directive previous location).world = d.world := by
  cases previous <;> rfl

private theorem world_setCamera (camera : Camera) : (d.setCamera camera).world = d.world :=
  d.world_warnRedefined ..

private theorem world_putSetting (setting : Setting) : (d.putSetting setting).world = d.world :=
  d.world_warnRedefined ..

private theorem world_addShape (shape : Shape) : (d.addShape shape).world = d.world.addShape shape := by
  unfold addShape world
  cases d.recording <;> rfl

private theorem world_addMaterial (material : Material) :
    (d.addMaterial material).map world = d.world.addMaterial material := by
  unfold addMaterial
  cases material.name with
  | none => rfl
  | some name =>
    have hfound : d.world.material? name = d.material? name := rfl
    dsimp only
    rw [hfound]
    split <;> rfl

private theorem world_addTexture (texture : Texture) :
    (d.addTexture texture).map world = d.world.addTexture texture := by
  have hfound : d.world.texture? texture.valueType texture.name = d.texture? texture.valueType texture.name := rfl
  unfold addTexture
  rw [hfound]
  split <;> rfl

private theorem world_beginObject (name : String) : (d.beginObject name).map world = d.world.beginObject name := by
  have hfound : d.world.object? name = d.object? name := rfl
  unfold beginObject
  rw [hfound]
  split <;> rfl

end Draft

/-- Whether a directive looks at the media or the coordinate systems that have been named. -/
def Directive.LooksUp : Directive → Prop
  | .coordSysTransform _ | .makeNamedMedium _ _ | .mediumInterface _ _ => True
  | _ => False

namespace Stage

variable {s s' t : Stage} {location : Location} {d : Directive}

/-- A directive does to the world what it does to the world alone. -/
private theorem world_execute [LinearAlgebra] (s : Stage) (location : Location) (hd : ¬ d.LooksUp) :
    (s.world.execute location d).map world = (s.execute location d).map world := by
  have hworld : s.world.draft.world = s.draft.world := rfl
  cases d with
  | coordSysTransform name | makeNamedMedium name params | mediumInterface inside outside => exact absurd trivial hd
  | camera type params =>
    refine congrArg Except.ok (congrArg (Stage.mk s.phase s.scopes) ?_)
    rw [Draft.world_setCamera, Draft.world_setCamera, hworld]
  | setting kind type params =>
    refine congrArg Except.ok (congrArg (Stage.mk s.phase s.scopes) ?_)
    rw [Draft.world_putSetting, Draft.world_putSetting, hworld]
  | shape type params =>
    refine congrArg Except.ok (congrArg (Stage.mk s.phase s.scopes) ?_)
    rw [Draft.world_addShape, Draft.world_addShape, hworld]
    rfl
  | areaLightSource type params =>
    simp only [execute, areaLight]
    have hrecording : s.world.scopes.recording = s.scopes.recording := rfl
    rw [hrecording]
    cases s.scopes.recording <;> rfl
  | attributeEnd | transformEnd | objectEnd | replaceTransform motion | composeTransform motion
  | namedMaterial name =>
    refine map_bind_congr_next fun _ => ?_
    rfl
  | objectBegin name =>
    refine map_bind_congr_next fun scopes => ?_
    refine map_bind_congr (f := Draft.world) (k := Draft.world) ?_ ?_
    · rw [Draft.world_beginObject, Draft.world_beginObject, hworld]
    · intro draft draft' heq
      exact congrArg Except.ok (congrArg (Stage.mk s.phase scopes) heq)
  | objectInstance name =>
    simp only [execute, placeObject]
    have hrecording : s.world.scopes.recording = s.scopes.recording := rfl
    rw [hrecording]
    cases s.scopes.recording with
    | some within => rfl
    | none =>
      refine map_bind_congr_next fun object => ?_
      rfl
  | material type params =>
    refine map_bind_congr (f := Draft.world) (k := Draft.world) ?_ ?_
    · rw [Draft.world_addMaterial, Draft.world_addMaterial, hworld]
      rfl
    · intro draft draft' heq
      exact congrArg Except.ok (congrArg (Stage.mk s.phase _) heq)
  | makeNamedMaterial name params =>
    refine map_bind_congr_next fun type => ?_
    refine map_bind_congr (f := Draft.world) (k := Draft.world) ?_ ?_
    · rw [Draft.world_addMaterial, Draft.world_addMaterial, hworld]
      rfl
    · intro draft draft' heq
      exact congrArg Except.ok (congrArg (Stage.mk s.phase s.scopes) heq)
  | texture name valueType textureClass params =>
    refine map_bind_congr (f := Draft.world) (k := Draft.world) ?_ ?_
    · rw [Draft.world_addTexture, Draft.world_addTexture, hworld]
      rfl
    · intro draft draft' heq
      exact congrArg Except.ok (congrArg (Stage.mk s.phase s.scopes) heq)
  | _ => rfl

end Stage

/-! ### Names of media and of coordinate systems -/

def Declarations.mediumNames (d : Declarations) : List String :=
  d.media.map (·.name)

private theorem Declarations.isSome_medium? {d : Declarations} {name : String} :
    (d.medium? name).isSome ↔ name ∈ d.mediumNames := by
  simp [medium?, mediumNames]

/-- The names of the media after a directive. -/
def Directive.mediumNames (names : List String) : Directive → List String
  | .makeNamedMedium name _ => names ++ [name]
  | _ => names

/-- The coordinate systems after a directive. -/
def Directive.systems (ctm : Shutter Matrix) (systems : List (String × Shutter Matrix)) :
    Directive → List (String × Shutter Matrix)
  | .worldBegin => setEntry "world" (.both .identity) systems
  | .coordinateSystem name => setEntry name ctm systems
  | _ => systems

private theorem Directive.mem_mediumNames_congr {names names' : List String} (h : ∀ name, name ∈ names ↔ name ∈ names')
    (d : Directive) (name : String) : name ∈ d.mediumNames names ↔ name ∈ d.mediumNames names' := by
  cases d with
  | makeNamedMedium new params => simp only [mediumNames, List.mem_append, h name]
  | _ => exact h name

private theorem lookup_setEntry_congr {α : Type} {entries entries' : List (String × α)} {name : String} (new : String)
    (value : α) (h : name ≠ new → entries.lookup name = entries'.lookup name) :
    (setEntry new value entries).lookup name = (setEntry new value entries').lookup name := by
  rw [lookup_setEntry, lookup_setEntry]
  split
  · rfl
  · exact h ‹_›

private theorem Directive.lookup_systems_congr {systems systems' : List (String × Shutter Matrix)}
    (h : ∀ name, systems.lookup name = systems'.lookup name) (ctm : Shutter Matrix) (d : Directive) (name : String) :
    (d.systems ctm systems).lookup name = (d.systems ctm systems').lookup name := by
  cases d with
  | worldBegin | coordinateSystem new => exact lookup_setEntry_congr _ _ fun _ => h name
  | _ => exact h name

namespace Stage

variable {s s' t t' : Stage} {l l' : Location} {d : Directive}

/-- What a directive does to the names of media and of coordinate systems. -/
theorem execute_tables [LinearAlgebra] (h : s.execute l d = .ok s') :
    s'.draft.mediumNames = d.mediumNames s.draft.mediumNames ∧
      s'.draft.coordinateSystems = d.systems s.active.ctm s.draft.coordinateSystems := by
  cases d with
  | camera type params =>
    cases h
    unfold Draft.setCamera Draft.warnRedefined
    cases s.draft.camera <;> exact ⟨rfl, rfl⟩
  | setting kind type params =>
    cases h
    unfold Draft.putSetting Draft.warnRedefined
    cases s.draft.settings.get? kind <;> exact ⟨rfl, rfl⟩
  | shape type params =>
    cases h
    unfold Draft.addShape
    cases s.draft.recording <;> exact ⟨rfl, rfl⟩
  | areaLightSource type params =>
    cases h
    unfold areaLight
    cases s.scopes.recording <;> exact ⟨rfl, rfl⟩
  | objectInstance name =>
    simp only [execute, placeObject] at h
    split at h
    · cases h
    · obtain ⟨object, _, rfl⟩ := bind_pure_eq_ok.1 h
      exact ⟨rfl, rfl⟩
  | material type params =>
    obtain ⟨draft, hdraft, rfl⟩ := bind_pure_eq_ok.1 h
    obtain ⟨_, rfl⟩ := Draft.addMaterial_eq_ok.1 hdraft
    exact ⟨rfl, rfl⟩
  | makeNamedMaterial name params =>
    obtain ⟨type, _, h⟩ := bind_eq_ok.1 h
    obtain ⟨draft, hdraft, rfl⟩ := bind_pure_eq_ok.1 h
    obtain ⟨_, rfl⟩ := Draft.addMaterial_eq_ok.1 hdraft
    exact ⟨rfl, rfl⟩
  | texture name valueType textureClass params =>
    obtain ⟨draft, hdraft, rfl⟩ := bind_pure_eq_ok.1 h
    obtain ⟨_, rfl⟩ := Draft.addTexture_eq_ok.1 hdraft
    exact ⟨rfl, rfl⟩
  | makeNamedMedium name params =>
    obtain ⟨type, _, h⟩ := bind_eq_ok.1 h
    obtain ⟨draft, hdraft, rfl⟩ := bind_pure_eq_ok.1 h
    obtain ⟨_, rfl⟩ := Draft.addMedium_eq_ok.1 hdraft
    exact ⟨List.map_append, rfl⟩
  | objectBegin name =>
    obtain ⟨scopes, _, h⟩ := bind_eq_ok.1 h
    obtain ⟨draft, hdraft, rfl⟩ := bind_pure_eq_ok.1 h
    obtain ⟨_, rfl⟩ := Draft.beginObject_eq_ok.1 hdraft
    exact ⟨rfl, rfl⟩
  | mediumInterface inside outside =>
    obtain ⟨_, _, h⟩ := bind_eq_ok.1 h
    obtain ⟨_, _, rfl⟩ := bind_pure_eq_ok.1 h
    exact ⟨rfl, rfl⟩
  | attributeEnd | transformEnd | objectEnd | replaceTransform motion | composeTransform motion
  | coordSysTransform name | namedMaterial name =>
    obtain ⟨_, _, rfl⟩ := bind_pure_eq_ok.1 h
    exact ⟨rfl, rfl⟩
  | _ =>
    cases h
    exact ⟨rfl, rfl⟩

/-! ### Stages with the same world -/

/-- Two stages between which directives of the world cannot tell. -/
structure SameWorld (s t : Stage) : Prop where
  world : s.world.unlocated = t.world.unlocated
  media : ∀ name, name ∈ s.draft.mediumNames ↔ name ∈ t.draft.mediumNames
  systems : ∀ name, s.draft.coordinateSystems.lookup name = t.draft.coordinateSystems.lookup name

private theorem SameWorld.isSome_medium? (h : s.SameWorld t) (name : String) :
    (s.draft.medium? name).isSome = (t.draft.medium? name).isSome := by
  rw [Bool.eq_iff_iff, Declarations.isSome_medium?, Declarations.isSome_medium?]
  exact h.media name

private theorem SameWorld.mediumNamed (h : s.SameWorld t) (name : String) :
    s.mediumNamed name = t.mediumNamed name := by
  have hfound := h.isSome_medium? name
  unfold Stage.mediumNamed Draft.medium
  split
  · rfl
  · cases hs : s.draft.medium? name <;> cases ht : t.draft.medium? name <;> simp [hs, ht] at hfound <;> rfl

section Agreement

variable (h : s.SameWorld t)
include h

private theorem SameWorld.relocated : s.world.relocated (fun _ => none) = t.world.relocated fun _ => none :=
  h.world

theorem SameWorld.phase : s.phase = t.phase :=
  phase_congr (s := s.world) (t := t.world) h.relocated

private theorem SameWorld.scopes : s.scopes.relocated (fun _ => none) = t.scopes.relocated fun _ => none :=
  scopes_congr (s := s.world) (t := t.world) h.relocated

theorem SameWorld.mark : s.scopes.checkpoint.1 = t.scopes.checkpoint.1 :=
  mark_congr (s := s.world) (t := t.world) h.relocated

theorem SameWorld.balanced : s.scopes.checkBalanced = t.scopes.checkBalanced := by
  rw [← s.scopes.relocated_checkBalanced fun _ => none, h.scopes, ScopeStack.relocated_checkBalanced]

private theorem SameWorld.ctm : s.active.ctm = t.active.ctm :=
  ctm_congr (s := s.world) (t := t.world) h.relocated

private theorem SameWorld.withDefaults (target : String) (params : ParameterList) :
    s.withDefaults target params = t.withDefaults target params :=
  withDefaults_congr h.relocated target params

private theorem SameWorld.edit [LinearAlgebra] (e : Edit) : (s.edit e).world.unlocated = (t.edit e).world.unlocated :=
  edit_congr h.relocated rfl

end Agreement

/-- A directive does the same to the worlds. -/
private theorem SameWorld.map_execute [LinearAlgebra] (h : s.SameWorld t) (l l' : Location) (d : Directive) :
    (s.execute l d).map (·.world.unlocated) = (t.execute l' d).map (·.world.unlocated) := by
  by_cases hd : d.LooksUp
  · cases d with
    | coordSysTransform name =>
      simp only [Stage.execute, Draft.coordinateSystem, h.systems name]
      refine map_bind_congr_next fun ctm => ?_
      exact congrArg Except.ok (h.edit _)
    | mediumInterface inside outside =>
      simp only [Stage.execute, h.mediumNamed]
      refine map_bind_congr_next fun inner => ?_
      refine map_bind_congr_next fun outer => ?_
      exact congrArg Except.ok (h.edit _)
    | makeNamedMedium name params =>
      have hdraft : s.draft.world.unlocated = t.draft.world.unlocated := congrArg (·.draft) h.world
      simp only [Stage.execute, h.withDefaults]
      refine map_bind_congr_next fun type => ?_
      refine map_bind_congr (f := fun draft => draft.world.unlocated) (k := fun draft => draft.world.unlocated) ?_ ?_
      · simp only [Draft.addMedium, h.isSome_medium? name]
        split
        · rfl
        · exact congrArg Except.ok hdraft
      · intro draft draft' heq
        have hstage : ({ s.world with draft := draft.world } : Stage).unlocated =
            ({ t.world with draft := draft'.world } : Stage).unlocated := withDraft_congr h.relocated heq
        exact congrArg Except.ok hstage
    | _ => exact hd.elim
  · have hcomm (result : Except Fault Stage) :
        (result.map Stage.world).map unlocated = (result.map unlocated).map Stage.world := by
      cases result <;> rfl
    calc (s.execute l d).map (·.world.unlocated)
        = ((s.execute l d).map Stage.world).map unlocated := by cases s.execute l d <;> rfl
      _ = ((s.world.execute l d).map unlocated).map Stage.world := by rw [← world_execute s l hd, hcomm]
      _ = ((t.world.execute l' d).map unlocated).map Stage.world := by rw [execute_unlocated h.world l l' d]
      _ = ((t.execute l' d).map Stage.world).map unlocated := by rw [← world_execute t l' hd, hcomm]
      _ = (t.execute l' d).map (·.world.unlocated) := by cases t.execute l' d <;> rfl

/-- Directives cannot tell between stages with the same world. -/
theorem SameWorld.execute [LinearAlgebra] (h : s.SameWorld t) (l' : Location) (hexecute : s.execute l d = .ok s') :
    ∃ t', t.execute l' d = .ok t' ∧ s'.SameWorld t' := by
  obtain ⟨t', hexecute', hworld⟩ := exists_ok_of_map_eq (h.map_execute l l' d) hexecute
  obtain ⟨hmedia, hsystems⟩ := execute_tables hexecute
  obtain ⟨hmedia', hsystems'⟩ := execute_tables hexecute'
  refine ⟨t', hexecute', hworld, ?_, ?_⟩
  · rw [hmedia, hmedia']
    exact d.mem_mediumNames_congr h.media
  · rw [hsystems, hsystems', h.ctm]
    exact d.lookup_systems_congr h.systems _

theorem SameWorld.leaveImport {mark : Mark} (h : s.SameWorld t) (hleave : s.leaveImport mark = .ok s') :
    ∃ t', t.leaveImport mark = .ok t' ∧ s'.SameWorld t' := by
  obtain ⟨scopes, hrestore, rfl⟩ := bind_pure_eq_ok.1 hleave
  have hmap : (s.scopes.restore mark).map (ScopeStack.relocated fun _ => none) =
      (t.scopes.restore mark).map (ScopeStack.relocated fun _ => none) := by
    rw [ScopeStack.relocated_restore, ScopeStack.relocated_restore, h.scopes]
  obtain ⟨scopes', hrestore', heq⟩ := exists_ok_of_map_eq hmap hrestore
  refine ⟨{ t with scopes := scopes' }, bind_pure_eq_ok.2 ⟨scopes', hrestore', rfl⟩, ?_, h.media, h.systems⟩
  exact withScopes_congr h.relocated heq

/-! ### Before the world begins -/

/-- Nothing of the world has been declared, and the graphics state is as at first, up to the transformation, the
shutter times and the media. -/
structure Untouched (s : Stage) : Prop where
  scopes : ∃ ctm activeTimes mediumInterface, s.scopes = { active := { ctm, activeTimes, mediumInterface } }
  draft : s.draft.world = {}

theorem untouched_initial : ({} : Stage).Untouched where
  scopes := ⟨_, _, _, rfl⟩
  draft := rfl

end Stage

/-- Whether a directive may stand among the options. -/
def Directive.Prepares : Directive → Prop
  | .includeFile _ | .option _ | .camera _ _ | .setting _ _ _ | .worldBegin | .replaceTransform _
  | .composeTransform _ | .coordinateSystem _ | .coordSysTransform _ | .transformTimes _ | .activeTransform _
  | .makeNamedMedium _ _ | .mediumInterface _ _ => True
  | _ => False

theorem prepares_readDirective (h : Heading) (hoptions : h.keyword.allowedIn .options) :
    (readDirective h).Yields Directive.Prepares := by
  obtain ⟨keyword, line⟩ := h
  cases keyword with
  | worldBegin | identity => exact Read.yields_pure trivial
  | camera | setting kind | makeNamedMedium => exact Heading.yields_withParameters _ fun _ _ => trivial
  | transformTimes | mediumInterface =>
    exact Read.yields_bind fun _ => Read.yields_bind fun _ => Read.yields_pure trivial
  | includeFile | option | translate | scale | rotate | lookAt | transform | concatTransform | coordinateSystem
  | coordSysTransform | activeTransform => exact Read.yields_map fun _ => trivial
  | _ => cases hoptions

namespace Stage

variable {s s' t t' : Stage} {l l' : Location} {d : Directive}

/-- Among the options, directives leave the world untouched. -/
theorem Untouched.execute [LinearAlgebra] (h : s.Untouched) (hd : d.Prepares) (hexecute : s.execute l d = .ok s')
    (hphase : s'.phase = .options) : s'.Untouched := by
  obtain ⟨⟨ctm, activeTimes, mediumInterface, hscopes⟩, hdraft⟩ := h
  have hedit (e : Edit) : (∃ ctm' times' media', e.apply { ctm, activeTimes, mediumInterface } =
      { ctm := ctm', activeTimes := times', mediumInterface := media' }) → (s.edit e).Untouched := by
    rintro ⟨ctm', times', media', hstate⟩
    refine ⟨⟨ctm', times', media', ?_⟩, hdraft⟩
    unfold edit ScopeStack.edit
    rw [hscopes, hstate]
  cases d with
  | includeFile path | option setting | transformTimes times | coordinateSystem name =>
    cases hexecute
    exact ⟨⟨_, _, _, hscopes⟩, hdraft⟩
  | camera type params =>
    cases hexecute
    exact ⟨⟨_, _, _, hscopes⟩, (s.draft.world_setCamera _).trans hdraft⟩
  | setting kind type params =>
    cases hexecute
    exact ⟨⟨_, _, _, hscopes⟩, (s.draft.world_putSetting _).trans hdraft⟩
  | worldBegin =>
    cases hexecute
    cases hphase
  | activeTransform times =>
    cases hexecute
    exact hedit _ ⟨_, _, _, rfl⟩
  | replaceTransform motion | composeTransform motion | coordSysTransform name =>
    obtain ⟨_, _, rfl⟩ := bind_pure_eq_ok.1 hexecute
    exact hedit _ ⟨_, _, _, rfl⟩
  | mediumInterface inside outside =>
    obtain ⟨_, _, hexecute⟩ := bind_eq_ok.1 hexecute
    obtain ⟨_, _, rfl⟩ := bind_pure_eq_ok.1 hexecute
    exact hedit _ ⟨_, _, _, rfl⟩
  | makeNamedMedium name params =>
    obtain ⟨type, _, hexecute⟩ := bind_eq_ok.1 hexecute
    obtain ⟨draft, hadd, rfl⟩ := bind_pure_eq_ok.1 hexecute
    obtain ⟨_, rfl⟩ := Draft.addMedium_eq_ok.1 hadd
    exact ⟨⟨_, _, _, hscopes⟩, hdraft⟩
  | _ => exact hd.elim

/-- The stages leave the same to a world that begins here. -/
structure SameLegacy (s t : Stage) : Prop where
  systems : ∀ name ≠ "world", s.draft.coordinateSystems.lookup name = t.draft.coordinateSystems.lookup name
  media : ∀ name, name ∈ s.draft.mediumNames ↔ name ∈ t.draft.mediumNames
  mediumInterface : s.active.mediumInterface = t.active.mediumInterface

theorem SameLegacy.symm (h : s.SameLegacy t) : t.SameLegacy s where
  systems name hname := (h.systems name hname).symm
  media name := (h.media name).symm
  mediumInterface := h.mediumInterface.symm

/-- From untouched stages, the world begins the same. -/
theorem SameLegacy.worldBegin [LinearAlgebra] (h : s.SameLegacy t) (hs : s.Untouched) (ht : t.Untouched)
    (hexecute : s.execute l .worldBegin = .ok s') (hexecute' : t.execute l' .worldBegin = .ok t') :
    s'.SameWorld t' := by
  obtain ⟨⟨ctm, times, media, hscopes⟩, hdraft⟩ := hs
  obtain ⟨⟨ctm', times', media', hscopes'⟩, hdraft'⟩ := ht
  obtain rfl : media = media' := by
    have hmedia := h.mediumInterface
    rwa [active, active, hscopes, hscopes'] at hmedia
  cases hexecute
  cases hexecute'
  refine ⟨?_, h.media, fun name => lookup_setEntry_congr "world" _ (h.systems name)⟩
  show Stage.mk .world (s.scopes.edit .enterWorld).unlocated s.draft.world.unlocated =
    Stage.mk .world (t.scopes.edit .enterWorld).unlocated t.draft.world.unlocated
  rw [hscopes, hscopes', hdraft, hdraft']
  rfl

end Stage

end SceneDescription
