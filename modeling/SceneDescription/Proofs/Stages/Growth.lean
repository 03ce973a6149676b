import SceneDescription.Proofs.Stages.Emissions
import SceneDescription.Proofs.Stages.Names

/-!
# What directives leave alone

Declarations are only added: after a directive, every list of a draft starts with what it was before
(`Stage.execute_precedes`), so as long as names are distinct, look-ups find what they found.  What there is one of,
the camera, a setting, an option or a coordinate system of a name, has a slot, and a directive changes at most the
slot that it sets (`Stage.execute_sameAt`).
-/

namespace SceneDescription

/-! ### Lists -/

namespace Declarations

/-- All lists of the second go on where those of the first end. -/
structure Precedes (d d' : Declarations) : Prop where
  shapes : d.shapes <+: d'.shapes
  lights : d.lights <+: d'.lights
  areaLights : d.areaLights <+: d'.areaLights
  materials : d.materials <+: d'.materials
  textures : d.textures <+: d'.textures
  media : d.media <+: d'.media
  objects : d.objects <+: d'.objects
  instances : d.instances <+: d'.instances
  warnings : d.warnings <+: d'.warnings

variable {d d' d'' : Declarations}

theorem Precedes.refl (d : Declarations) : d.Precedes d :=
  ⟨List.prefix_refl _, List.prefix_refl _, List.prefix_refl _, List.prefix_refl _, List.prefix_refl _,
    List.prefix_refl _, List.prefix_refl _, List.prefix_refl _, List.prefix_refl _⟩

theorem Precedes.trans (h : d.Precedes d') (h' : d'.Precedes d'') : d.Precedes d'' where
  shapes := h.shapes.trans h'.shapes
  lights := h.lights.trans h'.lights
  areaLights := h.areaLights.trans h'.areaLights
  materials := h.materials.trans h'.materials
  textures := h.textures.trans h'.textures
  media := h.media.trans h'.media
  objects := h.objects.trans h'.objects
  instances := h.instances.trans h'.instances
  warnings := h.warnings.trans h'.warnings

end Declarations

/-- What a look-up finds, it finds among more entries. -/
private theorem Indexes.find_of_prefix {α κ : Type} {key : α → Option κ} {entries entries' : List α}
    {find find' : κ → Option α} (h : Indexes key entries find) (h' : Indexes key entries' find')
    (hfront : entries <+: entries') {k : κ} {a : α} (hfind : find k = some a) : find' k = some a := by
  obtain ⟨hmem, hkey⟩ := (h.find_iff k a).1 hfind
  exact (h'.find_iff k a).2 ⟨hfront.subset hmem, hkey⟩

/-- Everything that has been declared under a name is declared under it in the second as well. -/
structure Declarations.KeepsNames (d d' : Declarations) : Prop where
  materials : ∀ name material, d.material? name = some material → d'.material? name = some material
  media : ∀ name medium, d.medium? name = some medium → d'.medium? name = some medium
  objects : ∀ name object, d.object? name = some object → d'.object? name = some object
  textures : ∀ valueType name texture, d.texture? valueType name = some texture →
    d'.texture? valueType name = some texture

theorem Declarations.Precedes.keepsNames {d d' : Declarations} (h : d.Precedes d') (hd : d.Distinct)
    (hd' : d'.Distinct) : d.KeepsNames d' where
  materials _ _ := hd.indexes_material?.find_of_prefix hd'.indexes_material? h.materials
  media _ _ := hd.indexes_medium?.find_of_prefix hd'.indexes_medium? h.media
  objects _ _ := hd.indexes_object?.find_of_prefix hd'.indexes_object? h.objects
  textures valueType name _ hfind :=
    hd.indexes_texture?.find_of_prefix hd'.indexes_texture? h.textures (k := (valueType, name)) hfind

namespace Draft

variable (d : Draft)

private theorem precedes_insert (e : Entity) : d.Precedes (d.insert e).toDeclarations := by
  have hsame := Declarations.Precedes.refl d.toDeclarations
  cases e with
  | camera _ => exact { hsame with }
  | shape shape =>
    unfold insert addShape
    cases d.recording with
    | none => exact { hsame with shapes := List.prefix_append _ _ }
    | some shapes => exact { hsame with }
  | light _ => exact { hsame with lights := List.prefix_append _ _ }
  | areaLight _ => exact { hsame with areaLights := List.prefix_append _ _ }
  | material _ => exact { hsame with materials := List.prefix_append _ _ }
  | texture _ => exact { hsame with textures := List.prefix_append _ _ }
  | medium _ => exact { hsame with media := List.prefix_append _ _ }
  | placement _ => exact { hsame with instances := List.prefix_append _ _ }

end Draft

/-- A directive adds to the lists at their ends. -/
theorem Stage.execute_precedes [LinearAlgebra] {s s' : Stage} {location : Location} {d : Directive}
    (h : s.execute location d = .ok s') : s.draft.Precedes s'.draft.toDeclarations := by
  have hsame := Declarations.Precedes.refl s.draft.toDeclarations
  have hwarned : s.draft.Precedes (s.warnedDraft location d).toDeclarations :=
    { hsame with warnings := List.prefix_append _ _ }
  rw [execute_draft h]
  unfold draftAfter
  split
  case h_2 => exact { hwarned with }
  case h_7 => exact { hsame with objects := List.prefix_append _ _ }
  case h_8 =>
    split
    · exact hwarned.trans (Draft.precedes_insert _ _)
    · exact hsame
  all_goals exact { hsame with }

/-! ### Slots -/

/-- The options of a scene. -/
inductive RenderOption
  | disablePixelJitter
  | disableTextureFiltering
  | disableWavelengthJitter
  | displacementEdgeScale
  | mseReferenceImage
  | mseReferenceOut
  | renderSpace
  | seed
  | forceDiffuse
  | pixelStats
  | wavefront
  deriving DecidableEq

/-- The option that a setting is for. -/
def RenderSetting.option : RenderSetting → RenderOption
  | disablePixelJitter _ => .disablePixelJitter
  | disableTextureFiltering _ => .disableTextureFiltering
  | disableWavelengthJitter _ => .disableWavelengthJitter
  | displacementEdgeScale _ => .displacementEdgeScale
  | mseReferenceImage _ => .mseReferenceImage
  | mseReferenceOut _ => .mseReferenceOut
  | renderSpace _ => .renderSpace
  | seed _ => .seed
  | forceDiffuse _ => .forceDiffuse
  | pixelStats _ => .pixelStats
  | wavefront _ => .wavefront

/-- The value of an option, as the setting that gives it; the reference images may have none. -/
def RenderOptions.get? (options : RenderOptions) : RenderOption → Option RenderSetting
  | .disablePixelJitter => some (.disablePixelJitter options.disablePixelJitter)
  | .disableTextureFiltering => some (.disableTextureFiltering options.disableTextureFiltering)
  | .disableWavelengthJitter => some (.disableWavelengthJitter options.disableWavelengthJitter)
  | .displacementEdgeScale => some (.displacementEdgeScale options.displacementEdgeScale)
  | .mseReferenceImage => options.mseReferenceImage.map .mseReferenceImage
  | .mseReferenceOut => options.mseReferenceOut.map .mseReferenceOut
  | .renderSpace => some (.renderSpace options.renderSpace)
  | .seed => some (.seed options.seed)
  | .forceDiffuse => some (.forceDiffuse options.forceDiffuse)
  | .pixelStats => some (.pixelStats options.pixelStats)
  | .wavefront => some (.wavefront options.wavefront)

theorem RenderOptions.get?_set (options : RenderOptions) (setting : RenderSetting) (option : RenderOption) :
    (options.set setting).get? option = if option = setting.option then some setting else options.get? option := by
  cases setting <;> cases option <;> rfl

/-- What a scene has one of. -/
inductive Slot
  | camera
  | setting (kind : SettingKind)
  | option (option : RenderOption)
  | transformTimes
  | coordinateSystem (name : String)

/-- The slot that a directive sets.  The world is a coordinate system from its begin on. -/
def Directive.sets? : Directive → Option Slot
  | .camera _ _ => some .camera
  | .setting kind _ _ => some (.setting kind)
  | .option new => some (.option new.option)
  | .transformTimes _ => some .transformTimes
  | .worldBegin => some (.coordinateSystem "world")
  | .coordinateSystem name => some (.coordinateSystem name)
  | _ => none

/-- The slot holds the same in both scenes. -/
def Scene.SameAt (scene scene' : Scene) : Slot → Prop
  | .camera => scene.camera = scene'.camera
  | .setting kind => scene.settings.get? kind = scene'.settings.get? kind
  | .option option => scene.options.get? option = scene'.options.get? option
  | .transformTimes => scene.transformTimes = scene'.transformTimes
  | .coordinateSystem name => scene.coordinateSystem? name = scene'.coordinateSystem? name

theorem Scene.SameAt.trans {scene scene' scene'' : Scene} {slot : Slot} (h : scene.SameAt scene' slot)
    (h' : scene'.SameAt scene'' slot) : scene.SameAt scene'' slot := by
  cases slot <;> exact Eq.trans h h'

theorem Draft.coordinateSystem?_scene (d : Draft) (name : String) :
    d.scene.coordinateSystem? name = (d.coordinateSystems.lookup name).map (·.opening) :=
  lookup_map _ name d.coordinateSystems

private theorem Draft.sameAt_nameCoordinateSystem {d : Draft} {name : String} {ctm : Shutter Matrix} {slot : Slot}
    (h : slot ≠ .coordinateSystem name) : d.scene.SameAt (d.nameCoordinateSystem name ctm).scene slot := by
  cases slot with
  | coordinateSystem other =>
    have hother : other ≠ name := fun heq => h (congrArg Slot.coordinateSystem heq)
    show d.scene.coordinateSystem? other = (d.nameCoordinateSystem name ctm).scene.coordinateSystem? other
    rw [coordinateSystem?_scene, coordinateSystem?_scene, nameCoordinateSystem, lookup_setEntry_of_ne hother]
  | _ => rfl

/-- Of the slots, an entity fills only that of the camera. -/
private theorem Draft.sameAt_insert (d : Draft) {e : Entity} {slot : Slot}
    (h : ∀ camera, e = .camera camera → slot ≠ .camera) : d.scene.SameAt (d.insert e).scene slot := by
  cases e with
  | camera camera =>
    have hslot := h camera rfl
    cases slot with
    | camera => exact absurd rfl hslot
    | _ => rfl
  | shape shape =>
    unfold insert addShape
    cases d.recording <;> cases slot <;> rfl
  | _ => cases slot <;> rfl

theorem Directive.sets?_of_camera {location : Location} {state : GraphicsState} {d : Directive} {camera : Camera}
    (h : d.entity? location state = some (.camera camera)) : d.sets? = some .camera := by
  have hemitter := (entity?_emitted h).2
  cases d with
  | camera _ _ => rfl
  | _ => cases hemitter

/-- A directive changes no slot but the one that it sets. -/
theorem Stage.execute_sameAt [LinearAlgebra] {s s' : Stage} {location : Location} {d : Directive} {slot : Slot}
    (h : s.execute location d = .ok s') (hslot : d.sets? ≠ some slot) :
    s.draft.scene.SameAt s'.draft.scene slot := by
  have hwarned : s.draft.scene.SameAt (s.warnedDraft location d).scene slot := by
    cases slot <;> rfl
  rw [execute_draft h]
  unfold draftAfter
  split
  case h_1 setting =>
    cases slot with
    | option option =>
      have hother : option ≠ setting.option := fun heq => hslot (by rw [heq]; rfl)
      exact ((s.draft.options.get?_set setting option).trans (if_neg hother)).symm
    | _ => rfl
  case h_2 kind type params =>
    cases slot with
    | setting other =>
      have hother : other ≠ kind := fun heq => hslot (by rw [heq]; rfl)
      exact ((s.draft.settings.get?_put _ other).trans (if_neg hother)).symm
    | _ => rfl
  case h_3 => exact Draft.sameAt_nameCoordinateSystem fun heq => hslot (heq ▸ rfl)
  case h_4 name => exact Draft.sameAt_nameCoordinateSystem fun heq => hslot (heq ▸ rfl)
  case h_5 times =>
    cases slot with
    | transformTimes => exact absurd rfl hslot
    | _ => rfl
  case h_6 | h_7 => cases slot <;> rfl
  case h_8 =>
    split
    · rename_i new hnew
      refine hwarned.trans (Draft.sameAt_insert _ fun camera hcamera heq => hslot ?_)
      subst hcamera heq
      exact Directive.sets?_of_camera hnew
    · cases slot <;> rfl

end SceneDescription
