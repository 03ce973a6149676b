import SceneDescription.Scene.Scene

/-!
# Documents

A document is a tree of plain values, made to be written out.  Entities and scenes become documents with their
fields in a fixed order; locations are left out.
-/

namespace SceneDescription

inductive Document
  | null
  | flag (value : Bool)
  | integer (value : Int)
  | real (value : Float)
  | text (value : String)
  | matrix (value : Matrix)
  | list (items : List Document)
  | record (fields : List (String × Document))

namespace Document

/-- The document of an optional value. -/
def optional {α : Type} (document : α → Document) : Option α → Document
  | some a => document a
  | none => .null

def ofList {α : Type} (document : α → Document) (items : List α) : Document :=
  .list (items.map document)

def ofComponent : Component → Document
  | .integer value => .integer value
  | .real value => .real value
  | .flag value => .flag value
  | .text value => .text value

/-- The fields of a value. -/
def valueFields (v : Value) : List (String × Document) :=
  [("type", .text v.type.name), ("values", ofList ofComponent v.components)]

def ofParameters (ps : ParameterList) : Document :=
  ofList (fun p => .record (("name", .text p.name) :: valueFields p.value)) ps.entries

def ofCamera (c : Camera) : Document :=
  .record [("type", .text c.type), ("params", ofParameters c.params), ("camera_from_world", .matrix c.cameraFromWorld),
    ("medium", optional .text c.medium)]

def ofSetting (s : Setting) : Document :=
  .record [("directive", .text s.kind.directive), ("type", .text s.type), ("params", ofParameters s.params)]

def ofMaterial (m : Material) : Document :=
  .record [("type", .text m.type), ("params", ofParameters m.params), ("name", optional .text m.name)]

def ofAreaLight (l : AreaLight) : Document :=
  .record [("type", .text l.type), ("params", ofParameters l.params)]

def ofMediumInterface (i : MediumInterface) : Document :=
  .record [("inside", optional .text i.inside), ("outside", optional .text i.outside)]

def ofLightSource (l : LightSource) : Document :=
  .record [("type", .text l.type), ("params", ofParameters l.params), ("transform", .matrix l.transform),
    ("medium", optional .text l.medium)]

def ofMedium (m : Medium) : Document :=
  .record [("name", .text m.name), ("type", .text m.type), ("params", ofParameters m.params),
    ("transform", .matrix m.transform)]

def ofTexture (t : Texture) : Document :=
  .record [("name", .text t.name), ("value_type", .text t.valueType), ("texture_class", .text t.textureClass),
    ("params", ofParameters t.params), ("transform", .matrix t.transform)]

def ofShape (s : Shape) : Document :=
  .record [("type", .text s.type), ("params", ofParameters s.params), ("transform", .matrix s.transform.opening),
    ("end_transform", .matrix s.transform.closing), ("reverse_orientation", .flag s.reverseOrientation),
    ("material", ofMaterial s.material), ("area_light", optional ofAreaLight s.areaLight),
    ("medium_interface", ofMediumInterface s.mediumInterface)]

def ofObject (o : ObjectDefinition) : Document :=
  .record [("name", .text o.name), ("shapes", ofList ofShape o.shapes)]

def ofInstance (i : ObjectInstance) : Document :=
  .record [("name", .text i.name), ("transform", .matrix i.transform.opening),
    ("end_transform", .matrix i.transform.closing)]

def ofOptions (o : RenderOptions) : Document :=
  .record [("disable_pixel_jitter", .flag o.disablePixelJitter),
    ("disable_texture_filtering", .flag o.disableTextureFiltering),
    ("disable_wavelength_jitter", .flag o.disableWavelengthJitter),
    ("displacement_edge_scale", .real o.displacementEdgeScale),
    ("mse_reference_image", optional .text o.mseReferenceImage),
    ("mse_reference_out", optional .text o.mseReferenceOut), ("render_coord_sys", .text o.renderSpace.name),
    ("seed", .integer o.seed), ("force_diffuse", .flag o.forceDiffuse), ("pixel_stats", .flag o.pixelStats),
    ("wavefront", .flag o.wavefront)]

def ofScene (s : Scene) : Document :=
  .record [("camera", optional ofCamera s.camera), ("film", optional ofSetting s.settings.film),
    ("sampler", optional ofSetting s.settings.sampler), ("integrator", optional ofSetting s.settings.integrator),
    ("accelerator", optional ofSetting s.settings.accelerator),
    ("color_space", optional ofSetting s.settings.colorSpace),
    ("pixel_filter", optional ofSetting s.settings.pixelFilter), ("options", ofOptions s.options),
    ("transform_times", ofList .real [s.transformTimes.opening, s.transformTimes.closing]),
    ("shapes", ofList ofShape s.shapes), ("lights", ofList ofLightSource s.lights),
    ("materials", ofList ofMaterial s.materials), ("textures", ofList ofTexture s.textures),
    ("media", ofList ofMedium s.media), ("objects", ofList ofObject s.objects),
    ("instances", ofList ofInstance s.instances),
    ("coordinate_systems", .record (s.coordinateSystems.map fun (name, m) => (name, .matrix m))),
    ("warnings", ofList (fun w => .text w.toText) s.warnings)]

end Document

end SceneDescription
