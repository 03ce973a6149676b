import SceneDescription.Scene.Entity

/-!
# Keywords

The words that begin directives.  A description has two phases, divided by `WorldBegin`; most keywords belong to
one of them.
-/

namespace SceneDescription

inductive Phase
  | options
  | world
  deriving DecidableEq

inductive Keyword
  | includeFile
  | importFile
  | option
  | camera
  | setting (kind : SettingKind)
  | worldBegin
  | worldEnd
  | identity
  | translate
  | scale
  | rotate
  | lookAt
  | transform
  | concatTransform
  | coordinateSystem
  | coordSysTransform
  | transformTimes
  | activeTransform
  | reverseOrientation
  | attributeBegin
  | attributeEnd
  | transformBegin
  | transformEnd
  | attributeDefaults
  | objectBegin
  | objectEnd
  | objectInstance
  | shape
  | lightSource
  | areaLightSource
  | material
  | makeNamedMaterial
  | namedMaterial
  | texture
  | makeNamedMedium
  | mediumInterface
  deriving DecidableEq

namespace Keyword

/-- The keyword that a word is. -/
def ofName? : String → Option Keyword
  | "Include" => some .includeFile
  | "Import" => some .importFile
  | "Option" => some .option
  | "Camera" => some .camera
  | "Film" => some (.setting .film)
  | "Sampler" => some (.setting .sampler)
  | "Integrator" => some (.setting .integrator)
  | "Accelerator" => some (.setting .accelerator)
  | "ColorSpace" => some (.setting .colorSpace)
  | "PixelFilter" => some (.setting .pixelFilter)
  | "WorldBegin" => some .worldBegin
  | "WorldEnd" => some .worldEnd
  | "Identity" => some .identity
  | "Translate" => some .translate
  | "Scale" => some .scale
  | "Rotate" => some .rotate
  | "LookAt" => some .lookAt
  | "Transform" => some .transform
  | "ConcatTransform" => some .concatTransform
  | "CoordinateSystem" => some .coordinateSystem
  | "CoordSysTransform" => some .coordSysTransform
  | "TransformTimes" => some .transformTimes
  | "ActiveTransform" => some .activeTransform
  | "ReverseOrientation" => some .reverseOrientation
  | "AttributeBegin" => some .attributeBegin
  | "AttributeEnd" => some .attributeEnd
  | "TransformBegin" => some .transformBegin
  | "TransformEnd" => some .transformEnd
  | "Attribute" => some .attributeDefaults
  | "ObjectBegin" => some .objectBegin
  | "ObjectEnd" => some .objectEnd
  | "ObjectInstance" => some .objectInstance
  | "Shape" => some .shape
  | "LightSource" => some .lightSource
  | "AreaLightSource" => some .areaLightSource
  | "Material" => some .material
  | "MakeNamedMaterial" => some .makeNamedMaterial
  | "NamedMaterial" => some .namedMaterial
  | "Texture" => some .texture
  | "MakeNamedMedium" => some .makeNamedMedium
  | "MediumInterface" => some .mediumInterface
  | _ => none

/-- The word of a keyword. -/
def name : Keyword → String
  | includeFile => "Include"
  | importFile => "Import"
  | option => "Option"
  | camera => "Camera"
  | setting kind => kind.directive
  | worldBegin => "WorldBegin"
  | worldEnd => "WorldEnd"
  | identity => "Identity"
  | translate => "Translate"
  | scale => "Scale"
  | rotate => "Rotate"
  | lookAt => "LookAt"
  | transform => "Transform"
  | concatTransform => "ConcatTransform"
  | coordinateSystem => "CoordinateSystem"
  | coordSysTransform => "CoordSysTransform"
  | transformTimes => "TransformTimes"
  | activeTransform => "ActiveTransform"
  | reverseOrientation => "ReverseOrientation"
  | attributeBegin => "AttributeBegin"
  | attributeEnd => "AttributeEnd"
  | transformBegin => "TransformBegin"
  | transformEnd => "TransformEnd"
  | attributeDefaults => "Attribute"
  | objectBegin => "ObjectBegin"
  | objectEnd => "ObjectEnd"
  | objectInstance => "ObjectInstance"
  | shape => "Shape"
  | lightSource => "LightSource"
  | areaLightSource => "AreaLightSource"
  | material => "Material"
  | makeNamedMaterial => "MakeNamedMaterial"
  | namedMaterial => "NamedMaterial"
  | texture => "Texture"
  | makeNamedMedium => "MakeNamedMedium"
  | mediumInterface => "MediumInterface"

/-- The one phase that a keyword belongs to; `none` if it is at home in both. -/
def phase? : Keyword → Option Phase
  | camera | setting _ | worldBegin => some .options
  | worldEnd | attributeBegin | attributeEnd | transformBegin | transformEnd | attributeDefaults | objectBegin
  | objectEnd | objectInstance | shape | lightSource | areaLightSource | material | makeNamedMaterial
  | namedMaterial | texture | reverseOrientation | importFile => some .world
  | includeFile | option | identity | translate | scale | rotate | lookAt | transform | concatTransform
  | coordinateSystem | coordSysTransform | transformTimes | activeTransform | makeNamedMedium | mediumInterface =>
    none

/-- Whether a keyword is allowed in a phase. -/
def allowedIn (k : Keyword) (phase : Phase) : Bool :=
  match k.phase? with
  | none => true
  | some home => home = phase

theorem ofName?_name (k : Keyword) : ofName? k.name = some k := by
  cases k with
  | setting kind => cases kind <;> rfl
  | _ => rfl

end Keyword

end SceneDescription
