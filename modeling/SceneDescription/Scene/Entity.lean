import SceneDescription.Parameter.ParameterList
import SceneDescription.Scene.Shutter
import SceneDescription.Text.Integer
import SceneDescription.Transform.Matrix

/-!
# Entities

What a scene is made of.  Each entity carries the part of the graphics state that it depends on, as it was when
the entity was declared.
-/

namespace SceneDescription

/-- Where a directive stands. -/
structure Location where
  source : String
  line : Nat
  deriving DecidableEq

def Location.toText (l : Location) : String :=
  l.source ++ ":" ++ Nat.repr l.line

/-- The declarations of which a scene has at most one, besides the camera. -/
inductive SettingKind
  | film
  | sampler
  | integrator
  | accelerator
  | colorSpace
  | pixelFilter
  deriving DecidableEq

/-- The directive that makes such a declaration. -/
def SettingKind.directive : SettingKind → String
  | film => "Film"
  | sampler => "Sampler"
  | integrator => "Integrator"
  | accelerator => "Accelerator"
  | colorSpace => "ColorSpace"
  | pixelFilter => "PixelFilter"

/-- A declaration of film, sampler, and so on. -/
structure Setting where
  kind : SettingKind
  type : String
  params : ParameterList := {}
  location : Option Location := none

structure Camera where
  type : String
  params : ParameterList := {}
  cameraFromWorld : Matrix := .identity
  /-- The medium around the camera. -/
  medium : Option String := none
  location : Option Location := none

structure Material where
  type : String
  params : ParameterList := {}
  name : Option String := none
  location : Option Location := none

/-- The material of shapes for which none has been chosen. -/
def Material.default : Material := { type := "diffuse" }

structure AreaLight where
  type : String
  params : ParameterList := {}
  location : Option Location := none

/-- The names of the media on the two sides of a surface; `none` is the vacuum. -/
structure MediumInterface where
  inside : Option String := none
  outside : Option String := none
  deriving DecidableEq

structure LightSource where
  type : String
  params : ParameterList := {}
  transform : Matrix := .identity
  medium : Option String := none
  location : Option Location := none

structure Medium where
  name : String
  type : String
  params : ParameterList := {}
  transform : Matrix := .identity
  location : Option Location := none

structure Texture where
  name : String
  /-- What the texture yields, `float` or `spectrum`. -/
  valueType : String
  textureClass : String
  params : ParameterList := {}
  transform : Matrix := .identity
  location : Option Location := none

structure Shape where
  type : String
  params : ParameterList := {}
  transform : Shutter Matrix := .both .identity
  reverseOrientation : Bool := false
  material : Material := .default
  areaLight : Option AreaLight := none
  mediumInterface : MediumInterface := {}
  location : Option Location := none

/-- A group of shapes that can be placed by its name. -/
structure ObjectDefinition where
  name : String
  shapes : List Shape := []
  location : Option Location := none

structure ObjectInstance where
  name : String
  transform : Shutter Matrix := .both .identity
  location : Option Location := none

/-- What a scene is warned about. -/
inductive Remark
  /-- A declaration that overrides an earlier one. -/
  | redefined (directive : String) (previous : Option Location)
  /-- A light on shapes that are only recorded for later placement. -/
  | areaLightInObject (object : String)
  | other (text : String)
  deriving DecidableEq

def Remark.message : Remark → String
  | redefined directive previous =>
    directive ++ " redefined, the last declaration wins" ++ match previous with
      | some location => " (previously declared at " ++ location.toText ++ ")"
      | none => ""
  | areaLightInObject object =>
    "AreaLightSource inside object \"" ++ object ++ "\": area lights are not instanced"
  | other text => text

structure Warning where
  remark : Remark
  location : Option Location := none
  deriving DecidableEq

def Warning.toText (w : Warning) : String :=
  match w.location with
  | some location => location.toText ++ ": " ++ w.remark.message
  | none => w.remark.message

end SceneDescription
