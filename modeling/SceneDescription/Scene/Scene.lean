import SceneDescription.Scene.Entity
import SceneDescription.Scene.RenderOptions

/-!
# Scenes

A scene is the finished result of reading a description: its entities in the order of declaration, and the
coordinate systems that were named in it.  Materials, media, textures and objects are found by name among the
declared ones.
-/

namespace SceneDescription

/-- The declared settings, at most one of each kind. -/
structure Settings where
  film : Option Setting := none
  sampler : Option Setting := none
  integrator : Option Setting := none
  accelerator : Option Setting := none
  colorSpace : Option Setting := none
  pixelFilter : Option Setting := none

namespace Settings

def get? (s : Settings) : SettingKind → Option Setting
  | .film => s.film
  | .sampler => s.sampler
  | .integrator => s.integrator
  | .accelerator => s.accelerator
  | .colorSpace => s.colorSpace
  | .pixelFilter => s.pixelFilter

/-- Puts a setting in the place of its kind. -/
def put (s : Settings) (setting : Setting) : Settings :=
  match setting.kind with
  | .film => { s with film := some setting }
  | .sampler => { s with sampler := some setting }
  | .integrator => { s with integrator := some setting }
  | .accelerator => { s with accelerator := some setting }
  | .colorSpace => { s with colorSpace := some setting }
  | .pixelFilter => { s with pixelFilter := some setting }

end Settings

/-- Everything that has been declared, apart from coordinate systems.  The lists are in the order of
declaration. -/
structure Declarations where
  camera : Option Camera := none
  settings : Settings := {}
  options : RenderOptions := {}
  transformTimes : Shutter Float := ⟨0.0, 1.0⟩
  /-- The shapes outside of objects. -/
  shapes : List Shape := []
  lights : List LightSource := []
  areaLights : List AreaLight := []
  /-- The materials, with and without a name. -/
  materials : List Material := []
  textures : List Texture := []
  media : List Medium := []
  objects : List ObjectDefinition := []
  instances : List ObjectInstance := []
  warnings : List Warning := []

namespace Declarations

def material? (d : Declarations) (name : String) : Option Material :=
  d.materials.find? (·.name = some name)

def medium? (d : Declarations) (name : String) : Option Medium :=
  d.media.find? (·.name = name)

def texture? (d : Declarations) (valueType name : String) : Option Texture :=
  d.textures.find? fun t => t.valueType = valueType && t.name = name

/-- The object of a name; the last one, if an object has been completed again. -/
def object? (d : Declarations) (name : String) : Option ObjectDefinition :=
  d.objects.reverse.find? (·.name = name)

def materialNames (d : Declarations) : List String :=
  d.materials.filterMap (·.name)

/-- The number of shapes when every instance stands for the shapes of its object.  Fails with the name of an
instance whose object does not exist. -/
def primitiveCount (d : Declarations) : Except String Nat := do
  let placed ← d.instances.mapM fun i =>
    match d.object? i.name with
    | some object => .ok object.shapes.length
    | none => .error i.name
  return d.shapes.length + placed.foldl (· + ·) 0

end Declarations

structure Scene extends Declarations where
  /-- The named coordinate systems as they are when the shutter opens, in the order of their first naming. -/
  coordinateSystems : List (String × Matrix) := []

def Scene.coordinateSystem? (scene : Scene) (name : String) : Option Matrix :=
  scene.coordinateSystems.lookup name

end SceneDescription
