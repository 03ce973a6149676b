import SceneDescription.Entries
import SceneDescription.Scene.Scene

/-!
# Drafts

A draft is a scene in the making.  While an object is being recorded, shapes go to the recording instead of the
scene.  An operation that would define a name twice, or refer to a name that is not defined, gives a fault and no
new draft.
-/

namespace SceneDescription

structure Draft extends Declarations where
  /-- The named coordinate systems at both shutter times, in the order of their first naming. -/
  coordinateSystems : List (String × Shutter Matrix) := []
  /-- The shapes of the object that is being recorded. -/
  recording : Option (List Shape) := none

namespace Draft

/-- The finished scene. -/
def scene (d : Draft) : Scene where
  toDeclarations := d.toDeclarations
  coordinateSystems := d.coordinateSystems.map fun (name, ctm) => (name, ctm.opening)

def warn (d : Draft) (remark : Remark) (location : Option Location) : Draft :=
  { d with warnings := d.warnings ++ [⟨remark, location⟩] }

/-- Warns of a declaration if there was one before it. -/
def warnRedefined (d : Draft) (directive : String) (previous : Option (Option Location))
    (location : Option Location) : Draft :=
  match previous with
  | some before => d.warn (.redefined directive before) location
  | none => d

def setCamera (d : Draft) (camera : Camera) : Draft :=
  { d.warnRedefined "Camera" (d.camera.map (·.location)) camera.location with camera := some camera }

def putSetting (d : Draft) (setting : Setting) : Draft :=
  let previous := (d.settings.get? setting.kind).map (·.location)
  { d.warnRedefined setting.kind.directive previous setting.location with settings := d.settings.put setting }

def setOption (d : Draft) (setting : RenderSetting) : Draft :=
  { d with options := d.options.set setting }

def setTransformTimes (d : Draft) (times : Shutter Float) : Draft :=
  { d with transformTimes := times }

/-- Adds a shape to the object that is being recorded, or to the scene. -/
def addShape (d : Draft) (shape : Shape) : Draft :=
  match d.recording with
  | some shapes => { d with recording := some (shapes ++ [shape]) }
  | none => { d with shapes := d.shapes ++ [shape] }

def addLight (d : Draft) (light : LightSource) : Draft :=
  { d with lights := d.lights ++ [light] }

def addAreaLight (d : Draft) (light : AreaLight) : Draft :=
  { d with areaLights := d.areaLights ++ [light] }

def addInstance (d : Draft) (placement : ObjectInstance) : Draft :=
  { d with instances := d.instances ++ [placement] }

/-- Adds a material; a name may be used only once. -/
def addMaterial (d : Draft) (material : Material) : Except Fault Draft :=
  match material.name with
  | some name =>
    if (d.material? name).isSome then .error (.duplicateName .material name)
    else .ok { d with materials := d.materials ++ [material] }
  | none => .ok { d with materials := d.materials ++ [material] }

/-- Adds a texture; a name may be used once for each type of value. -/
def addTexture (d : Draft) (texture : Texture) : Except Fault Draft :=
  if (d.texture? texture.valueType texture.name).isSome then
    .error (.duplicateTexture texture.valueType texture.name)
  else .ok { d with textures := d.textures ++ [texture] }

def addMedium (d : Draft) (medium : Medium) : Except Fault Draft :=
  if (d.medium? medium.name).isSome then .error (.duplicateName .medium medium.name)
  else .ok { d with media := d.media ++ [medium] }

/-- Starts to record an object. -/
def beginObject (d : Draft) (name : String) : Except Fault Draft :=
  if (d.object? name).isSome then .error (.duplicateName .object name)
  else .ok { d with recording := some [] }

/-- Completes the object that is being recorded. -/
def endObject (d : Draft) (name : String) (location : Option Location) : Draft :=
  { d with
    recording := none
    objects := d.objects ++ [{ name, shapes := d.recording.getD [], location }] }

/-- Names a coordinate system; a name may be given anew. -/
def nameCoordinateSystem (d : Draft) (name : String) (ctm : Shutter Matrix) : Draft :=
  { d with coordinateSystems := setEntry name ctm d.coordinateSystems }

/-- The result of a look-up by name, or the fault of an unknown name. -/
def defined {α : Type} (thing : Named) (name : String) : Option α → Except Fault α
  | some a => .ok a
  | none => .error (.undefinedName thing name)

def coordinateSystem (d : Draft) (name : String) : Except Fault (Shutter Matrix) :=
  defined .coordinateSystem name (d.coordinateSystems.lookup name)

def material (d : Draft) (name : String) : Except Fault Material :=
  defined .material name (d.material? name)

def medium (d : Draft) (name : String) : Except Fault Medium :=
  defined .medium name (d.medium? name)

def object (d : Draft) (name : String) : Except Fault ObjectDefinition :=
  defined .object name (d.object? name)

end Draft

end SceneDescription
