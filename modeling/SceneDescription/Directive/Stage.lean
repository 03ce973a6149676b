import SceneDescription.Directive.Basic
import SceneDescription.Graphics.ScopeStack
import SceneDescription.Scene.Draft

/-!
# Carrying out directives

A stage is all that directives can change: the phase, the scopes with their graphics states, and the draft of
the scene.  `Stage.execute` gives the stage after a directive, or the fault that forbids it.  Files are not
opened here: for a stage, an include changes nothing, and an import opens a scope, which is closed when the file
ends.
-/

namespace SceneDescription

variable [LinearAlgebra]

structure Stage where
  phase : Phase := .options
  scopes : ScopeStack := {}
  draft : Draft := {}

namespace Stage

/-- The graphics state that declarations inherit. -/
def active (s : Stage) : GraphicsState :=
  s.scopes.active

def edit (s : Stage) (e : Edit) : Stage :=
  { s with scopes := s.scopes.edit e }

/-- Parameters with the defaults for a kind of entity in front. -/
def withDefaults (s : Stage) (target : String) (params : ParameterList) : ParameterList :=
  params.mergedOver (s.active.defaults target)

/-- The type that the parameters of a named material or medium give it. -/
def declaredType (directive name : String) (params : ParameterList) : Except Fault String :=
  match params.string? "type" with
  | some type => .ok type
  | none => .error (.missingTypeParameter directive name)

def shape (s : Stage) (type : String) (params : ParameterList) (location : Location) : Shape where
  type := type
  params := s.withDefaults "shape" params
  transform := s.active.ctm
  reverseOrientation := s.active.reverseOrientation
  material := s.active.material
  areaLight := s.active.areaLight
  mediumInterface := s.active.mediumInterface
  location := location

/-- Chooses an area light; in an object it draws a warning. -/
def areaLight (s : Stage) (light : AreaLight) : Stage :=
  let draft := match s.scopes.recording with
    | some object => s.draft.warn (.areaLightInObject object) light.location
    | none => s.draft
  { s.edit (.useAreaLight light) with draft := draft.addAreaLight light }

/-- Places an object, which must be complete; objects are not placed inside of others. -/
def placeObject (s : Stage) (name : String) (location : Location) : Except Fault Stage :=
  match s.scopes.recording with
  | some within => .error (.nestedInstance name within)
  | none => do
    let _ ← s.draft.object name
    return { s with draft := s.draft.addInstance { name, transform := s.active.ctm, location } }

/-- The medium of a name, which must exist; the empty name is the vacuum. -/
def mediumNamed (s : Stage) (name : String) : Except Fault (Option String) :=
  if name = "" then .ok none
  else do
    let _ ← s.draft.medium name
    return some name

/-- Carries out a directive that stands at a location. -/
def execute (s : Stage) (location : Location) : Directive → Except Fault Stage
  | .includeFile _ => .ok s
  | .importFile _ => .ok { s with scopes := s.scopes.checkpoint.2 }
  | .option setting => .ok { s with draft := s.draft.setOption setting }
  | .camera type params =>
    let camera : Camera :=
      { type, params, cameraFromWorld := s.active.ctm.opening, medium := s.active.mediumInterface.outside, location }
    .ok { s with draft := s.draft.setCamera camera }
  | .setting kind type params => .ok { s with draft := s.draft.putSetting { kind, type, params, location } }
  | .worldBegin =>
    let s := { s.edit .enterWorld with phase := .world }
    .ok { s with draft := s.draft.nameCoordinateSystem "world" s.active.ctm }
  | .worldEnd => .ok s
  | .replaceTransform motion => return s.edit (.replace (← motion.toMatrix))
  | .composeTransform motion => return s.edit (.compose (← motion.toMatrix))
  | .coordinateSystem name => .ok { s with draft := s.draft.nameCoordinateSystem name s.active.ctm }
  | .coordSysTransform name => return s.edit (.reinstate (← s.draft.coordinateSystem name))
  | .transformTimes times => .ok { s with draft := s.draft.setTransformTimes times }
  | .activeTransform times => .ok (s.edit (.activate times))
  | .reverseOrientation => .ok (s.edit .reverse)
  | .attributeBegin => .ok { s with scopes := s.scopes.push .attributes }
  | .attributeEnd => return { s with scopes := ← s.scopes.pop .attributes }
  | .transformBegin => .ok { s with scopes := s.scopes.push .transforms }
  | .transformEnd => return { s with scopes := ← s.scopes.pop .transforms }
  | .attributeDefaults target params => .ok (s.edit (.addDefaults target params))
  | .objectBegin name => do
    let scopes ← s.scopes.beginObject name
    let draft ← s.draft.beginObject name
    return { s with scopes, draft }
  | .objectEnd => do
    let (name, scopes) ← s.scopes.endObject
    return { s with scopes, draft := s.draft.endObject name location }
  | .objectInstance name => s.placeObject name location
  | .shape type params => .ok { s with draft := s.draft.addShape (s.shape type params location) }
  | .lightSource type params =>
    let light : LightSource :=
      { type, params := s.withDefaults "light" params, transform := s.active.ctm.opening,
        medium := s.active.mediumInterface.outside, location }
    .ok { s with draft := s.draft.addLight light }
  | .areaLightSource type params => .ok (s.areaLight { type, params := s.withDefaults "light" params, location })
  | .material type params => do
    let material : Material := { type, params := s.withDefaults "material" params, location }
    let draft ← s.draft.addMaterial material
    return { s.edit (.useMaterial material) with draft }
  | .makeNamedMaterial name params => do
    let params := s.withDefaults "material" params
    let type ← declaredType "MakeNamedMaterial" name params
    let draft ← s.draft.addMaterial { type, params, name, location }
    return { s with draft }
  | .namedMaterial name => return s.edit (.useMaterial (← s.draft.material name))
  | .texture name valueType textureClass params => do
    let params := s.withDefaults "texture" params
    let draft ← s.draft.addTexture
      { name, valueType, textureClass, params, transform := s.active.ctm.opening, location }
    return { s with draft }
  | .makeNamedMedium name params => do
    let params := s.withDefaults "medium" params
    let type ← declaredType "MakeNamedMedium" name params
    let draft ← s.draft.addMedium { name, type, params, transform := s.active.ctm.opening, location }
    return { s with draft }
  | .mediumInterface inside outside => do
    let inside ← s.mediumNamed inside
    let outside ← s.mediumNamed outside
    return s.edit (.useMedia ⟨inside, outside⟩)

/-- Closes the scope of an import when its file has ended. -/
def leaveImport (s : Stage) (mark : Mark) : Except Fault Stage :=
  return { s with scopes := ← s.scopes.restore mark }

end Stage

end SceneDescription
