import SceneDescription.Entries
import SceneDescription.Scene.Entity

/-!
# Graphics state

The context that declarations inherit: the current transformation at both shutter times, the orientation, the
material, the area light, the media, and default parameters.  It changes only by the edits listed here.
-/

namespace SceneDescription

structure GraphicsState where
  /-- The current transformation, from the object's space to the world's. -/
  ctm : Shutter Matrix := .both .identity
  /-- The shutter times at which transformations take effect. -/
  activeTimes : Shutter Bool := .both true
  reverseOrientation : Bool := false
  material : Material := .default
  areaLight : Option AreaLight := none
  mediumInterface : MediumInterface := {}
  /-- Default parameters for each kind of entity that has been given some. -/
  attributes : List (String × ParameterList) := []

/-- The defaults for a kind of entity. -/
def GraphicsState.defaults (s : GraphicsState) (target : String) : ParameterList :=
  (s.attributes.lookup target).getD .empty

/-- The kinds of entities that can be given default parameters. -/
def attributeTargets : List String :=
  ["shape", "light", "material", "medium", "texture"]

/-- A change of the graphics state. -/
inductive Edit
  /-- Multiplies the current transformation from the right. -/
  | compose (m : Matrix)
  /-- Replaces the current transformation. -/
  | replace (m : Matrix)
  /-- Replaces the current transformation by a saved one. -/
  | reinstate (ctm : Shutter Matrix)
  | activate (times : Shutter Bool)
  | reverse
  | useMaterial (material : Material)
  | useAreaLight (light : AreaLight)
  | useMedia (media : MediumInterface)
  | addDefaults (target : String) (params : ParameterList)
  /-- Starts the world with the identity, at both shutter times. -/
  | enterWorld

def Edit.apply [LinearAlgebra] (s : GraphicsState) : Edit → GraphicsState
  | compose m => { s with ctm := .update s.activeTimes (s.ctm.map (LinearAlgebra.mul · m)) s.ctm }
  | replace m => { s with ctm := .update s.activeTimes (.both m) s.ctm }
  | reinstate ctm => { s with ctm := .update s.activeTimes ctm s.ctm }
  | activate times => { s with activeTimes := times }
  | reverse => { s with reverseOrientation := !s.reverseOrientation }
  | useMaterial material => { s with material }
  | useAreaLight light => { s with areaLight := some light }
  | useMedia media => { s with mediumInterface := media }
  | addDefaults target params =>
    { s with attributes := setEntry target (params.mergedOver (s.defaults target)) s.attributes }
  | enterWorld => { s with ctm := .both .identity, activeTimes := .both true }

end SceneDescription
