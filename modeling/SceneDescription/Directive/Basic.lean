import SceneDescription.Directive.Keyword
import SceneDescription.Parameter.ParameterList
import SceneDescription.Scene.RenderOptions
import SceneDescription.Scene.Shutter
import SceneDescription.Transform.Motion

/-!
# Directives

A directive is a keyword with its operands, read and checked as far as this can be done without knowing what
came before it.
-/

namespace SceneDescription

inductive Directive
  /-- Continues with another file. -/
  | includeFile (path : String)
  /-- Continues with another file, whose changes of the graphics state are undone at its end. -/
  | importFile (path : String)
  | option (setting : RenderSetting)
  | camera (type : String) (params : ParameterList)
  | setting (kind : SettingKind) (type : String) (params : ParameterList)
  | worldBegin
  | worldEnd
  /-- Replaces the current transformation. -/
  | replaceTransform (motion : Motion)
  /-- Multiplies the current transformation. -/
  | composeTransform (motion : Motion)
  /-- Names the current transformation. -/
  | coordinateSystem (name : String)
  /-- Goes back to a named transformation. -/
  | coordSysTransform (name : String)
  | transformTimes (times : Shutter Float)
  | activeTransform (times : Shutter Bool)
  | reverseOrientation
  | attributeBegin
  | attributeEnd
  | transformBegin
  | transformEnd
  /-- Gives default parameters to a kind of entity. -/
  | attributeDefaults (target : String) (params : ParameterList)
  | objectBegin (name : String)
  | objectEnd
  | objectInstance (name : String)
  | shape (type : String) (params : ParameterList)
  | lightSource (type : String) (params : ParameterList)
  | areaLightSource (type : String) (params : ParameterList)
  | material (type : String) (params : ParameterList)
  | makeNamedMaterial (name : String) (params : ParameterList)
  | namedMaterial (name : String)
  | texture (name valueType textureClass : String) (params : ParameterList)
  | makeNamedMedium (name : String) (params : ParameterList)
  /-- Chooses media by name; the empty name is the vacuum. -/
  | mediumInterface (inside outside : String)

end SceneDescription
