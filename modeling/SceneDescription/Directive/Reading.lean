import SceneDescription.Directive.Basic
import SceneDescription.Graphics.State
import SceneDescription.Parameter.Decode

/-!
# Reading directives

`readDirective` reads the operands of a directive behind its keyword.  All of them come from the text that the
keyword stands in.
-/

namespace SceneDescription

/-- A keyword in its place. -/
structure Heading where
  keyword : Keyword
  line : Nat

namespace Heading

variable (h : Heading)

/-- Fails at the line of the keyword. -/
def fail {α : Type} (f : Fault) : Read α :=
  Read.fail f h.line

/-- Takes an operand that a function accepts. -/
def operand {α : Type} (expected : Expected) (accept : Lexeme → Option α) : Read α := do
  match ← Read.take with
  | none => h.fail (.unexpectedOperand h.keyword.name expected none)
  | some t =>
    match accept t.lexeme with
    | some a => return a
    | none => Read.fail (.unexpectedOperand h.keyword.name expected t.describe) t.line

def quoted : Read String :=
  h.operand .quotedString fun
    | .quoted content => some content
    | _ => none

def number : Read Float :=
  h.operand .number fun
    | .number numeral => some numeral.toFloat
    | _ => none

def closingBracket : Read Unit :=
  h.operand .matrixEnd fun
    | .rightBracket => some ()
    | _ => none

def vec3 : Read Vec3 := do
  let x ← h.number
  let y ← h.number
  let z ← h.number
  return ⟨x, y, z⟩

def vec4 : Read Vec4 := do
  let x ← h.number
  let y ← h.number
  let z ← h.number
  let w ← h.number
  return ⟨x, y, z, w⟩

def columns : Read Motion := do
  let a ← h.vec4
  let b ← h.vec4
  let c ← h.vec4
  let d ← h.vec4
  return .columns a b c d

/-- The sixteen numbers of a matrix, column by column, with or without brackets around them. -/
def matrix : Read Motion := do
  match ← Read.peek with
  | some ⟨.leftBracket, _⟩ =>
    let _ ← Read.take
    let motion ← h.columns
    h.closingBracket
    return motion
  | _ => h.columns

def rotation : Read Motion := do
  let degrees ← h.number
  let axis ← h.vec3
  return .rotate degrees axis

def view : Read Motion := do
  let eye ← h.vec3
  let target ← h.vec3
  let up ← h.vec3
  return .lookAt eye target up

/-- The shutter times that a word names. -/
def shutterTimes? : String → Option (Shutter Bool)
  | "StartTime" => some ⟨true, false⟩
  | "EndTime" => some ⟨false, true⟩
  | "All" => some ⟨true, true⟩
  | _ => none

/-- A word for shutter times, with or without quotes. -/
def shutterTimes : Read (Shutter Bool) := do
  match ← Read.take with
  | some ⟨.identifier name, line⟩ | some ⟨.quoted name, line⟩ =>
    match shutterTimes? name with
    | some times => return times
    | none => Read.fail (.unknownShutterTime name) line
  | _ => h.fail .unexpectedShutterTime

def renderSetting : Read RenderSetting := do
  let parameter ← readParameter
  match RenderSetting.ofParameter parameter with
  | .ok setting => return setting
  | .error f => h.fail f

/-- The kind of entity that defaults are meant for. -/
def attributeTarget : Read String := do
  let target ← h.quoted
  if attributeTargets.contains target then return target
  else h.fail (.unknownAttributeTarget target attributeTargets)

/-- What a texture yields under each of the words for it. -/
def textureType? : String → Option String
  | "float" => some "float"
  | "spectrum" | "color" => some "spectrum"
  | _ => none

def texture : Read Directive := do
  let name ← h.quoted
  let valueType ← h.quoted
  let textureClass ← h.quoted
  let params ← readParameters
  match textureType? valueType with
  | some valueType => return .texture name valueType textureClass params
  | none => h.fail (.unknownTextureType name valueType)

/-- The medium outside, which is the one inside if only one is named. -/
def outerMedium (inside : String) : Read String := do
  match ← Read.peek with
  | some ⟨.quoted _, _⟩ => h.quoted
  | _ => return inside

/-- A quoted operand and the parameters after it. -/
def withParameters (make : String → ParameterList → Directive) : Read Directive := do
  let operand ← h.quoted
  let params ← readParameters
  return make operand params

end Heading

/-- Reads the operands of a directive. -/
def readDirective (h : Heading) : Read Directive :=
  match h.keyword with
  | .includeFile => .includeFile <$> h.quoted
  | .importFile => .importFile <$> h.quoted
  | .option => .option <$> h.renderSetting
  | .camera => h.withParameters .camera
  | .setting kind => h.withParameters (.setting kind)
  | .worldBegin => return .worldBegin
  | .worldEnd => return .worldEnd
  | .identity => return .replaceTransform .identity
  | .translate => (.composeTransform <| .translate ·) <$> h.vec3
  | .scale => (.composeTransform <| .scale ·) <$> h.vec3
  | .rotate => .composeTransform <$> h.rotation
  | .lookAt => .composeTransform <$> h.view
  | .transform => .replaceTransform <$> h.matrix
  | .concatTransform => .composeTransform <$> h.matrix
  | .coordinateSystem => .coordinateSystem <$> h.quoted
  | .coordSysTransform => .coordSysTransform <$> h.quoted
  | .transformTimes => do
    let opening ← h.number
    let closing ← h.number
    return .transformTimes ⟨opening, closing⟩
  | .activeTransform => .activeTransform <$> h.shutterTimes
  | .reverseOrientation => return .reverseOrientation
  | .attributeBegin => return .attributeBegin
  | .attributeEnd => return .attributeEnd
  | .transformBegin => return .transformBegin
  | .transformEnd => return .transformEnd
  | .attributeDefaults => do
    let target ← h.attributeTarget
    let params ← readParameters
    return .attributeDefaults target params
  | .objectBegin => .objectBegin <$> h.quoted
  | .objectEnd => return .objectEnd
  | .objectInstance => .objectInstance <$> h.quoted
  | .shape => h.withParameters .shape
  | .lightSource => h.withParameters .lightSource
  | .areaLightSource => h.withParameters .areaLightSource
  | .material => h.withParameters .material
  | .makeNamedMaterial => h.withParameters .makeNamedMaterial
  | .namedMaterial => .namedMaterial <$> h.quoted
  | .texture => h.texture
  | .makeNamedMedium => h.withParameters .makeNamedMedium
  | .mediumInterface => do
    let inside ← h.quoted
    let outside ← h.outerMedium inside
    return .mediumInterface inside outside

/-! ### Reading goes forward -/

namespace Heading

variable (h : Heading)

private theorem forward_fail {α : Type} (f : Fault) : (h.fail f : Read α).Forward :=
  Read.forward_fail _ _

private theorem forward_operand {α : Type} (expected : Expected) (accept : Lexeme → Option α) :
    (h.operand expected accept).Forward := by
  refine Read.forward_take.bind fun t => ?_
  split
  · exact h.forward_fail _
  · split
    · exact Read.forward_pure _
    · exact Read.forward_fail _ _

private theorem forward_quoted : h.quoted.Forward := h.forward_operand _ _

private theorem forward_number : h.number.Forward := h.forward_operand _ _

private theorem forward_vec3 : h.vec3.Forward :=
  h.forward_number.bind fun _ => h.forward_number.bind fun _ => h.forward_number.bind fun _ => Read.forward_pure _

private theorem forward_vec4 : h.vec4.Forward :=
  h.forward_number.bind fun _ => h.forward_number.bind fun _ => h.forward_number.bind fun _ =>
    h.forward_number.bind fun _ => Read.forward_pure _

private theorem forward_columns : h.columns.Forward :=
  h.forward_vec4.bind fun _ => h.forward_vec4.bind fun _ => h.forward_vec4.bind fun _ =>
    h.forward_vec4.bind fun _ => Read.forward_pure _

private theorem forward_matrix : h.matrix.Forward := by
  refine Read.forward_peek.bind fun t => ?_
  split
  · exact Read.forward_take.bind fun _ => h.forward_columns.bind fun _ =>
      (h.forward_operand _ _).bind fun _ => Read.forward_pure _
  · exact h.forward_columns

private theorem forward_rotation : h.rotation.Forward :=
  h.forward_number.bind fun _ => h.forward_vec3.bind fun _ => Read.forward_pure _

private theorem forward_view : h.view.Forward :=
  h.forward_vec3.bind fun _ => h.forward_vec3.bind fun _ => h.forward_vec3.bind fun _ => Read.forward_pure _

private theorem forward_shutterTimes : h.shutterTimes.Forward := by
  refine Read.forward_take.bind fun t => ?_
  split
  · split
    · exact Read.forward_pure _
    · exact Read.forward_fail _ _
  · split
    · exact Read.forward_pure _
    · exact Read.forward_fail _ _
  · exact h.forward_fail _

private theorem forward_renderSetting : h.renderSetting.Forward := by
  refine forward_readParameter.bind fun p => ?_
  split
  · exact Read.forward_pure _
  · exact h.forward_fail _

private theorem forward_attributeTarget : h.attributeTarget.Forward := by
  refine h.forward_quoted.bind fun target => ?_
  split
  · exact Read.forward_pure _
  · exact h.forward_fail _

private theorem forward_texture : h.texture.Forward := by
  refine h.forward_quoted.bind fun _ => h.forward_quoted.bind fun _ => h.forward_quoted.bind fun _ =>
    forward_readParameters.bind fun _ => ?_
  split
  · exact Read.forward_pure _
  · exact h.forward_fail _

private theorem forward_outerMedium (inside : String) : (h.outerMedium inside).Forward := by
  refine Read.forward_peek.bind fun t => ?_
  split
  · exact h.forward_quoted
  · exact Read.forward_pure _

private theorem forward_withParameters (make : String → ParameterList → Directive) : (h.withParameters make).Forward :=
  h.forward_quoted.bind fun _ => forward_readParameters.bind fun _ => Read.forward_pure _

end Heading

/-- The operands of a directive are taken from the front of the remaining tokens of its text. -/
theorem forward_readDirective (h : Heading) : (readDirective h).Forward := by
  unfold readDirective
  split
  case h_1 | h_2 | h_15 | h_16 | h_25 | h_27 | h_33 => exact h.forward_quoted.map _
  case h_3 => exact h.forward_renderSetting.map _
  case h_9 | h_10 => exact h.forward_vec3.map _
  case h_11 => exact h.forward_rotation.map _
  case h_12 => exact h.forward_view.map _
  case h_13 | h_14 => exact h.forward_matrix.map _
  case h_17 => exact h.forward_number.bind fun _ => h.forward_number.bind fun _ => Read.forward_pure _
  case h_18 => exact h.forward_shutterTimes.map _
  case h_24 => exact h.forward_attributeTarget.bind fun _ => forward_readParameters.bind fun _ => Read.forward_pure _
  case h_34 => exact h.forward_texture
  case h_36 => exact h.forward_quoted.bind fun _ => (h.forward_outerMedium _).bind fun _ => Read.forward_pure _
  case h_4 | h_5 | h_28 | h_29 | h_30 | h_31 | h_32 | h_35 => exact h.forward_withParameters _
  all_goals exact Read.forward_pure _

end SceneDescription
