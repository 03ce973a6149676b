import SceneDescription.Files.SceneText
import SceneDescription.Graphics.ScopeKind
import SceneDescription.Parameter.Type

/-!
# Faults

Everything that can be wrong with a scene, by cause.  The wording is in `Fault.message` alone, and `Fault.kind`
sorts the causes into the classes that a caller may want to tell apart.
-/

namespace SceneDescription

/-- What the operand of a directive or the component of a value should have been. -/
inductive Expected
  | quotedString
  | number
  | integer
  | truthValue
  | matrixEnd
  deriving DecidableEq

def Expected.describe : Expected → String
  | quotedString => "a quoted string"
  | number => "a number"
  | integer => "an integer"
  | truthValue => "\"true\" or \"false\""
  | matrixEnd => "']' after 16 matrix values"

/-- The things that are defined once and then referred to by name. -/
inductive Named
  | material
  | medium
  | object
  | coordinateSystem
  deriving DecidableEq

def Named.describe : Named → String
  | material => "named material"
  | medium => "named medium"
  | object => "object"
  | coordinateSystem => "coordinate system"

inductive Fault
  -- lexemes
  | unterminatedString
  | unexpectedCharacter (c : Char)
  | malformedNumber (lexeme : String)
  -- parameters
  | expectedDeclaration
  | malformedDeclaration (heading : String)
  | unknownType (keyword : String)
  | missingValue (heading : String)
  | strayBracket (heading : String)
  | unclosedBracket (heading : String)
  | misplacedInValue (found heading : String)
  | unconvertible (heading : String) (expected : Expected) (found : String)
  | arityMismatch (heading keyword : String) (arity given : Nat)
  | namedSpectrumCount (heading : String) (given : Nat)
  -- directives and their operands
  | expectedDirective (found : String)
  | unknownDirective (name : String)
  | beforeWorld (directive : String)
  | afterWorldBegin (directive : String)
  | unexpectedOperand (directive : String) (expected : Expected) (found : Option String)
  | unexpectedShutterTime
  | unknownShutterTime (name : String)
  | unknownOption (name : String)
  | optionType (name : String) (expected given : ParameterType)
  | unknownRenderSpace (name : String)
  | unknownAttributeTarget (target : String) (known : List String)
  | unknownTextureType (texture type : String)
  | missingTypeParameter (directive name : String)
  | zeroRotationAxis
  | coincidentViewPoints
  | parallelUpVector
  -- scopes
  | unmatchedEnd (kind : ScopeKind)
  | crossedEnd (kind innermost : ScopeKind)
  | unclosedScope (kind : ScopeKind)
  | unclosedObject (name : Option String)
  | nestedObject (name within : String)
  | nestedInstance (name within : String)
  -- names
  | undefinedName (thing : Named) (name : String)
  | duplicateName (thing : Named) (name : String)
  | duplicateTexture (type name : String)
  -- files
  | unreadableRoot (path : Path) (cause : ReadFault)
  | unreadableFile (path : Path) (cause : ReadFault)
  | tooDeep (limit : Nat) (path : Path)
  | recursiveFile (path : Path)
  -- what breaks off the reading of a scene
  | readingBrokeOff (cause : ReadFault)
  /-- It cannot be told whether the file is open already. -/
  | resolvingBrokeOff (path : Path) (cause : ResolveFault)
  | infiniteAngle
  | singularMatrix
  | noOpenScope
  deriving DecidableEq

/-- The classes of faults.  All but the last are findings about the scene, and reported with their place in it. -/
inductive FaultKind
  | lexical
  | unknownType
  | arityMismatch
  | malformedValue
  | unknownDirective
  | wrongPhase
  | unbalancedScope
  | nestedObject
  | undefinedName
  | duplicateName
  | unexpectedToken
  | invalidArgument
  | file
  | breakdown
  deriving DecidableEq

namespace Fault

def kind : Fault → FaultKind
  | unterminatedString | unexpectedCharacter _ | malformedNumber _ => .lexical
  | unknownType _ => .unknownType
  | arityMismatch .. | namedSpectrumCount .. => .arityMismatch
  | expectedDeclaration | malformedDeclaration _ | missingValue _ | strayBracket _ | unclosedBracket _
  | misplacedInValue .. | unconvertible .. => .malformedValue
  | unknownDirective _ => .unknownDirective
  | beforeWorld _ | afterWorldBegin _ => .wrongPhase
  | unmatchedEnd _ | crossedEnd .. | unclosedScope _ | unclosedObject _ => .unbalancedScope
  | nestedObject .. | nestedInstance .. => .nestedObject
  | undefinedName .. => .undefinedName
  | duplicateName .. | duplicateTexture .. => .duplicateName
  | expectedDirective _ | unexpectedOperand .. | unexpectedShutterTime => .unexpectedToken
  | unknownShutterTime _ | unknownOption _ | optionType .. | unknownRenderSpace _ | unknownAttributeTarget ..
  | unknownTextureType .. | missingTypeParameter .. | zeroRotationAxis | coincidentViewPoints | parallelUpVector =>
    .invalidArgument
  | unreadableRoot .. | unreadableFile .. | tooDeep .. | recursiveFile _ => .file
  | readingBrokeOff _ | resolvingBrokeOff .. | infiniteAngle | singularMatrix | noOpenScope => .breakdown

/-- Whether a fault is a finding about the scene. -/
def isFinding (f : Fault) : Bool :=
  f.kind ≠ .breakdown

/-- Puts a name between double quotes. -/
def quote (name : String) : String :=
  "\"" ++ name ++ "\""

def message : Fault → String
  | unterminatedString => "unterminated string"
  | unexpectedCharacter c => "unexpected character " ++ Quoted.text c.toString
  | malformedNumber lexeme => "malformed number '" ++ lexeme ++ "'"
  | expectedDeclaration => "expected a parameter declaration"
  | malformedDeclaration heading =>
    "malformed parameter declaration " ++ quote heading ++ ", expected \"<type> <name>\""
  | unknownType keyword => "unknown parameter type " ++ quote keyword
  | missingValue heading => "parameter " ++ quote heading ++ " has no value"
  | strayBracket heading => "unexpected ']' after " ++ quote heading
  | unclosedBracket heading => "missing ']' in value of " ++ quote heading
  | misplacedInValue found heading => "unexpected '" ++ found ++ "' in value of " ++ quote heading
  | unconvertible heading expected found =>
    "parameter " ++ quote heading ++ ": expected " ++ expected.describe ++ ", got " ++ found
  | arityMismatch heading keyword arity given =>
    "parameter " ++ quote heading ++ ": " ++ keyword ++ " requires a multiple of " ++ Nat.repr arity ++ " values, "
      ++ Nat.repr given ++ " given"
  | namedSpectrumCount heading given =>
    "parameter " ++ quote heading ++ ": a named spectrum takes exactly one string, " ++ Nat.repr given ++ " given"
  | expectedDirective found => "expected a directive, got " ++ found
  | unknownDirective name => "unknown directive " ++ quote name
  | beforeWorld directive => directive ++ " is not allowed before WorldBegin"
  | afterWorldBegin directive => directive ++ " is not allowed after WorldBegin"
  | unexpectedOperand directive expected found =>
    directive ++ ": expected " ++ expected.describe ++ ", got " ++ found.getD "end of file"
  | unexpectedShutterTime => "ActiveTransform: expected StartTime, EndTime or All"
  | unknownShutterTime name => "ActiveTransform: unknown argument " ++ quote name
  | unknownOption name => "unknown option " ++ quote name
  | optionType name expected given =>
    "option " ++ quote name ++ " must be of type " ++ expected.name ++ ", got " ++ given.name
  | unknownRenderSpace name => "unknown render coordinate system " ++ quote name
  | unknownAttributeTarget target known =>
    "Attribute: unknown target " ++ quote target ++ ", expected one of " ++ ", ".intercalate known
  | unknownTextureType texture type =>
    "Texture " ++ quote texture ++ ": type must be \"float\" or \"spectrum\", got " ++ quote type
  | missingTypeParameter directive name => directive ++ " " ++ quote name ++ ": missing \"string type\" parameter"
  | zeroRotationAxis => "Rotate axis must be non-zero"
  | coincidentViewPoints => "LookAt eye and look point must differ"
  | parallelUpVector => "LookAt up vector and viewing direction are parallel"
  | unmatchedEnd kind => kind.name ++ "End without matching " ++ kind.name ++ "Begin"
  | crossedEnd kind innermost => kind.name ++ "End does not match the open " ++ innermost.name ++ "Begin"
  | unclosedScope kind => kind.name ++ "Begin without matching " ++ kind.name ++ "End"
  | unclosedObject name => "ObjectBegin " ++ quote (name.getD "None") ++ " is never closed"
  | nestedObject name within => "ObjectBegin " ++ quote name ++ " inside the definition of " ++ quote within
  | nestedInstance name within => "ObjectInstance " ++ quote name ++ " inside the definition of " ++ quote within
  | undefinedName thing name => thing.describe ++ " " ++ quote name ++ " is not defined"
  | duplicateName thing name => thing.describe ++ " " ++ quote name ++ " redefined"
  | duplicateTexture type name => type ++ " texture " ++ quote name ++ " redefined"
  | unreadableRoot path cause => "cannot open scene file " ++ path.toText ++ ": " ++ cause.fullMessage path
  | unreadableFile path cause => "cannot open included file " ++ path.toText ++ ": " ++ cause.message
  | tooDeep limit path => "include depth exceeds " ++ Nat.repr limit ++ " opening " ++ path.toText
  | recursiveFile path => "recursive include of " ++ path.toText
  | readingBrokeOff cause => cause.message
  | resolvingBrokeOff _ cause => cause.message
  | infiniteAngle => "math domain error"
  | singularMatrix => "Singular matrix"
  | noOpenScope => "list index out of range"

/-- The path of a file that could not be opened. -/
def path? : Fault → Option Path
  | unreadableRoot path _ | unreadableFile path _ | tooDeep _ path | recursiveFile path => some path
  | _ => none

/-- The number of components that a value should have a multiple of, and the number that was given. -/
def arityAndGiven? : Fault → Option (Nat × Nat)
  | arityMismatch _ _ arity given => some (arity, given)
  | namedSpectrumCount _ given => some (1, given)
  | _ => none

end Fault

end SceneDescription
