import SceneDescription.Decimal.Reading
import SceneDescription.Parameter.Type

/-!
# Parameter values

A value is a list of components, all of the primitive kind that its type asks for.  In a well-formed value their
number is a positive multiple of the type's arity, so they fall into groups.
-/

namespace SceneDescription

inductive Value
  | integers (values : List Int)
  | reals (type : RealType) (values : List Float)
  | flags (values : List Bool)
  | texts (type : TextType) (values : List String)

/-- A single component of a value. -/
inductive Component
  | integer (value : Int)
  | real (value : Float)
  | flag (value : Bool)
  | text (value : String)

/-- Cuts a list into groups of a given size; the last one may be shorter. -/
def chunks {α : Type} (size : Nat) (items : List α) : List (List α) :=
  if _h : items = [] ∨ size = 0 then []
  else items.take size :: chunks size (items.drop size)
termination_by items.length
decreasing_by
  simp only [not_or, ← List.length_eq_zero_iff] at _h
  simp only [List.length_drop]
  omega

/-- Why a value has no answer to a question about its numbers. -/
inductive ValueMisuse
  | noSpectrumPairs (type : ParameterType)
  | notNumeric (type : ParameterType)
  | integerTooLarge
  deriving DecidableEq

def ValueMisuse.message : ValueMisuse → String
  | noSpectrumPairs type => type.name ++ " value has no spectrum pairs"
  | notNumeric type => type.name ++ " value is not numeric"
  | integerTooLarge => "int too large to convert to float"

namespace Value

def type : Value → ParameterType
  | integers _ => .integer
  | reals type _ => .real type
  | flags _ => .bool
  | texts type _ => .text type

def components : Value → List Component
  | integers values => values.map .integer
  | reals _ values => values.map .real
  | flags values => values.map .flag
  | texts _ values => values.map .text

/-- The number of components in a group. -/
def arity (v : Value) : Nat :=
  v.type.arity

/-- The number of components. -/
def size (v : Value) : Nat :=
  v.components.length

/-- The number of groups. -/
def count (v : Value) : Nat :=
  v.size / v.arity

/-- The groups of components. -/
def grouped (v : Value) : List (List Component) :=
  chunks v.arity v.components

/-- A value as declarations produce it: not empty, without an incomplete group, and with one name if it is a named
spectrum. -/
def WellFormed (v : Value) : Prop :=
  0 < v.size ∧ v.size % v.arity = 0 ∧ (v.type = .text .namedSpectrum → v.size = 1)

/-- The pairs of wavelength and amplitude of a sampled spectrum. -/
def pairs : Value → Except ValueMisuse (List (List Component))
  | v@(reals .spectrum _) => .ok v.grouped
  | v => .error (.noSpectrumPairs v.type)

/-- The numbers of a value, in groups. -/
def numbers : Value → Except ValueMisuse (List (List Float))
  | integers values =>
    match values.mapM integerFloat? with
    | some floats => .ok (chunks 1 floats)
    | none => .error .integerTooLarge
  | reals type values => .ok (chunks type.arity values)
  | v => .error (.notNumeric v.type)

/-- Equality of type and components, where numbers are compared by value. -/
protected def beq : Value → Value → Bool
  | integers a, integers b => a == b
  | reals s a, reals t b => s == t && a == b
  | flags a, flags b => a == b
  | texts s a, texts t b => s == t && a == b
  | _, _ => false

instance : BEq Value := ⟨Value.beq⟩

end Value

end SceneDescription
