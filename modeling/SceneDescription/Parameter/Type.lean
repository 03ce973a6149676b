/-!
# Parameter types

The types that a parameter can be declared with, the number of components in one value of each, and the keywords
that name them.
-/

namespace SceneDescription

/-- The types whose components are numbers. -/
inductive RealType
  | float
  | point2
  | vector2
  | point3
  | vector3
  | normal3
  | rgb
  /-- Pairs of a wavelength and an amplitude. -/
  | spectrum
  | blackbody
  deriving DecidableEq

/-- The types whose components are texts. -/
inductive TextType
  | string
  | texture
  /-- The name of a spectrum. -/
  | namedSpectrum
  deriving DecidableEq

inductive ParameterType
  | integer
  | real (type : RealType)
  | bool
  | text (type : TextType)
  deriving DecidableEq

/-- The number of components in one value. -/
def RealType.arity : RealType → Nat
  | float | blackbody => 1
  | point2 | vector2 | spectrum => 2
  | point3 | vector3 | normal3 | rgb => 3

def RealType.name : RealType → String
  | float => "float"
  | point2 => "point2"
  | vector2 => "vector2"
  | point3 => "point3"
  | vector3 => "vector3"
  | normal3 => "normal3"
  | rgb => "rgb"
  | spectrum => "spectrum"
  | blackbody => "blackbody"

def TextType.name : TextType → String
  | string => "string"
  | texture => "texture"
  | namedSpectrum => "named_spectrum"

namespace ParameterType

/-- The number of components in one value; only numbers come in groups. -/
def arity : ParameterType → Nat
  | real type => type.arity
  | _ => 1

def name : ParameterType → String
  | integer => "integer"
  | real type => type.name
  | bool => "bool"
  | text type => type.name

/-- The type that a keyword names in a declaration.  A named spectrum has no keyword of its own: it is what
`spectrum` declares when a text follows. -/
def ofKeyword? : String → Option ParameterType
  | "integer" => some .integer
  | "float" => some (.real .float)
  | "point2" => some (.real .point2)
  | "vector2" => some (.real .vector2)
  | "point3" | "point" => some (.real .point3)
  | "vector3" | "vector" => some (.real .vector3)
  | "normal3" | "normal" => some (.real .normal3)
  | "rgb" | "color" => some (.real .rgb)
  | "spectrum" => some (.real .spectrum)
  | "blackbody" => some (.real .blackbody)
  | "bool" => some .bool
  | "string" => some (.text .string)
  | "texture" => some (.text .texture)
  | _ => none

end ParameterType

theorem RealType.arity_pos (t : RealType) : 0 < t.arity := by
  cases t <;> decide

theorem ParameterType.arity_pos (t : ParameterType) : 0 < t.arity := by
  cases t <;> simp [ParameterType.arity, RealType.arity_pos]

end SceneDescription
