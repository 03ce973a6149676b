import SceneDescription.Parameter.Value

/-!
# Parameter lists

A parameter list keeps every parameter in the order of declaration.  Names may repeat; looking up a name finds
its last parameter, so that a list put behind another one overrides it.
-/

namespace SceneDescription

structure Parameter where
  name : String
  value : Value
  deriving BEq

structure ParameterList where
  entries : List Parameter := []
  deriving BEq

namespace ParameterList

def empty : ParameterList := {}

def isEmpty (ps : ParameterList) : Bool :=
  ps.entries.isEmpty

/-- The names in order, with repetitions. -/
def names (ps : ParameterList) : List String :=
  ps.entries.map (·.name)

def contains (ps : ParameterList) (name : String) : Bool :=
  ps.entries.any (·.name = name)

/-- The value of the last parameter of a name. -/
def get? (ps : ParameterList) (name : String) : Option Value :=
  (ps.entries.reverse.find? (·.name = name)).map (·.value)

/-- The list with defaults in front of it, so that its own parameters override them. -/
def mergedOver (ps defaults : ParameterList) : ParameterList :=
  ⟨defaults.entries ++ ps.entries⟩

/-! ### Typed look-up

A parameter of another type is as good as none; it still hides earlier parameters of its name. -/

def floats? (ps : ParameterList) (name : String) : Option (List Float) :=
  match ps.get? name with
  | some (.reals .float values) => some values
  | _ => none

def float? (ps : ParameterList) (name : String) : Option Float :=
  (ps.floats? name).bind List.head?

def integers? (ps : ParameterList) (name : String) : Option (List Int) :=
  match ps.get? name with
  | some (.integers values) => some values
  | _ => none

def integer? (ps : ParameterList) (name : String) : Option Int :=
  (ps.integers? name).bind List.head?

def string? (ps : ParameterList) (name : String) : Option String :=
  match ps.get? name with
  | some (.texts .string values) => values.head?
  | _ => none

def bool? (ps : ParameterList) (name : String) : Option Bool :=
  match ps.get? name with
  | some (.flags values) => values.head?
  | _ => none

def texture? (ps : ParameterList) (name : String) : Option String :=
  match ps.get? name with
  | some (.texts .texture values) => values.head?
  | _ => none

/-- The first colour of a value. -/
def rgb? (ps : ParameterList) (name : String) : Option (List Float) :=
  match ps.get? name with
  | some (.reals .rgb values) => (chunks 3 values).head?
  | _ => none

def point3s? (ps : ParameterList) (name : String) : Option (List (List Float)) :=
  match ps.get? name with
  | some (.reals .point3 values) => some (chunks 3 values)
  | _ => none

end ParameterList

end SceneDescription
