import Mathlib.Data.List.Induction
import SceneDescription.Graphics.State
import SceneDescription.Transform.Elimination

/-!
# Looking up and merging

A name stands for its last parameter (`ParameterList.get?_eq_some_iff`), which is also what is found in a dictionary
that is filled in the order of declaration (`ParameterList.lookup_index`).  So in a merged list the names of the
explicit parameters hide those of the defaults (`ParameterList.get?_mergedOver`), and a typed look-up, which sees no
more than the value found under the name (`Getter.get_eq`), does not get past an explicit parameter of another type.
The defaults of a graphics state grow by what is added for their kind of entity, in the order of the additions
(`GraphicsState.defaults_foldl`).
-/

namespace SceneDescription

namespace ParameterList

variable {ps defaults : ParameterList} {name : String} {v : Value}

/-- The value under a name is that of its last parameter. -/
def IsLast (ps : ParameterList) (name : String) (v : Value) : Prop :=
  ∃ before p behind, ps.entries = before ++ p :: behind ∧ p.name = name ∧ p.value = v ∧ ∀ q ∈ behind, q.name ≠ name

/-- The dictionary of the parameters: a later parameter takes the place of an earlier one of its name. -/
def index (ps : ParameterList) : List (String × Parameter) :=
  ps.entries.foldl (fun index p => setEntry p.name p index) []

/-! ### Looking up -/

theorem get?_eq_some_iff : ps.get? name = some v ↔ ps.IsLast name v := by
  unfold get?
  rw [Option.map_eq_some_iff]
  constructor
  · rintro ⟨p, hfind, hvalue⟩
    obtain ⟨hname, behind, before, hentries, hbehind⟩ := List.find?_eq_some_iff_append.1 hfind
    refine ⟨before.reverse, p, behind.reverse, ?_, of_decide_eq_true hname, hvalue, by simpa using hbehind⟩
    rw [← List.reverse_reverse ps.entries, hentries]
    simp
  · rintro ⟨before, p, behind, hentries, hname, hvalue, hbehind⟩
    refine ⟨p, List.find?_eq_some_iff_append.2 ⟨decide_eq_true hname, behind.reverse, before.reverse, ?_, ?_⟩, hvalue⟩
    · simp [hentries]
    · simpa using hbehind

theorem get?_eq_none_iff : ps.get? name = none ↔ name ∉ ps.names := by
  simp [get?, names]

theorem contains_iff : ps.contains name = true ↔ name ∈ ps.names := by
  simp [contains, names]

/-- The dictionary has the last parameter of each name. -/
theorem lookup_index (ps : ParameterList) (name : String) :
    ps.index.lookup name = ps.entries.reverse.find? (·.name = name) := by
  obtain ⟨entries⟩ := ps
  -- From the end, where the dictionary is filled last and the search begins.
  induction entries using List.reverseRecOn with
  | nil => rfl
  | append_singleton entries p ih =>
    have hlast : index ⟨entries ++ [p]⟩ = setEntry p.name p (index ⟨entries⟩) := by simp [index]
    rw [hlast, lookup_setEntry, ih, List.reverse_concat, List.find?_cons]
    by_cases hname : p.name = name
    · simp [hname]
    · simp [hname, Ne.symm hname]

private theorem isSome_lookup_index (ps : ParameterList) (name : String) :
    (ps.index.lookup name).isSome = ps.contains name := by
  rw [lookup_index, Bool.eq_iff_iff, List.find?_isSome]
  simp [contains]

/-! ### Merging -/

/-- The explicit parameters hide the defaults of their names. -/
theorem get?_mergedOver (ps defaults : ParameterList) (name : String) :
    (ps.mergedOver defaults).get? name = if name ∈ ps.names then ps.get? name else defaults.get? name := by
  have hor : (ps.mergedOver defaults).get? name = (ps.get? name).or (defaults.get? name) := by
    simp [get?, mergedOver, List.find?_append, Option.map_or]
  rw [hor]
  split
  · rename_i hmem
    have hsome : ps.get? name ≠ none := fun hnone => get?_eq_none_iff.1 hnone hmem
    obtain ⟨v, hv⟩ := Option.ne_none_iff_exists'.1 hsome
    rw [hv, Option.some_or]
  · rename_i hmem
    rw [get?_eq_none_iff.2 hmem, Option.none_or]

theorem mergedOver_assoc (a b c : ParameterList) :
    a.mergedOver (b.mergedOver c) = (a.mergedOver b).mergedOver c :=
  congrArg ParameterList.mk (List.append_assoc ..)

theorem mergedOver_empty (ps : ParameterList) : ps.mergedOver .empty = ps := rfl

theorem empty_mergedOver (ps : ParameterList) : empty.mergedOver ps = ps :=
  congrArg ParameterList.mk (List.append_nil _)

/-- Without defaults there is nothing to be merged. -/
theorem mergedOver_of_isEmpty (h : defaults.isEmpty) : ps.mergedOver defaults = ps := by
  have hnil : defaults = .empty := congrArg ParameterList.mk (List.isEmpty_iff.1 h)
  rw [hnil, mergedOver_empty]

end ParameterList

/-! ### Typed look-up -/

/-- The typed look-ups. -/
inductive Getter
  | floats
  | float
  | integers
  | integer
  | string
  | bool
  | texture
  | rgb
  | point3s

namespace Getter

variable {g : Getter} {ps defaults : ParameterList} {name : String} {v : Value}

def Result : Getter → Type
  | floats => List Float
  | float => Float
  | integers => List Int
  | integer => Int
  | string | texture => String
  | bool => Bool
  | rgb => List Float
  | point3s => List (List Float)

/-- The type that is looked for. -/
def type : Getter → ParameterType
  | floats | float => .real .float
  | integers | integer => .integer
  | string => .text .string
  | bool => .bool
  | texture => .text .texture
  | rgb => .real .rgb
  | point3s => .real .point3

def get : (g : Getter) → ParameterList → String → Option g.Result
  | floats, ps, name => ps.floats? name
  | float, ps, name => ps.float? name
  | integers, ps, name => ps.integers? name
  | integer, ps, name => ps.integer? name
  | string, ps, name => ps.string? name
  | bool, ps, name => ps.bool? name
  | texture, ps, name => ps.texture? name
  | rgb, ps, name => ps.rgb? name
  | point3s, ps, name => ps.point3s? name

/-- What a typed look-up makes of the value that it finds. -/
def read : (g : Getter) → Value → Option g.Result
  | floats, .reals .float values => some values
  | float, .reals .float values => values.head?
  | integers, .integers values => some values
  | integer, .integers values => values.head?
  | string, .texts .string values => values.head?
  | bool, .flags values => values.head?
  | texture, .texts .texture values => values.head?
  | rgb, .reals .rgb values => (chunks 3 values).head?
  | point3s, .reals .point3 values => some (chunks 3 values)
  | _, _ => none

private theorem read_eq_none (h : v.type ≠ g.type) : g.read v = none := by
  cases v with
  | integers values | flags values => cases g <;> first | rfl | exact absurd rfl h
  | reals type values | texts type values => cases type <;> cases g <;> first | rfl | exact absurd rfl h

/-- A typed look-up sees no more of a list than the value under the name. -/
theorem get_eq (g : Getter) (ps : ParameterList) (name : String) : g.get ps name = (ps.get? name).bind g.read := by
  cases g <;> simp only [get, ParameterList.float?, ParameterList.floats?, ParameterList.integer?,
    ParameterList.integers?, ParameterList.string?, ParameterList.bool?, ParameterList.texture?, ParameterList.rgb?,
    ParameterList.point3s?]
  -- Each of them asks which value is found, and of what type.
  all_goals
    cases ps.get? name with
    | none => rfl
    | some v =>
      cases v with
      | integers values | flags values => rfl
      | reals type values | texts type values => cases type <;> rfl

/-- An explicit parameter hides the defaults of its name. -/
theorem get_mergedOver (g : Getter) (h : name ∈ ps.names) : g.get (ps.mergedOver defaults) name = g.get ps name := by
  rw [g.get_eq, g.get_eq, ParameterList.get?_mergedOver, if_pos h]

/-- An explicit parameter of another type gives nothing, and hides the defaults all the same. -/
theorem get_mergedOver_eq_none (h : ps.IsLast name v) (htype : v.type ≠ g.type) :
    g.get (ps.mergedOver defaults) name = none := by
  have hv : ps.get? name = some v := ParameterList.get?_eq_some_iff.2 h
  have hmem : name ∈ ps.names := by
    by_contra hnot
    rw [ParameterList.get?_eq_none_iff.2 hnot] at hv
    cases hv
  rw [g.get_mergedOver hmem, g.get_eq, hv, Option.bind_some, read_eq_none htype]

end Getter

/-! ### Defaults -/

/-- What an edit adds to the defaults for a kind of entity. -/
def Edit.defaultsFor (target : String) : Edit → List Parameter
  | addDefaults other params => if target = other then params.entries else []
  | _ => []

namespace GraphicsState

private theorem defaults_apply [LinearAlgebra] (s : GraphicsState) (e : Edit) (target : String) :
    ((e.apply s).defaults target).entries = (s.defaults target).entries ++ e.defaultsFor target := by
  cases e with
  | addDefaults other params =>
    rw [Edit.apply, defaults, lookup_setEntry, Edit.defaultsFor]
    split
    · rename_i htarget
      rw [htarget, Option.getD_some, ParameterList.mergedOver]
    · exact (List.append_nil _).symm
  | _ => exact (List.append_nil _).symm

/-- Edits add to the defaults in their order, and none takes anything away. -/
theorem defaults_foldl [LinearAlgebra] (s : GraphicsState) (edits : List Edit) (target : String) :
    ((edits.foldl Edit.apply s).defaults target).entries =
      (s.defaults target).entries ++ edits.flatMap (Edit.defaultsFor target) := by
  induction edits generalizing s with
  | nil => exact (List.append_nil _).symm
  | cons e edits ih => rw [List.foldl_cons, ih, defaults_apply, List.flatMap_cons, List.append_assoc]

end GraphicsState

namespace ParameterList

/-- Look-up finds the last parameter of a name, in the list as well as in the dictionary; merging keeps all parameters,
those of the defaults first; explicit parameters hide the defaults of their names, also from a typed look-up for another
type; and the defaults of a graphics state are those that have been added, in the order of the additions. -/
theorem lookup_and_merging [LinearAlgebra] (a b c : ParameterList) (name : String) (v : Value) (g : Getter)
    (s : GraphicsState) (edits : List Edit) (target : String) :
    ((a.get? name = some v ↔ a.IsLast name v) ∧ (a.get? name = none ↔ name ∉ a.names) ∧
      (a.contains name = true ↔ name ∈ a.names)) ∧
    ((a.index.lookup name).map (·.value) = a.get? name ∧ (a.index.lookup name).isSome = a.contains name) ∧
    ((a.mergedOver b).entries = b.entries ++ a.entries ∧ (b.isEmpty → a.mergedOver b = a)) ∧
    (a.mergedOver b).get? name = (if name ∈ a.names then a.get? name else b.get? name) ∧
    a.mergedOver (b.mergedOver c) = (a.mergedOver b).mergedOver c ∧
    (a.mergedOver .empty = a ∧ empty.mergedOver a = a) ∧
    (g.get a name = (a.get? name).bind g.read ∧ (name ∈ a.names → g.get (a.mergedOver b) name = g.get a name) ∧
      (a.IsLast name v → v.type ≠ g.type → g.get (a.mergedOver b) name = none)) ∧
    (((edits.foldl Edit.apply {}).defaults target).entries = edits.flatMap (Edit.defaultsFor target) ∧
      ((edits.foldl Edit.apply s).defaults target).entries =
        (s.defaults target).entries ++ edits.flatMap (Edit.defaultsFor target)) := by
  have hindex : (a.index.lookup name).map (·.value) = a.get? name := by rw [lookup_index, get?]
  exact ⟨⟨get?_eq_some_iff, get?_eq_none_iff, contains_iff⟩, ⟨hindex, isSome_lookup_index a name⟩,
    ⟨rfl, mergedOver_of_isEmpty⟩, get?_mergedOver a b name, mergedOver_assoc a b c,
    ⟨mergedOver_empty a, empty_mergedOver a⟩,
    ⟨g.get_eq a name, g.get_mergedOver, Getter.get_mergedOver_eq_none⟩,
    ⟨GraphicsState.defaults_foldl {} edits target, GraphicsState.defaults_foldl s edits target⟩⟩

attribute [local instance] LinearAlgebra.stepwise

/-- The default of a text is hidden by an integer, and two additions for shapes are one list. -/
theorem integer_hides_text :
    let explicit : ParameterList := ⟨[⟨"emission", .integers [1]⟩, ⟨"emission", .integers [2]⟩]⟩
    let defaults : ParameterList := ⟨[⟨"emission", .texts .string ["none"]⟩, ⟨"radius", .integers [5]⟩]⟩
    let edits : List Edit := [.addDefaults "shape" defaults, .addDefaults "light" explicit, .reverse,
      .addDefaults "shape" explicit]
    defaults.string? "emission" = some "none" ∧ (explicit.mergedOver defaults).string? "emission" = none ∧
      (explicit.mergedOver defaults).integer? "emission" = some 2 ∧
      ((edits.foldl Edit.apply {}).defaults "shape").names = ["emission", "radius", "emission", "emission"] := by
  intro explicit defaults edits
  have hlast : explicit.IsLast "emission" (.integers [2]) :=
    ⟨[⟨"emission", .integers [1]⟩], _, [], rfl, rfl, rfl, by simp⟩
  obtain ⟨-, -, -, -, -, -, ⟨-, -, hhidden⟩, hadded, -⟩ :=
    lookup_and_merging explicit defaults .empty "emission" (.integers [2]) .string {} edits "shape"
  obtain ⟨-, -, -, -, -, -, ⟨-, hshown, -⟩, -⟩ :=
    lookup_and_merging explicit defaults .empty "emission" (.integers [2]) .integer {} edits "shape"
  have hmem : "emission" ∈ explicit.names := by decide
  have hown : explicit.integer? "emission" = some 2 := by decide +kernel
  refine ⟨by decide +kernel, hhidden hlast (by decide), (hshown hmem).trans hown, ?_⟩
  rw [names, hadded]
  decide +kernel

end ParameterList

end SceneDescription
