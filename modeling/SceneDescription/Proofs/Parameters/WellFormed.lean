import SceneDescription.Parameter.ParameterList
import SceneDescription.Proofs.Results

/-!
# Well-formed values

A well-formed value falls into full groups: `Value.grouped` has as many of them as `Value.count` says, each of them is
complete, and together they are the value (`Value.WellFormed.grouped`).  A list of well-formed parameters has an
answer to every typed question about a parameter of that type (`ParameterList.WellFormed.answers`).
-/

namespace SceneDescription

/-! ### Groups -/

section Groups

variable {α β : Type} {size : Nat}

private theorem chunks_of_ne_nil {items : List α} (hsize : 0 < size) (hitems : items ≠ []) :
    chunks size items = items.take size :: chunks size (items.drop size) := by
  have hneither : ¬ (items = [] ∨ size = 0) := by
    simp only [hitems, false_or]
    omega
  rw [chunks, dif_neg hneither]

private theorem flatten_chunks (hsize : 0 < size) (items : List α) : (chunks size items).flatten = items := by
  fun_induction chunks size items with
  | case1 items h =>
    have hnil : items = [] := h.resolve_right (by omega)
    simp [hnil]
  | case2 items h ih => rw [List.flatten_cons, ih, List.take_append_drop]

private theorem chunks_map (f : α → β) (items : List α) :
    chunks size (items.map f) = (chunks size items).map (List.map f) := by
  fun_induction chunks size items with
  | case1 items h =>
    have hneither : items.map f = [] ∨ size = 0 := h.imp_left fun hnil => by simp [hnil]
    rw [chunks, dif_pos hneither]
    rfl
  | case2 items h ih =>
    have hneither : ¬ (items.map f = [] ∨ size = 0) := by simpa using h
    rw [chunks, dif_neg hneither, List.map_cons, ← List.map_take, ← List.map_drop, ih]

/-- A list whose length is a multiple of the size falls into full groups. -/
private theorem full_chunks (hsize : 0 < size) {items : List α} (hmultiple : items.length % size = 0) :
    (chunks size items).length = items.length / size ∧ ∀ group ∈ chunks size items, group.length = size := by
  fun_induction chunks size items with
  | case1 items h =>
    have hnil : items = [] := h.resolve_right (by omega)
    simp [hnil]
  | case2 items h ih =>
    have hpos : 0 < items.length := List.length_pos_iff.2 fun hnil => h (.inl hnil)
    have hle : size ≤ items.length := Nat.le_of_dvd hpos (Nat.dvd_of_mod_eq_zero hmultiple)
    have hrest : (items.drop size).length % size = 0 := by
      rw [List.length_drop, ← Nat.mod_eq_sub_mod hle]
      exact hmultiple
    obtain ⟨hcount, hfull⟩ := ih hrest
    constructor
    · rw [List.length_cons, hcount, List.length_drop, Nat.div_eq_sub_div hsize hle]
    · intro group hgroup
      rcases List.mem_cons.1 hgroup with rfl | hlater
      · rw [List.length_take]
        omega
      · exact hfull group hlater

end Groups

/-! ### Values -/

/-- The primitive kinds of components. -/
inductive Primitive
  | integer
  | real
  | flag
  | text

/-- The primitive kind that the components of a type have. -/
def ParameterType.primitive : ParameterType → Primitive
  | integer => .integer
  | real _ => .real
  | bool => .flag
  | text _ => .text

def Component.primitive : Component → Primitive
  | integer _ => .integer
  | real _ => .real
  | flag _ => .flag
  | text _ => .text

namespace Value

variable {v : Value}

theorem primitive_of_mem_components {component : Component} (h : component ∈ v.components) :
    component.primitive = v.type.primitive := by
  cases v with
  | integers values | reals type values | flags values | texts type values =>
    obtain ⟨_, _, rfl⟩ := List.mem_map.1 h
    rfl

theorem WellFormed.exists_first (h : v.WellFormed) : ∃ first, v.components.head? = some first := by
  cases hcomponents : v.components with
  | nil =>
    have hsize := h.1
    rw [size, hcomponents] at hsize
    exact absurd hsize (Nat.lt_irrefl 0)
  | cons first others => exact ⟨first, rfl⟩

/-- The groups of a well-formed value are complete, and nothing of it is lost in them. -/
theorem WellFormed.grouped (h : v.WellFormed) :
    v.grouped.length = v.count ∧ (∀ group ∈ v.grouped, group.length = v.arity) ∧
      v.grouped.flatten = v.components := by
  have harity : 0 < v.arity := v.type.arity_pos
  obtain ⟨hcount, hfull⟩ := full_chunks harity h.2.1
  exact ⟨hcount, hfull, flatten_chunks harity v.components⟩

/-- The groups of numbers. -/
private theorem grouped_reals (type : RealType) (values : List Float) :
    (reals type values).grouped = (chunks type.arity values).map (·.map .real) :=
  chunks_map Component.real values

private theorem WellFormed.full_reals {type : RealType} {values : List Float} (h : (reals type values).WellFormed) :
    (chunks type.arity values).length = values.length / type.arity ∧
      ∀ group ∈ chunks type.arity values, group.length = type.arity := by
  have hmultiple := h.2.1
  rw [size, components, List.length_map] at hmultiple
  exact full_chunks type.arity_pos hmultiple

/-- A spectrum has pairs, and they make up the value. -/
theorem WellFormed.pairs (h : v.WellFormed) {groups : List (List Component)} (hpairs : v.pairs = .ok groups) :
    groups.length = v.count ∧ (∀ group ∈ groups, group.length = 2) ∧ groups.flatten = v.components := by
  unfold Value.pairs at hpairs
  split at hpairs
  · cases hpairs
    exact h.grouped
  · cases hpairs

private theorem length_of_mapM {α β : Type} {f : α → Option β} {items : List α} {results : List β}
    (h : items.mapM f = some results) : results.length = items.length := by
  induction items generalizing results with
  | nil =>
    cases h
    rfl
  | cons item items ih =>
    rw [List.mapM_cons] at h
    obtain ⟨first, _, hrest⟩ := Option.bind_eq_some_iff.1 h
    obtain ⟨rest, hitems, hresults⟩ := Option.bind_eq_some_iff.1 hrest
    cases hresults
    rw [List.length_cons, List.length_cons, ih hitems]

/-- The numbers of a value come in as many complete groups as it has. -/
theorem WellFormed.numbers (h : v.WellFormed) {groups : List (List Float)} (hnumbers : v.numbers = .ok groups) :
    groups.length = v.count ∧ ∀ group ∈ groups, group.length = v.arity := by
  cases v with
  | integers values =>
    cases hfloats : values.mapM integerFloat? with
    | none =>
      rw [Value.numbers, hfloats] at hnumbers
      cases hnumbers
    | some floats =>
      rw [Value.numbers, hfloats] at hnumbers
      cases hnumbers
      obtain ⟨hcount, hfull⟩ := full_chunks Nat.one_pos (Nat.mod_one floats.length)
      rw [length_of_mapM hfloats] at hcount
      have hsize : (integers values).count = values.length / 1 := by
        rw [count, size, components, List.length_map]
        rfl
      exact ⟨hcount.trans hsize.symm, hfull⟩
  | reals type values =>
    cases hnumbers
    obtain ⟨hcount, hfull⟩ := h.full_reals
    have hsize : (reals type values).count = values.length / type.arity := by
      rw [count, size, components, List.length_map]
      rfl
    exact ⟨hcount.trans hsize.symm, hfull⟩
  | flags values | texts type values => cases hnumbers

/-! A well-formed value of a type has a component of its kind. -/

private theorem WellFormed.exists_integers (h : v.WellFormed) (htype : v.type = .integer) :
    ∃ x xs, v = .integers (x :: xs) := by
  cases v with
  | integers values =>
    cases values with
    | nil => exact absurd h.1 (Nat.lt_irrefl 0)
    | cons x xs => exact ⟨x, xs, rfl⟩
  | _ => cases htype

private theorem WellFormed.exists_reals {type : RealType} (h : v.WellFormed) (htype : v.type = .real type) :
    ∃ x xs, v = .reals type (x :: xs) := by
  cases v with
  | reals type' values =>
    cases htype
    cases values with
    | nil => exact absurd h.1 (Nat.lt_irrefl 0)
    | cons x xs => exact ⟨x, xs, rfl⟩
  | _ => cases htype

private theorem WellFormed.exists_flags (h : v.WellFormed) (htype : v.type = .bool) : ∃ x xs, v = .flags (x :: xs) := by
  cases v with
  | flags values =>
    cases values with
    | nil => exact absurd h.1 (Nat.lt_irrefl 0)
    | cons x xs => exact ⟨x, xs, rfl⟩
  | _ => cases htype

private theorem WellFormed.exists_texts {type : TextType} (h : v.WellFormed) (htype : v.type = .text type) :
    ∃ x xs, v = .texts type (x :: xs) := by
  cases v with
  | texts type' values =>
    cases htype
    cases values with
    | nil => exact absurd h.1 (Nat.lt_irrefl 0)
    | cons x xs => exact ⟨x, xs, rfl⟩
  | _ => cases htype

end Value

/-! ### Lists -/

namespace ParameterList

variable {params defaults : ParameterList}

/-- All values of a list are well-formed. -/
def WellFormed (params : ParameterList) : Prop :=
  ∀ p ∈ params.entries, p.value.WellFormed

theorem wellFormed_empty : ParameterList.empty.WellFormed := by
  intro p hp
  cases hp

theorem WellFormed.mergedOver (h : params.WellFormed) (hdefaults : defaults.WellFormed) :
    (params.mergedOver defaults).WellFormed := by
  intro p hp
  rcases List.mem_append.1 hp with hdefault | hown
  · exact hdefaults p hdefault
  · exact h p hown

private theorem WellFormed.get? (h : params.WellFormed) {name : String} {v : Value} (hv : params.get? name = some v) :
    v.WellFormed := by
  obtain ⟨p, hp, rfl⟩ := Option.map_eq_some_iff.1 hv
  exact h p (List.mem_reverse.1 (List.mem_of_find?_eq_some hp))

/-- An answer to a question about the parameter of a name, which must be of a type: there is one that fits the value
if the parameter is of that type, and else there is none. -/
def Settles {α : Type} (params : ParameterList) (name : String) (type : ParameterType) (answer : Option α)
    (fits : Value → α → Prop) : Prop :=
  (∀ v, params.get? name = some v → v.type = type → ∃ a, answer = some a ∧ fits v a) ∧
    ((∀ v, params.get? name = some v → v.type ≠ type) → answer = none)

/-- The typed questions about the parameter of a name are settled: each has the first component, or all of them, or
the groups of three. -/
structure Answers (params : ParameterList) (name : String) : Prop where
  floats : params.Settles name (.real .float) (params.floats? name) fun v values =>
    values ≠ [] ∧ v.components = values.map .real
  float : params.Settles name (.real .float) (params.float? name) fun v value =>
    v.components.head? = some (.real value)
  integers : params.Settles name .integer (params.integers? name) fun v values =>
    values ≠ [] ∧ v.components = values.map .integer
  integer : params.Settles name .integer (params.integer? name) fun v value =>
    v.components.head? = some (.integer value)
  string : params.Settles name (.text .string) (params.string? name) fun v value =>
    v.components.head? = some (.text value)
  bool : params.Settles name .bool (params.bool? name) fun v value => v.components.head? = some (.flag value)
  texture : params.Settles name (.text .texture) (params.texture? name) fun v value =>
    v.components.head? = some (.text value)
  rgb : params.Settles name (.real .rgb) (params.rgb? name) fun v colour =>
    colour.length = 3 ∧ v.grouped.head? = some (colour.map .real)
  point3s : params.Settles name (.real .point3) (params.point3s? name) fun v points =>
    (∀ point ∈ points, point.length = 3) ∧ v.grouped = points.map (·.map .real)

theorem WellFormed.answers (h : params.WellFormed) (name : String) : params.Answers name where
  floats := by
    refine ⟨fun v hv htype => ?_, fun hother => ?_⟩
    · obtain ⟨x, xs, rfl⟩ := (h.get? hv).exists_reals htype
      exact ⟨x :: xs, by simp [floats?, hv], by simp, rfl⟩
    · grind [floats?, Value.type]
  float := by
    refine ⟨fun v hv htype => ?_, fun hother => ?_⟩
    · obtain ⟨x, xs, rfl⟩ := (h.get? hv).exists_reals htype
      exact ⟨x, by simp [float?, floats?, hv], rfl⟩
    · grind [float?, floats?, Value.type]
  integers := by
    refine ⟨fun v hv htype => ?_, fun hother => ?_⟩
    · obtain ⟨x, xs, rfl⟩ := (h.get? hv).exists_integers htype
      exact ⟨x :: xs, by simp [integers?, hv], by simp, rfl⟩
    · grind [integers?, Value.type]
  integer := by
    refine ⟨fun v hv htype => ?_, fun hother => ?_⟩
    · obtain ⟨x, xs, rfl⟩ := (h.get? hv).exists_integers htype
      exact ⟨x, by simp [integer?, integers?, hv], rfl⟩
    · grind [integer?, integers?, Value.type]
  string := by
    refine ⟨fun v hv htype => ?_, fun hother => ?_⟩
    · obtain ⟨x, xs, rfl⟩ := (h.get? hv).exists_texts htype
      exact ⟨x, by simp [string?, hv], rfl⟩
    · grind [string?, Value.type]
  bool := by
    refine ⟨fun v hv htype => ?_, fun hother => ?_⟩
    · obtain ⟨x, xs, rfl⟩ := (h.get? hv).exists_flags htype
      exact ⟨x, by simp [bool?, hv], rfl⟩
    · grind [bool?, Value.type]
  texture := by
    refine ⟨fun v hv htype => ?_, fun hother => ?_⟩
    · obtain ⟨x, xs, rfl⟩ := (h.get? hv).exists_texts htype
      exact ⟨x, by simp [texture?, hv], rfl⟩
    · grind [texture?, Value.type]
  rgb := by
    refine ⟨fun v hv htype => ?_, fun hother => ?_⟩
    · have hwf := h.get? hv
      obtain ⟨x, xs, rfl⟩ := hwf.exists_reals htype
      have hgroups := chunks_of_ne_nil RealType.rgb.arity_pos (List.cons_ne_nil x xs)
      have hanswer : params.rgb? name = (chunks RealType.rgb.arity (x :: xs)).head? := by
        simp [rgb?, hv, RealType.arity]
      rw [hgroups] at hanswer
      refine ⟨_, hanswer, hwf.full_reals.2 _ (hgroups ▸ List.mem_cons_self ..), ?_⟩
      rw [Value.grouped_reals, hgroups]
      rfl
    · grind [rgb?, Value.type]
  point3s := by
    refine ⟨fun v hv htype => ?_, fun hother => ?_⟩
    · have hwf := h.get? hv
      obtain ⟨x, xs, rfl⟩ := hwf.exists_reals htype
      exact ⟨chunks 3 (x :: xs), by simp [point3s?, hv], hwf.full_reals.2, Value.grouped_reals _ _⟩
    · grind [point3s?, Value.type]

end ParameterList

end SceneDescription
