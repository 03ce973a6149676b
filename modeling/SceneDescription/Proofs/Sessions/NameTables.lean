import SceneDescription.Proofs.Readers.Yields
import SceneDescription.Proofs.Sessions.Declared
import SceneDescription.Proofs.Stages.Names

/-!
# Tables of names

`NameTables` are dictionaries that are kept beside the lists of declarations: an event that declares something with a
name enters it, and a later entry takes the place of an earlier one.  In every session they agree with the look-ups in
the lists (`Session.Run.tables`), and the names in the lists are distinct (`Session.Run.wellNamed`), so each table is
exactly the map from names to declarations.  In particular every instance stands for one object, and the primitives of
a scene can be counted (`Declarations.primitiveCount_eq_ok`).
-/

namespace SceneDescription

/-- What has been declared under each name. -/
structure NameTables where
  materials : String → Option Material := fun _ => none
  textures : String × String → Option Texture := fun _ => none
  media : String → Option Medium := fun _ => none
  objects : String → Option ObjectDefinition := fun _ => none

namespace NameTables

/-- Enters a declaration, if it has a name. -/
def enter (t : NameTables) : Entity → NameTables
  | .material material =>
    match material.name with
    | some name => { t with materials := Function.update t.materials name (some material) }
    | none => t
  | .texture texture =>
    { t with textures := Function.update t.textures (texture.valueType, texture.name) (some texture) }
  | .medium medium => { t with media := Function.update t.media medium.name (some medium) }
  | _ => t

/-- Enters an object that has been completed. -/
def enterObject (t : NameTables) (object : ObjectDefinition) : NameTables :=
  { t with objects := Function.update t.objects object.name (some object) }

end NameTables

/-- The tables after an event. -/
def Moment.enter (t : NameTables) (m : Moment) : NameTables :=
  match m.declared?, m.completed? with
  | some e, _ => t.enter e
  | none, some object => t.enterObject object
  | none, none => t

/-- The tables that some events fill. -/
def tablesAlong (moments : List Moment) : NameTables :=
  moments.foldl Moment.enter {}

/-- The look-ups by name. -/
def Declarations.tables (d : Declarations) : NameTables where
  materials := d.material?
  textures := fun key => d.texture? key.1 key.2
  media := d.medium?
  objects := d.object?

/-! ### Tables and lists -/

section Look

variable {α κ : Type} [DecidableEq κ] {entries : List α} {test : κ → α → Bool} {k : κ} {a : α}

/-- A new entry at the end of a list is found under its key, if the key was free. -/
private theorem find?_concat (htest : ∀ k', test k' a ↔ k' = k) (hfree : entries.find? (test k) = none) :
    (fun k' => (entries ++ [a]).find? (test k')) =
      Function.update (fun k' => entries.find? (test k')) k (some a) := by
  funext k'
  rw [List.find?_append]
  by_cases hk : k' = k
  · subst hk
    have hself : test k' a = true := (htest k').2 rfl
    simp [hfree, hself]
  · have hother : test k' a = false := by
      rw [Bool.eq_false_iff]
      exact fun h => hk ((htest k').1 h)
    simp [hk, hother]

end Look

namespace Draft

variable {d d' : Draft} {e : Entity}

theorem Alike.tables (h : d.Alike d') : d'.tables = d.tables := by
  obtain ⟨_, _, _, _, _, rfl⟩ := h
  rfl

theorem Alike.admits_iff (h : d.Alike d') : d'.Admits e ↔ d.Admits e := by
  obtain ⟨_, _, _, _, _, rfl⟩ := h
  cases e <;> exact Iff.rfl

theorem tables_insert (h : d.Admits e) : (d.insert e).tables = d.tables.enter e := by
  cases e with
  | shape shape =>
    unfold insert addShape
    cases d.recording <;> rfl
  | material material =>
    cases hname : material.name with
    | none =>
      have hsame : (d.insert (.material material)).material? = d.material? := by
        funext name
        simp [insert, Declarations.material?, hname]
      simp only [NameTables.enter, hname]
      exact congrArg (fun materials => { d.tables with materials }) hsame
    | some name =>
      have htest (other : String) : decide (material.name = some other) ↔ other = name := by simp [hname, eq_comm]
      have hupdate : (d.insert (.material material)).material? = Function.update d.material? name (some material) :=
        find?_concat htest (h name hname)
      simp only [NameTables.enter, hname]
      exact congrArg (fun materials => { d.tables with materials }) hupdate
  | texture texture =>
    have htest (key : String × String) : (decide (texture.valueType = key.1) && decide (texture.name = key.2)) ↔
        key = (texture.valueType, texture.name) := by
      rw [Bool.and_eq_true, decide_eq_true_iff, decide_eq_true_iff, Prod.ext_iff]
      exact and_congr eq_comm eq_comm
    have hupdate : (d.insert (.texture texture)).tables.textures =
        Function.update d.tables.textures (texture.valueType, texture.name) (some texture) := find?_concat htest h
    exact congrArg (fun textures => { d.tables with textures }) hupdate
  | medium medium =>
    have htest (name : String) : decide (medium.name = name) ↔ name = medium.name := by simp [eq_comm]
    have hupdate : (d.insert (.medium medium)).medium? = Function.update d.medium? medium.name (some medium) :=
      find?_concat htest h
    exact congrArg (fun media => { d.tables with media }) hupdate
  | _ => rfl

/-- An object that has been completed again would take the place of the old one. -/
theorem tables_endObject (d : Draft) (name : String) (location : Option Location) :
    (d.endObject name location).tables =
      d.tables.enterObject { name, shapes := d.recording.getD [], location } := by
  have hupdate : (d.endObject name location).object? =
      Function.update d.object? name (some { name, shapes := d.recording.getD [], location }) := by
    funext other
    by_cases hother : other = name
    · subst hother
      simp [endObject, Declarations.object?]
    · simp [endObject, Declarations.object?, hother, Ne.symm hother]
  exact congrArg (fun objects => { d.tables with objects }) hupdate

end Draft

/-! ### Counting primitives -/

namespace Declarations

variable {d : Declarations}

/-- Every placement whose object is there has its object. -/
private theorem exists_placed (placements : List ObjectInstance)
    (h : ∀ placement ∈ placements, (d.object? placement.name).isSome) :
    ∃ placed, List.Forall₂ (fun placement object => d.object? placement.name = some object) placements placed := by
  induction placements with
  | nil => exact ⟨[], .nil⟩
  | cons placement rest ih =>
    obtain ⟨object, hobject⟩ := Option.isSome_iff_exists.1 (h placement (by simp))
    obtain ⟨placed, hplaced⟩ := ih fun other hother => h other (by simp [hother])
    exact ⟨object :: placed, .cons hobject hplaced⟩

/-- The number of primitives: each instance stands for the only object of its name. -/
theorem primitiveCount_eq_ok (hdistinct : d.Distinct)
    (hplaced : ∀ placement ∈ d.instances, (d.object? placement.name).isSome) :
    ∃ placed, List.Forall₂ (fun placement object => object ∈ d.objects ∧ object.name = placement.name ∧
        ∀ other ∈ d.objects, other.name = placement.name → other = object) d.instances placed ∧
      d.primitiveCount = .ok (d.shapes.length + (placed.map (·.shapes.length)).sum) := by
  obtain ⟨placed, hfound⟩ := exists_placed d.instances hplaced
  refine ⟨placed, hfound.imp ?_, ?_⟩
  · intro placement object hobject
    have hfind := hdistinct.indexes_object?.find_iff placement.name
    obtain ⟨hmem, hname⟩ := (hfind object).1 hobject
    refine ⟨hmem, Option.some.inj hname, ?_⟩
    intro other hother hsame
    have hother' := (hfind other).2 ⟨hother, by rw [hsame]⟩
    exact Option.some.inj (hother'.symm.trans hobject)
  · rw [List.sum_eq_foldl_nat]
    refine bind_pure_eq_ok.2 ⟨placed.map (·.shapes.length), mapM_eq_ok.2 ?_, rfl⟩
    rw [List.forall₂_map_right_iff]
    refine hfound.imp fun placement object hobject => ?_
    rw [hobject]

end Declarations

/-! ### Sessions -/

namespace Session

variable {s s' last : Session} {event : Event} {moments : List Moment}

private theorem Moves.tables [LinearAlgebra] (h : s.Moves event s') :
    s'.stage.draft.tables = Moment.enter s.stage.draft.tables ⟨s, event⟩ := by
  cases h with
  | leaves h =>
    rw [h.draft]
    rfl
  | @performs t c₁ c₂ keyword d _ h =>
    cases Stage.execute_drafts h.execute with
    | @declares new base hnew hadmits hbase hdraft =>
      have hdeclared : (Moment.mk s (.performed keyword d ⟨s.stream.source, t.line⟩)).declared? = some new := hnew
      rw [hdraft, Draft.tables_insert (hbase.admits_iff.2 hadmits), hbase.tables, Moment.enter, hdeclared]
    | records hd _ _ hdraft =>
      subst hd
      rw [hdraft]
      rfl
    | completes hd hrec hdraft =>
      subst hd
      rw [hdraft, Draft.tables_endObject]
      simp [Moment.enter, Moment.declared?, Event.entity?, Directive.entity?, Moment.completed?, hrec]
    | keeps hnone hbegin hend hbase =>
      have hdeclared : (Moment.mk s (.performed keyword d ⟨s.stream.source, t.line⟩)).declared? = none := hnone
      have hcompleted : (Moment.mk s (.performed keyword d ⟨s.stream.source, t.line⟩)).completed? = none := by
        unfold Moment.completed?
        split
        · rename_i hevent _
          cases hevent
          exact absurd rfl hend
        · rfl
      rw [hbase.tables, Moment.enter, hdeclared, hcompleted]

/-- The tables that the events of a run fill agree with the look-ups in the lists. -/
theorem Run.tables [LinearAlgebra] (h : Run s moments s') :
    s'.stage.draft.tables = moments.foldl Moment.enter s.stage.draft.tables := by
  induction h with
  | nil s => rfl
  | cons hstep _ ih => rw [ih, List.foldl_cons, (moves_of_step hstep).tables]

theorem Start.wellNamed (h : s.Start) : s.stage.WellNamed := by
  rw [h.stage]
  exact Stage.wellNamed_initial

private theorem Moves.wellNamed [LinearAlgebra] (hs : s.stage.WellNamed) (h : s.Moves event s') :
    s'.stage.WellNamed := by
  cases h with
  | performs h => exact Stage.execute_wellNamed h.execute hs
  | leaves h =>
    rcases h.stage with ⟨_, hstage⟩ | ⟨mark, _, hleave⟩
    · rwa [hstage]
    · obtain ⟨scopes, hrestore, hstage⟩ := bind_pure_eq_ok.1 hleave
      obtain ⟨_, _, _, _, _, _, rfl⟩ := ScopeStack.restore_eq_ok.1 hrestore
      rw [← hstage]
      exact ⟨hs.distinct, hs.pending, hs.placed⟩

theorem Run.wellNamed [LinearAlgebra] (h : Run s moments s') (hs : s.stage.WellNamed) : s'.stage.WellNamed :=
  h.invariant (P := fun s => s.stage.WellNamed) (fun _ _ _ hs hmoves => hmoves.wellNamed hs) hs

theorem Moves.textureTyped [LinearAlgebra] {texture : Texture} (h : s.Moves event s')
    (hdeclared : (Moment.mk s event).declared? = some (.texture texture)) :
    texture.valueType = "float" ∨ texture.valueType = "spectrum" := by
  cases h with
  | leaves h => cases hdeclared
  | @performs t c₁ c₂ keyword d _ h =>
    have hentity : d.entity? ⟨s.stream.source, t.line⟩ s.stage.active = some (.texture texture) := hdeclared
    have htyped : d.TextureTyped := textureTyped_readDirective _ _ _ _ h.read
    cases d with
    | texture name valueType textureClass params =>
      cases hentity
      exact htyped
    | makeNamedMaterial name params | makeNamedMedium name params =>
      obtain ⟨_, _, hother⟩ := Option.map_eq_some_iff.1 hentity
      cases hother
    | _ => cases hentity

end Session

end SceneDescription
