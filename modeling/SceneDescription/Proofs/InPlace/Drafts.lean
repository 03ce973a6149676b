import SceneDescription.Proofs.InPlace.Procedures
import SceneDescription.Proofs.Sessions.NameTables

/-!
# Drafts in place

An indexed draft keeps tables of names beside its lists, and its operations are procedures that change the tables and
the lists one after the other.  A name is looked up in its table before anything is changed, so every call is all or
nothing, even if the tables and the lists do not agree (`DraftCall.allOrNothing`).  Where they agree, they do so
afterwards, and a call does what the operation on drafts does (`DraftCall.run_carryOut`).
-/

namespace SceneDescription

/-- A draft with tables of names. -/
structure IndexedDraft extends Draft where
  names : NameTables := {}

/-- A draft with the tables that agree with it. -/
def Draft.indexed (d : Draft) : IndexedDraft where
  toDraft := d
  names := d.tables

/-- A change of a draft that declares nothing under a name that must be free. -/
inductive DraftEdit
  | warn (remark : Remark) (location : Option Location)
  | setCamera (camera : Camera)
  | putSetting (setting : Setting)
  | setOption (setting : RenderSetting)
  | setTransformTimes (times : Shutter Float)
  | addShape (shape : Shape)
  | addLight (light : LightSource)
  | addAreaLight (light : AreaLight)
  | addInstance (placement : ObjectInstance)
  | nameCoordinateSystem (name : String) (ctm : Shutter Matrix)

namespace DraftEdit

def apply (d : Draft) : DraftEdit → Draft
  | warn remark location => d.warn remark location
  | setCamera camera => d.setCamera camera
  | putSetting setting => d.putSetting setting
  | setOption setting => d.setOption setting
  | setTransformTimes times => d.setTransformTimes times
  | addShape shape => d.addShape shape
  | addLight light => d.addLight light
  | addAreaLight light => d.addAreaLight light
  | addInstance placement => d.addInstance placement
  | nameCoordinateSystem name ctm => d.nameCoordinateSystem name ctm

private theorem tables_apply (e : DraftEdit) (d : Draft) : (e.apply d).tables = d.tables := by
  cases e with
  | setCamera camera => exact (d.alike_warnRedefined _ _ _).tables
  | putSetting setting => exact (d.alike_putSetting setting).tables
  | addShape shape => exact Draft.tables_insert (e := .shape shape) trivial
  | _ => rfl

end DraftEdit

/-- What there can be under a name. -/
def Named.Kind : Named → Type
  | material => Material
  | medium => Medium
  | object => ObjectDefinition
  | coordinateSystem => Shutter Matrix

/-- The look-up by name among the things of a kind. -/
def Draft.find (d : Draft) : (thing : Named) → String → Except Fault thing.Kind
  | .material, name => d.material name
  | .medium, name => d.medium name
  | .object, name => d.object name
  | .coordinateSystem, name => d.coordinateSystem name

/-- The same look-up in the tables. -/
def IndexedDraft.find? (d : IndexedDraft) : (thing : Named) → String → Option thing.Kind
  | .material, name => d.names.materials name
  | .medium, name => d.names.media name
  | .object, name => d.names.objects name
  | .coordinateSystem, name => d.coordinateSystems.lookup name

namespace IndexedDraft.InPlace

open Procedure

variable {α : Type}

/-- Changes the draft and leaves the tables alone. -/
def change (f : Draft → Draft) : Procedure IndexedDraft Unit :=
  modify fun d => { d with toDraft := f d.toDraft }

/-- Changes the tables and leaves the draft alone. -/
def enter (f : NameTables → NameTables) : Procedure IndexedDraft Unit :=
  modify fun d => { d with names := f d.names }

/-- Fails if there is something already. -/
def demandFree (find : NameTables → Option α) (fault : Fault) : Procedure IndexedDraft Unit := do
  let d ← get
  demand (find d.names).isNone fault

/-- Declares an entity under a name that must be free: the table comes first, then the list. -/
def declare (find : NameTables → Option α) (fault : Fault) (e : Entity) : Procedure IndexedDraft Unit := do
  demandFree find fault
  enter (·.enter e)
  change (·.insert e)

def addMaterial (material : Material) : Procedure IndexedDraft Unit :=
  match material.name with
  | some name => declare (·.materials name) (.duplicateName .material name) (.material material)
  | none => change (·.insert (.material material))

def addTexture (texture : Texture) : Procedure IndexedDraft Unit :=
  declare (·.textures (texture.valueType, texture.name)) (.duplicateTexture texture.valueType texture.name)
    (.texture texture)

def addMedium (medium : Medium) : Procedure IndexedDraft Unit :=
  declare (·.media medium.name) (.duplicateName .medium medium.name) (.medium medium)

def beginObject (name : String) : Procedure IndexedDraft Unit := do
  demandFree (·.objects name) (.duplicateName .object name)
  change fun d => { d with recording := some [] }

def endObject (name : String) (location : Option Location) : Procedure IndexedDraft Unit := do
  let d ← get
  let object : ObjectDefinition := { name, shapes := d.recording.getD [], location }
  change fun d => { d with recording := none }
  enter (·.enterObject object)
  change fun d => { d with objects := d.objects ++ [object] }

/-- Gives what there is under a name, or fails. -/
def find (thing : Named) (name : String) : Procedure IndexedDraft thing.Kind := do
  match (← get).find? thing name with
  | some found => pure found
  | none => throw (.undefinedName thing name)

/-! ### All or nothing -/

private theorem looksOnly_demandFree (find : NameTables → Option α) (fault : Fault) :
    (demandFree find fault).LooksOnly :=
  looksOnly_get.bind fun _ => looksOnly_demand _ _

private theorem neverFails_change (f : Draft → Draft) : (change f).NeverFails :=
  neverFails_modify _

private theorem neverFails_enter (f : NameTables → NameTables) : (enter f).NeverFails :=
  neverFails_modify _

/-- Once the name is found to be free, neither the table nor the list can refuse the entity. -/
private theorem allOrNothing_declare (find : NameTables → Option α) (fault : Fault) (e : Entity) :
    (declare find fault e).AllOrNothing :=
  (looksOnly_demandFree find fault).bind_allOrNothing fun _ =>
    ((neverFails_enter _).bind fun _ => neverFails_change _).allOrNothing

private theorem allOrNothing_addMaterial (material : Material) : (addMaterial material).AllOrNothing := by
  unfold addMaterial
  cases material.name with
  | some name => exact allOrNothing_declare _ _ _
  | none => exact (neverFails_change _).allOrNothing

private theorem allOrNothing_beginObject (name : String) : (beginObject name).AllOrNothing :=
  (looksOnly_demandFree _ _).bind_allOrNothing fun _ => (neverFails_change _).allOrNothing

private theorem neverFails_endObject (name : String) (location : Option Location) :
    (endObject name location).NeverFails :=
  neverFails_get.bind fun _ =>
    (neverFails_change _).bind fun _ => (neverFails_enter _).bind fun _ => neverFails_change _

private theorem looksOnly_find (thing : Named) (name : String) : (find thing name).LooksOnly := by
  refine looksOnly_get.bind fun d => ?_
  cases d.find? thing name with
  | some found => exact looksOnly_pure found
  | none => exact looksOnly_throw _

end IndexedDraft.InPlace

/-- A call on a draft. -/
inductive DraftCall
  | edit (e : DraftEdit)
  | addMaterial (material : Material)
  | addTexture (texture : Texture)
  | addMedium (medium : Medium)
  | beginObject (name : String)
  | endObject (name : String) (location : Option Location)
  | find (thing : Named) (name : String)
  /-- Asks for anything that can be seen of the draft and the tables. -/
  | look

namespace DraftCall

open Procedure IndexedDraft

/-- What a call gives. -/
def Result : DraftCall → Type
  | find thing _ => thing.Kind
  | look => Draft × NameTables
  | _ => Unit

/-- A call in place. -/
def carryOut : (c : DraftCall) → Procedure IndexedDraft c.Result
  | edit e => InPlace.change fun d => e.apply d
  | addMaterial material => InPlace.addMaterial material
  | addTexture texture => InPlace.addTexture texture
  | addMedium medium => InPlace.addMedium medium
  | beginObject name => InPlace.beginObject name
  | endObject name location => InPlace.endObject name location
  | find thing name => InPlace.find thing name
  | look => do
    let d ← get
    return (d.toDraft, d.names)

/-- The operation on drafts that belongs to a call. -/
def step : (c : DraftCall) → Draft → Except Fault (c.Result × Draft)
  | edit e, d => .ok ((), e.apply d)
  | addMaterial material, d => (d.addMaterial material).map ((), ·)
  | addTexture texture, d => (d.addTexture texture).map ((), ·)
  | addMedium medium, d => (d.addMedium medium).map ((), ·)
  | beginObject name, d => (d.beginObject name).map ((), ·)
  | endObject name location, d => .ok ((), d.endObject name location)
  | find thing name, d => (d.find thing name).map (·, d)
  | look, d => .ok ((d, d.tables), d)

theorem allOrNothing (c : DraftCall) : c.carryOut.AllOrNothing := by
  cases c with
  | edit e => exact (InPlace.neverFails_change fun d => e.apply d).allOrNothing
  | addMaterial material => exact InPlace.allOrNothing_addMaterial material
  | addTexture _ | addMedium _ => exact InPlace.allOrNothing_declare _ _ _
  | beginObject name => exact InPlace.allOrNothing_beginObject name
  | endObject name location => exact (InPlace.neverFails_endObject name location).allOrNothing
  | find thing name => exact (InPlace.looksOnly_find thing name).allOrNothing
  | look => exact (looksOnly_get.bind fun _ => looksOnly_pure _).allOrNothing

end DraftCall

/-! ### Agreement -/

namespace IndexedDraft.InPlace

open Procedure

variable {α : Type} (d : Draft)

/-- What an operation on drafts leaves of an indexed draft. -/
def settledIndexed (d : Draft) (result : Except Fault (α × Draft)) : EStateM.Result Fault IndexedDraft α :=
  settled d.indexed (result.map fun (a, d') => (a, d'.indexed))

private theorem run_demandFree (find : NameTables → Option α) (fault : Fault) (d : IndexedDraft) :
    (demandFree find fault).run d = if (find d.names).isNone then .ok () d else .error fault d := by
  simp only [demandFree, EStateM.run_bind, EStateM.run_get, run_demand]

private theorem run_change_indexed {f : Draft → Draft} (h : (f d).tables = d.tables) :
    (change f).run d.indexed = .ok () (f d).indexed := by
  rw [Draft.indexed, Draft.indexed, h]
  rfl

/-- A declaration grows the tables as the look-ups in the lists grow. -/
private theorem run_declare_indexed {find : NameTables → Option α} (found : Option α) (hfind : find d.tables = found)
    (fault : Fault) {e : Entity} (hadmits : found = none → d.Admits e) :
    (declare find fault e).run d.indexed =
      settledIndexed d ((if found.isSome then Except.error fault else .ok (d.insert e)).map ((), ·)) := by
  have hnames : d.indexed.names = d.tables := rfl
  rw [declare, EStateM.run_bind, run_demandFree, hnames, hfind]
  cases found with
  | some a => rfl
  | none =>
    -- The name is free, so the new table is that of the new list.
    have hindexed : (d.insert e).indexed = { toDraft := d.insert e, names := d.tables.enter e } :=
      congrArg (IndexedDraft.mk (d.insert e)) (Draft.tables_insert (hadmits rfl))
    exact congrArg (EStateM.Result.ok ()) hindexed.symm

private theorem run_addMaterial_indexed (material : Material) :
    (addMaterial material).run d.indexed = settledIndexed d ((d.addMaterial material).map ((), ·)) := by
  unfold addMaterial Draft.addMaterial
  cases hname : material.name with
  | none =>
    refine run_change_indexed d ?_
    have hadmits : d.Admits (.material material) := by simp [Draft.Admits, hname]
    rw [Draft.tables_insert hadmits, NameTables.enter, hname]
  | some name =>
    have hadmits (hfree : d.material? name = none) : d.Admits (.material material) := by
      rintro other hother
      rw [hname, Option.some.injEq] at hother
      rwa [← hother]
    exact run_declare_indexed d (d.material? name) rfl _ hadmits

private theorem run_beginObject_indexed (name : String) :
    (beginObject name).run d.indexed = settledIndexed d ((d.beginObject name).map ((), ·)) := by
  have hfind : d.indexed.names.objects name = d.object? name := rfl
  unfold beginObject Draft.beginObject
  rw [EStateM.run_bind, run_demandFree, hfind]
  cases d.object? name <;> rfl

private theorem run_endObject_indexed (name : String) (location : Option Location) :
    (endObject name location).run d.indexed = .ok () (d.endObject name location).indexed :=
  congrArg (EStateM.Result.ok ()) (congrArg (IndexedDraft.mk _) (d.tables_endObject name location)).symm

private theorem run_find_indexed (thing : Named) (name : String) :
    (find thing name).run d.indexed = settledIndexed d ((d.find thing name).map (·, d)) := by
  have hdefined : d.find thing name = Draft.defined thing name (d.indexed.find? thing name) := by
    cases thing <;> rfl
  rw [find, EStateM.run_bind, EStateM.run_get, hdefined]
  dsimp only
  cases d.indexed.find? thing name <;> rfl

end IndexedDraft.InPlace

/-- On a draft with the tables that agree with it, a call comes to the same as the operation as a whole. -/
theorem DraftCall.run_carryOut (c : DraftCall) (d : Draft) :
    c.carryOut.run d.indexed = IndexedDraft.InPlace.settledIndexed d (c.step d) := by
  cases c with
  | edit e => exact IndexedDraft.InPlace.run_change_indexed d (f := fun d => e.apply d) (e.tables_apply d)
  | addMaterial material => exact IndexedDraft.InPlace.run_addMaterial_indexed d material
  | addTexture texture => exact IndexedDraft.InPlace.run_declare_indexed d (d.texture? _ _) rfl _ id
  | addMedium medium => exact IndexedDraft.InPlace.run_declare_indexed d (d.medium? _) rfl _ id
  | beginObject name => exact IndexedDraft.InPlace.run_beginObject_indexed d name
  | endObject name location => exact IndexedDraft.InPlace.run_endObject_indexed d name location
  | find thing name => exact IndexedDraft.InPlace.run_find_indexed d thing name
  | look => rfl

end SceneDescription
