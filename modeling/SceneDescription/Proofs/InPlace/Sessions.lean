import SceneDescription.Proofs.InPlace.Drafts
import SceneDescription.Transform.Elimination

/-!
# Sessions that work in place

A directive is carried out with calls on the draft (`Directive.draftCalls`), and these calls can be made on an indexed
draft, which grows its tables and its lists one after the other.  None of the calls of a session fails, and they lead to
the draft that the session has in the end, with the tables that agree with it (`Session.Run.lead`, `afterAll_of_lead`).
-/

namespace SceneDescription

/-! ### Calls that do not fail -/

/-- The calls lead from a draft to another one, and none of them fails. -/
inductive DraftCall.Lead : List DraftCall → Draft → Draft → Prop
  | nil (d : Draft) : Lead [] d d
  | cons {c : DraftCall} {calls : List DraftCall} {d d₁ d' : Draft} {result : c.Result}
      (hstep : c.step d = .ok (result, d₁)) (hrest : Lead calls d₁ d') : Lead (c :: calls) d d'

namespace DraftCall

variable {calls later : List DraftCall} {d d₁ d' : Draft}

private theorem Lead.single {c : DraftCall} {result : c.Result} (h : c.step d = .ok (result, d')) : Lead [c] d d' :=
  .cons h (.nil d')

private theorem Lead.edit (e : DraftEdit) (d : Draft) : Lead [.edit e] d (e.apply d) :=
  .single rfl

private theorem Lead.append (h : Lead calls d d₁) (hlater : Lead later d₁ d') : Lead (calls ++ later) d d' := by
  induction h with
  | nil d => exact hlater
  | cons hstep _ ih => exact .cons hstep (ih hlater)

/-- On an indexed draft, the calls do not fail either, and the tables grow with the lists. -/
theorem afterAll_of_lead (h : Lead calls d d') :
    afterAll carryOut d.indexed calls = d'.indexed ∧ ∀ entry ∈ transcript carryOut d.indexed calls, entry.2.isOk := by
  induction h with
  | nil d => exact ⟨rfl, by simp [transcript]⟩
  | @cons c calls d d₁ d' result hstep _ ih =>
    have hrun : c.carryOut.run d.indexed = .ok result d₁.indexed := by
      rw [run_carryOut, IndexedDraft.InPlace.settledIndexed, hstep]
      rfl
    have hafter : c.carryOut.after d.indexed = d₁.indexed := by rw [Procedure.after, hrun]
    have hanswer : c.carryOut.answer d.indexed = .ok result := by rw [Procedure.answer, hrun]
    rw [afterAll, List.foldl_cons, transcript, hafter, hanswer, List.forall_mem_cons]
    exact ⟨ih.1, rfl, ih.2⟩

end DraftCall

/-! ### Calls of directives -/

/-- The call that declares an entity. -/
def Entity.draftCall : Entity → DraftCall
  | camera new => .edit (.setCamera new)
  | shape new => .edit (.addShape new)
  | light new => .edit (.addLight new)
  | areaLight new => .edit (.addAreaLight new)
  | material new => .addMaterial new
  | texture new => .addTexture new
  | medium new => .addMedium new
  | placement new => .edit (.addInstance new)

/-- The calls on the draft with which a directive is carried out.  What it declares comes last, behind look-ups and
warnings. -/
def Directive.draftCalls (s : Stage) (location : Location) (d : Directive) : List DraftCall :=
  let declaration := (d.entity? location s.active).toList.map Entity.draftCall
  match d with
  | .option new => [.edit (.setOption new)]
  | .setting kind type params => [.edit (.putSetting { kind, type, params, location })]
  | .worldBegin => [.edit (.nameCoordinateSystem "world" (.both .identity))]
  | .coordinateSystem name => [.edit (.nameCoordinateSystem name s.active.ctm)]
  | .coordSysTransform name => [.find .coordinateSystem name]
  | .transformTimes times => [.edit (.setTransformTimes times)]
  | .objectBegin name => [.beginObject name]
  | .objectEnd => [.endObject (s.scopes.recording.getD "") location]
  | .namedMaterial name => [.find .material name]
  | .mediumInterface inside outside => ([inside, outside].filter (· ≠ "")).map (.find .medium)
  | .objectInstance name => .find .object name :: declaration
  | .areaLightSource _ _ =>
    (s.scopes.recording.map fun object => .edit (.warn (.areaLightInObject object) location)).toList ++ declaration
  | _ => declaration

namespace Stage

open DraftCall

variable {s s' : Stage} {location : Location} {d : Directive}

private theorem lead_find {thing : Named} {name : String} {draft : Draft} {found : thing.Kind}
    (h : draft.find thing name = .ok found) : Lead [.find thing name] draft draft :=
  have hstep : (DraftCall.find thing name).step draft = .ok (found, draft) := by
    rw [step, h]
    rfl
  .single hstep

private theorem lead_of_map {c : DraftCall} {draft draft' : Draft} {make : Draft → c.Result × Draft}
    {result : c.Result} {changed : Except Fault Draft} (hstep : c.step draft = changed.map make)
    (h : changed = .ok draft') (hmake : make draft' = (result, draft')) : Lead [c] draft draft' :=
  .single (by rw [hstep, h, Except.map, hmake])

/-- A medium is looked up if it has a name. -/
private theorem lead_mediumNamed {name : String} {found : Option String} (h : s.mediumNamed name = .ok found) :
    Lead (([name].filter (· ≠ "")).map (.find .medium)) s.draft s.draft := by
  unfold mediumNamed at h
  split at h
  · rename_i hname
    simpa [hname] using Lead.nil s.draft
  · rename_i hname
    obtain ⟨medium, hmedium, _⟩ := bind_pure_eq_ok.1 h
    have hlead : Lead [.find .medium name] s.draft s.draft := lead_find hmedium
    simpa [hname] using hlead

/-- The calls of a directive lead to the draft behind it. -/
theorem execute_lead [LinearAlgebra] (h : s.execute location d = .ok s') :
    Lead (d.draftCalls s location) s.draft s'.draft := by
  cases d with
  | camera _ _ | setting _ _ _ | option _ | worldBegin | coordinateSystem _ | transformTimes _ | lightSource _ _
  | shape _ _ =>
    cases h
    exact .single rfl
  | areaLightSource type params =>
    cases h
    unfold Directive.draftCalls areaLight
    cases s.scopes.recording with
    | none => exact .single rfl
    | some object => exact (Lead.edit _ _).append (.edit _ _)
  | coordSysTransform name =>
    obtain ⟨ctm, hctm, rfl⟩ := bind_pure_eq_ok.1 h
    exact lead_find hctm
  | namedMaterial name =>
    obtain ⟨material, hmaterial, rfl⟩ := bind_pure_eq_ok.1 h
    exact lead_find hmaterial
  | objectBegin name =>
    obtain ⟨scopes, _, h⟩ := bind_eq_ok.1 h
    obtain ⟨draft, hdraft, rfl⟩ := bind_pure_eq_ok.1 h
    exact lead_of_map rfl hdraft rfl
  | objectEnd =>
    obtain ⟨⟨name, scopes⟩, hend, rfl⟩ := bind_pure_eq_ok.1 h
    have hrec := (ScopeStack.endObject_eq_ok.1 hend).1
    simp only [Directive.draftCalls, hrec, Option.getD_some]
    exact .single rfl
  | objectInstance name =>
    simp only [execute, placeObject] at h
    split at h
    · cases h
    · obtain ⟨object, hobject, rfl⟩ := bind_pure_eq_ok.1 h
      have hlead : Lead [.find .object name] s.draft s.draft := lead_find hobject
      exact hlead.append (.single rfl)
  | material type params =>
    obtain ⟨draft, hdraft, rfl⟩ := bind_pure_eq_ok.1 h
    exact lead_of_map rfl hdraft rfl
  | texture name valueType textureClass params =>
    obtain ⟨draft, hdraft, rfl⟩ := bind_pure_eq_ok.1 h
    exact lead_of_map rfl hdraft rfl
  | makeNamedMaterial name params =>
    obtain ⟨type, htype, h⟩ := bind_eq_ok.1 h
    obtain ⟨draft, hdraft, rfl⟩ := bind_pure_eq_ok.1 h
    simp only [Directive.draftCalls, entity?_makeNamedMaterial htype]
    exact lead_of_map rfl hdraft rfl
  | makeNamedMedium name params =>
    obtain ⟨type, htype, h⟩ := bind_eq_ok.1 h
    obtain ⟨draft, hdraft, rfl⟩ := bind_pure_eq_ok.1 h
    simp only [Directive.draftCalls, entity?_makeNamedMedium htype]
    exact lead_of_map rfl hdraft rfl
  | mediumInterface inside outside =>
    obtain ⟨_, hinside, h⟩ := bind_eq_ok.1 h
    obtain ⟨_, houtside, rfl⟩ := bind_pure_eq_ok.1 h
    have hlead := (lead_mediumNamed hinside).append (lead_mediumNamed houtside)
    rwa [← List.map_append, ← List.filter_append] at hlead
  | attributeEnd | transformEnd | replaceTransform motion | composeTransform motion =>
    obtain ⟨_, _, rfl⟩ := bind_pure_eq_ok.1 h
    exact .nil _
  | _ =>
    cases h
    exact .nil _

end Stage

/-- The calls with which the directive of a moment is carried out. -/
def Moment.draftCalls (m : Moment) : List DraftCall :=
  match m.event with
  | .performed _ d location => d.draftCalls m.before.stage location
  | .left _ _ => []

namespace Session

variable {s s' last : Session} {event : Event} {moments : List Moment}

private theorem Moves.lead [LinearAlgebra] (h : s.Moves event s') :
    DraftCall.Lead (Moment.draftCalls ⟨s, event⟩) s.stage.draft s'.stage.draft := by
  cases h with
  | performs h => exact Stage.execute_lead h.execute
  | leaves h =>
    rw [h.draft]
    exact .nil _

/-- The calls of a run lead from the draft at its start to the one at its end. -/
theorem Run.lead [LinearAlgebra] (h : Run s moments s') :
    DraftCall.Lead (moments.flatMap Moment.draftCalls) s.stage.draft s'.stage.draft := by
  induction h with
  | nil s => exact .nil _
  | cons hstep _ ih => exact (moves_of_step hstep).lead.append ih

/-- All calls on the draft from the start to the end. -/
def draftCalls [LinearAlgebra] (s : Session) : List DraftCall :=
  s.moments.flatMap Moment.draftCalls

/-- In a session that finishes, the tables that the events have filled are the look-ups in the scene, each of them is
exactly the map from the names of a list to its entries, and no list has a name twice; textures are told apart by name
and type, and there are two types.  The calls with which the directives have been carried out fill the same lists and
tables in place, and none of them fails.  So the primitives can be counted, each instance by the only object of its
name. -/
theorem names_index_scene [LinearAlgebra] (hs : s.Start) (h : s.finish = .finished last) :
    last.scene.tables = tablesAlong s.moments ∧
    ((afterAll DraftCall.carryOut {} s.draftCalls).toDraft.scene = last.scene ∧
      (afterAll DraftCall.carryOut {} s.draftCalls).names = last.scene.tables ∧
      ∀ entry ∈ transcript DraftCall.carryOut {} s.draftCalls, entry.2.isOk) ∧
    Indexes (fun o => some o.name) last.scene.objects last.scene.object? ∧
    Indexes (fun m => some m.name) last.scene.media last.scene.medium? ∧
    Indexes (·.name) last.scene.materials last.scene.material? ∧
    Indexes (fun t => some (t.valueType, t.name)) last.scene.textures
      (fun key => last.scene.texture? key.1 key.2) ∧
    (∀ t ∈ last.scene.textures, t.valueType = "float" ∨ t.valueType = "spectrum") ∧
    ∃ placed, List.Forall₂ (fun placement object => object ∈ last.scene.objects ∧ object.name = placement.name ∧
        ∀ other ∈ last.scene.objects, other.name = placement.name → other = object) last.scene.instances placed ∧
      last.scene.primitiveCount = .ok (last.scene.shapes.length + (placed.map (·.shapes.length)).sum) := by
  obtain ⟨hrun, hlast⟩ := run_moments h
  have hnamed := hrun.wellNamed hs.wellNamed
  have hdistinct : last.scene.Distinct := hnamed.distinct
  have hlead := hrun.lead
  rw [hs.stage] at hlead
  obtain ⟨hafter, hnever⟩ := DraftCall.afterAll_of_lead hlead
  refine ⟨?_, ⟨?_, ?_, hnever⟩, hdistinct.indexes_object?, hdistinct.indexes_medium?, hdistinct.indexes_material?,
    hdistinct.indexes_texture?, ?_, Declarations.primitiveCount_eq_ok hdistinct hnamed.placed⟩
  · have htables := hrun.tables
    rw [hs.stage] at htables
    exact htables
  · exact congrArg (fun d : IndexedDraft => d.toDraft.scene) hafter
  · exact congrArg IndexedDraft.names hafter
  · intro t ht
    have hheld : last.scene.Holds (.texture t) := ht
    rw [holds_scene (hrun.inStep hs.inStep) hlast, hrun.holds hs.inStep] at hheld
    rcases hheld with ⟨hold, _⟩ | ⟨earlier, m, later, heq, hdeclared, _⟩
    · rw [hs.stage] at hold
      simp [Draft.Holds, Declarations.Holds] at hold
    · rw [heq] at hrun
      obtain ⟨_, _, hmoves, _⟩ := hrun.split
      exact hmoves.textureTyped hdeclared

end Session

namespace Session

attribute [local instance] LinearAlgebra.stepwise

/-- An object with two shapes is placed twice beside another shape, and two textures share a name. -/
theorem tree_placed_twice :
    ∃ s last : Session, s.Start ∧ s.finish = .finished last ∧
      last.scene.textures.map (fun t => (t.valueType, t.name)) = [("spectrum", "bark"), ("float", "bark")] ∧
      last.scene.instances.map (·.name) = ["tree", "tree"] ∧ last.scene.primitiveCount.toOption = some 5 ∧
      (∀ o ∈ last.scene.objects, (tablesAlong s.moments).objects o.name = some o) ∧
      ∀ t ∈ last.scene.textures, (tablesAlong s.moments).textures (t.valueType, t.name) = some t := by
  let s := ofText ⟨{}, (FileTree.directory []).fileSystem []⟩ (
    "WorldBegin Texture \"bark\" \"color\" \"noise\" Texture \"bark\" \"float\" \"noise\" ObjectBegin \"tree\"" ++
    " Shape \"sphere\" Shape \"disk\" ObjectEnd ObjectInstance \"tree\" ObjectInstance \"tree\" Shape \"cone\"").toList
  have hscene : ((s.endWithin 11).map fun last => (last.scene.textures.map (fun t => (t.valueType, t.name)),
      last.scene.instances.map (·.name), last.scene.primitiveCount.toOption)) =
        some ([("spectrum", "bark"), ("float", "bark")], ["tree", "tree"], some 5) := by
    decide +kernel
  obtain ⟨last, hend, hscene⟩ := Option.map_eq_some_iff.1 hscene
  obtain ⟨htypes, hscene⟩ := Prod.mk.injEq .. ▸ hscene
  obtain ⟨hplaced, hcount⟩ := Prod.mk.injEq .. ▸ hscene
  have hfinish := finish_of_endWithin hend
  obtain ⟨htables, _, hobjects, _, _, htextures, _⟩ := names_index_scene (.text _ _) hfinish
  refine ⟨s, last, .text _ _, hfinish, htypes, hplaced, hcount, ?_, ?_⟩
  · intro o ho
    rw [← htables]
    exact (hobjects.find_iff o.name o).2 ⟨ho, rfl⟩
  · intro t ht
    rw [← htables]
    exact (htextures.find_iff (t.valueType, t.name) t).2 ⟨ht, rfl⟩

end Session

end SceneDescription
