import SceneDescription.Proofs.Readers.Keywords
import SceneDescription.Proofs.Scopes.States
import SceneDescription.Proofs.Stages.Growth

/-!
# What is seen at one shutter time

`Scene.seenAt` keeps of a scene all that does not depend on the transformations at the other shutter time: in place of
the matrices of the other time it has the identity.  Cameras, lights, textures, media and the coordinate systems of a
scene have matrices of the opening only.  Stages that are seen alike at a time stay so by the same directive
(`Stage.execute_seenAt`) and at the end of an import (`Stage.leaveImport_seenAt`), and a motion makes no difference
while only the other time is active (`Stage.execute_of_other_time`).
-/

namespace SceneDescription

inductive ShutterTime
  | opening
  | closing
  deriving DecidableEq

/-- The other one of the two times. -/
def ShutterTime.other : ShutterTime → ShutterTime
  | opening => closing
  | closing => opening

/-- The time is active, and the other one is not. -/
def ShutterTime.only : ShutterTime → Shutter Bool
  | opening => ⟨true, false⟩
  | closing => ⟨false, true⟩

variable (time : ShutterTime)

/-! ### Scenes -/

/-- The transformation at the time, and the identity at the other one. -/
def Shutter.seenAt (ctm : Shutter Matrix) : Shutter Matrix :=
  match time with
  | .opening => ⟨ctm.opening, .identity⟩
  | .closing => ⟨.identity, ctm.closing⟩

/-- The transformation of an entity that has only one, for the opening. -/
def Matrix.seenAt (m : Matrix) : Matrix :=
  match time with
  | .opening => m
  | .closing => .identity

def Camera.seenAt (x : Camera) : Camera :=
  { x with cameraFromWorld := x.cameraFromWorld.seenAt time }

def Shape.seenAt (x : Shape) : Shape :=
  { x with transform := x.transform.seenAt time }

def LightSource.seenAt (x : LightSource) : LightSource :=
  { x with transform := x.transform.seenAt time }

def Texture.seenAt (x : Texture) : Texture :=
  { x with transform := x.transform.seenAt time }

def Medium.seenAt (x : Medium) : Medium :=
  { x with transform := x.transform.seenAt time }

def ObjectDefinition.seenAt (x : ObjectDefinition) : ObjectDefinition :=
  { x with shapes := x.shapes.map (·.seenAt time) }

def ObjectInstance.seenAt (x : ObjectInstance) : ObjectInstance :=
  { x with transform := x.transform.seenAt time }

/-- The declarations as far as they are seen at the time; everything else is kept. -/
def Declarations.seenAt (d : Declarations) : Declarations :=
  { d with
    camera := d.camera.map (·.seenAt time)
    shapes := d.shapes.map (·.seenAt time)
    lights := d.lights.map (·.seenAt time)
    textures := d.textures.map (·.seenAt time)
    media := d.media.map (·.seenAt time)
    objects := d.objects.map (·.seenAt time)
    instances := d.instances.map (·.seenAt time) }

def Scene.seenAt (scene : Scene) : Scene where
  toDeclarations := scene.toDeclarations.seenAt time
  coordinateSystems := scene.coordinateSystems.map fun (name, m) => (name, m.seenAt time)

/-! ### Stages -/

def GraphicsState.seenAt (state : GraphicsState) : GraphicsState :=
  { state with ctm := state.ctm.seenAt time }

def Draft.seenAt (d : Draft) : Draft where
  toDeclarations := d.toDeclarations.seenAt time
  coordinateSystems := d.coordinateSystems.map fun (name, ctm) => (name, ctm.seenAt time)
  recording := d.recording.map fun shapes => shapes.map (·.seenAt time)

def Stage.seenAt (s : Stage) : Stage where
  phase := s.phase
  scopes := s.scopes.mapStates (·.seenAt time)
  draft := s.draft.seenAt time

variable {time : ShutterTime}

private theorem Shutter.opening_seenAt (ctm : Shutter Matrix) :
    (ctm.seenAt time).opening = ctm.opening.seenAt time := by
  cases time <;> rfl

theorem Draft.scene_seenAt (d : Draft) : d.scene.seenAt time = (d.seenAt time).scene := by
  simp [scene, seenAt, Scene.seenAt, Shutter.opening_seenAt, Function.comp_def]

/-- States that are seen alike differ at most in the transformation. -/
theorem GraphicsState.seenAt_eq_iff {a b : GraphicsState} :
    a.seenAt time = b.seenAt time ↔ ∃ ctm, b = { a with ctm } ∧ a.ctm.seenAt time = ctm.seenAt time := by
  obtain ⟨ctm, activeTimes, reverse, material, light, media, attributes⟩ := a
  constructor
  · intro h
    obtain ⟨ctm', activeTimes', reverse', material', light', media', attributes'⟩ := b
    simp only [seenAt, GraphicsState.mk.injEq] at h
    obtain ⟨hctm, rfl, rfl, rfl, rfl, rfl, rfl⟩ := h
    exact ⟨ctm', rfl, hctm⟩
  · rintro ⟨ctm', rfl, hctm⟩
    simp only [seenAt, hctm]

/-! ### Entities -/

def Entity.seenAt (time : ShutterTime) : Entity → Entity
  | camera x => .camera (x.seenAt time)
  | shape x => .shape (x.seenAt time)
  | light x => .light (x.seenAt time)
  | areaLight x => .areaLight x
  | material x => .material x
  | texture x => .texture (x.seenAt time)
  | medium x => .medium (x.seenAt time)
  | placement x => .placement (x.seenAt time)

/-- The transformation of an entity is seen as the current one is. -/
private theorem Directive.entity?_seenAt {a b : GraphicsState} (h : a.seenAt time = b.seenAt time) (location : Location)
    (d : Directive) :
    (d.entity? location a).map (Entity.seenAt time) = (d.entity? location b).map (Entity.seenAt time) := by
  obtain ⟨ctm, rfl, hctm⟩ := GraphicsState.seenAt_eq_iff.1 h
  have hopening : a.ctm.opening.seenAt time = ctm.opening.seenAt time := by
    rw [← Shutter.opening_seenAt, hctm, Shutter.opening_seenAt]
  cases d with
  | camera _ _ => simp [entity?, Entity.seenAt, Camera.seenAt, hopening]
  | shape _ _ => simp [entity?, Entity.seenAt, Shape.seenAt, hctm, GraphicsState.defaults]
  | lightSource _ _ => simp [entity?, Entity.seenAt, LightSource.seenAt, hopening, GraphicsState.defaults]
  | texture _ _ _ _ => simp [entity?, Entity.seenAt, Texture.seenAt, hopening, GraphicsState.defaults]
  | makeNamedMedium _ _ =>
    simp only [entity?, GraphicsState.defaults, Option.map_map, Function.comp_def, Entity.seenAt, Medium.seenAt,
      hopening]
  | objectInstance _ => simp [entity?, Entity.seenAt, ObjectInstance.seenAt, hctm]
  | _ => rfl

private theorem Draft.seenAt_insert (d : Draft) (e : Entity) :
    (d.insert e).seenAt time = (d.seenAt time).insert (e.seenAt time) := by
  cases e with
  | shape x =>
    unfold insert Entity.seenAt addShape
    cases hrec : d.recording with
    | none => simp [seenAt, Declarations.seenAt, hrec]
    | some shapes => simp [seenAt, Declarations.seenAt, hrec]
  | _ =>
    simp [insert, Entity.seenAt, seenAt, Declarations.seenAt, addLight, addAreaLight, addInstance]

/-! ### The draft after a directive -/

private theorem Draft.seenAt_nameCoordinateSystem (d : Draft) (name : String) (ctm : Shutter Matrix) :
    (d.nameCoordinateSystem name ctm).seenAt time =
      (d.seenAt time).nameCoordinateSystem name (ctm.seenAt time) := by
  simp [nameCoordinateSystem, seenAt, map_setEntry]

private theorem Draft.seenAt_endObject (d : Draft) (name : String) (location : Option Location) :
    (d.endObject name location).seenAt time = (d.seenAt time).endObject name location := by
  cases hrec : d.recording <;>
    simp [endObject, seenAt, Declarations.seenAt, ObjectDefinition.seenAt, hrec]

namespace Stage

variable {s t : Stage} {location : Location}

section Agreement

variable (h : s.seenAt time = t.seenAt time)
include h

private theorem phase_of_seenAt : s.phase = t.phase :=
  congrArg (·.phase) h

theorem draft_of_seenAt : s.draft.seenAt time = t.draft.seenAt time :=
  congrArg (·.draft) h

theorem active_of_seenAt : s.active.seenAt time = t.active.seenAt time :=
  congrArg (·.scopes.active) h

private theorem recording_of_seenAt : s.scopes.recording = t.scopes.recording :=
  congrArg (·.scopes.recording) h

theorem mark_of_seenAt : s.scopes.checkpoint.1 = t.scopes.checkpoint.1 := by
  have hdepth : (s.seenAt time).scopes.depth = (t.seenAt time).scopes.depth := congrArg (·.scopes.depth) h
  have hfloor : s.scopes.floor = t.scopes.floor := congrArg (·.scopes.floor) h
  have hsame : s.scopes.depth = t.scopes.depth := by
    simpa [seenAt] using hdepth
  simp only [ScopeStack.checkpoint, hsame, hfloor, recording_of_seenAt h]

private theorem warningsOf_of_seenAt (location : Location) (d : Directive) :
    s.warningsOf location d = t.warningsOf location d := by
  have hdraft := draft_of_seenAt h
  have hcamera : s.draft.camera.map (·.seenAt time) = t.draft.camera.map (·.seenAt time) :=
    congrArg (·.camera) hdraft
  have hlocation : s.draft.camera.map (·.location) = t.draft.camera.map (·.location) := by
    have hmap := congrArg (Option.map (·.location)) hcamera
    rwa [Option.map_map, Option.map_map] at hmap
  have hsettings : s.draft.settings = t.draft.settings := congrArg (·.settings) hdraft
  cases d with
  | camera _ _ =>
    have hwarning := congrArg
      (Option.map fun old => Warning.mk (.redefined "Camera" old) (some location)) hlocation
    rw [Option.map_map, Option.map_map] at hwarning
    exact congrArg Option.toList hwarning
  | setting kind _ _ => rw [warningsOf, warningsOf, hsettings]
  | areaLightSource _ _ => rw [warningsOf, warningsOf, recording_of_seenAt h]
  | _ => rfl

private theorem warnedDraft_of_seenAt (location : Location) (d : Directive) :
    (s.warnedDraft location d).seenAt time = (t.warnedDraft location d).seenAt time := by
  have hwarned (u : Stage) : (u.warnedDraft location d).seenAt time =
      { u.draft.seenAt time with warnings := (u.draft.seenAt time).warnings ++ u.warningsOf location d } := rfl
  rw [hwarned, hwarned, draft_of_seenAt h, warningsOf_of_seenAt h]

/-- After a directive, the drafts are still seen alike. -/
private theorem draftAfter_seenAt (location : Location) (d : Directive) :
    (s.draftAfter location d).seenAt time = (t.draftAfter location d).seenAt time := by
  have hdraft := draft_of_seenAt h
  have hctm : s.active.ctm.seenAt time = t.active.ctm.seenAt time := congrArg (·.ctm) (active_of_seenAt h)
  unfold draftAfter
  split
  case h_1 setting => exact congrArg (·.setOption setting) hdraft
  case h_2 kind type params =>
    have hsettings : s.draft.settings = t.draft.settings := congrArg (·.settings) hdraft
    rw [hsettings]
    exact congrArg (fun d : Draft => { d with settings := t.draft.settings.put { kind, type, params, location } })
      (warnedDraft_of_seenAt h location _)
  case h_3 => rw [Draft.seenAt_nameCoordinateSystem, Draft.seenAt_nameCoordinateSystem, hdraft]
  case h_4 name => rw [Draft.seenAt_nameCoordinateSystem, Draft.seenAt_nameCoordinateSystem, hdraft, hctm]
  case h_5 times => exact congrArg (·.setTransformTimes times) hdraft
  case h_6 => exact congrArg (fun d : Draft => { d with recording := some [] }) hdraft
  case h_7 => rw [Draft.seenAt_endObject, Draft.seenAt_endObject, hdraft, recording_of_seenAt h]
  case h_8 =>
    have hentity := d.entity?_seenAt (active_of_seenAt h) location
    cases hs : d.entity? location s.active with
    | none =>
      rw [hs, Option.map_none, eq_comm, Option.map_eq_none_iff] at hentity
      rw [hentity]
      exact hdraft
    | some new =>
      rw [hs, Option.map_some, eq_comm, Option.map_eq_some_iff] at hentity
      obtain ⟨new', ht, hnew⟩ := hentity
      rw [ht]
      dsimp only
      rw [Draft.seenAt_insert, Draft.seenAt_insert, warnedDraft_of_seenAt h, hnew]

end Agreement

end Stage

/-! ### The state after a directive -/

private theorem Shutter.seenAt_update {chosen : Shutter Bool} {new new' old old' : Shutter Matrix}
    (hnew : new.seenAt time = new'.seenAt time) (hold : old.seenAt time = old'.seenAt time) :
    (update chosen new old).seenAt time = (update chosen new' old').seenAt time := by
  cases time with
  | opening =>
    simp only [seenAt, Shutter.mk.injEq, and_true] at hnew hold
    simp only [seenAt, update, hnew, hold]
  | closing =>
    simp only [seenAt, Shutter.mk.injEq, true_and] at hnew hold
    simp only [seenAt, update, hnew, hold]

private theorem Shutter.seenAt_map {ctm ctm' : Shutter Matrix} (h : ctm.seenAt time = ctm'.seenAt time)
    (f : Matrix → Matrix) : (ctm.map f).seenAt time = (ctm'.map f).seenAt time := by
  cases time with
  | opening =>
    simp only [seenAt, Shutter.mk.injEq, and_true] at h
    simp only [seenAt, map, h]
  | closing =>
    simp only [seenAt, Shutter.mk.injEq, true_and] at h
    simp only [seenAt, map, h]

/-- A change at the other time is not seen. -/
private theorem Shutter.seenAt_update_other (new old : Shutter Matrix) :
    (update time.other.only new old).seenAt time = old.seenAt time := by
  cases time <;> rfl

/-- An edit as far as it is seen: what is recalled may be different at the other time. -/
def Edit.seenAt (time : ShutterTime) : Edit → Edit
  | .reinstate ctm => .reinstate (ctm.seenAt time)
  | e => e

private theorem Edit.apply_seenAt [LinearAlgebra] {a b : GraphicsState} {e e' : Edit}
    (h : a.seenAt time = b.seenAt time)
    (he : e.seenAt time = e'.seenAt time) : (e.apply a).seenAt time = (e'.apply b).seenAt time := by
  obtain ⟨ctm, rfl, hctm⟩ := GraphicsState.seenAt_eq_iff.1 h
  cases e with
  | reinstate m =>
    cases e' with
    | reinstate m' =>
      have hm : m.seenAt time = m'.seenAt time := Edit.reinstate.inj he
      simp only [apply, GraphicsState.seenAt, Shutter.seenAt_update hm hctm]
    | _ => cases he
  | compose m =>
    obtain rfl : e' = .compose m := by
      cases e' <;> cases he
      rfl
    simp only [apply, GraphicsState.seenAt, Shutter.seenAt_update (Shutter.seenAt_map hctm _) hctm]
  | replace m =>
    obtain rfl : e' = .replace m := by
      cases e' <;> cases he
      rfl
    simp only [apply, GraphicsState.seenAt, Shutter.seenAt_update rfl hctm]
  | _ =>
    cases e' <;> cases he
    all_goals simp only [apply, GraphicsState.seenAt, GraphicsState.defaults, hctm]

namespace Directive

variable {draft draft' : Draft} {a b : GraphicsState}

/-- What a directive recalls is seen alike if what has been declared is. -/
private theorem edit?_seenAt [LinearAlgebra] (hdraft : draft.seenAt time = draft'.seenAt time)
    (h : a.seenAt time = b.seenAt time) (location : Location) (d : Directive) :
    (d.edit? draft location a).map (Edit.seenAt time) = (d.edit? draft' location b).map (Edit.seenAt time) := by
  obtain ⟨ctm, rfl, hctm⟩ := GraphicsState.seenAt_eq_iff.1 h
  cases d with
  | coordSysTransform name =>
    have hsystems : (draft.coordinateSystems.lookup name).map (Shutter.seenAt time) =
        (draft'.coordinateSystems.lookup name).map (Shutter.seenAt time) := by
      rw [← lookup_map, ← lookup_map]
      exact congrArg (fun d : Draft => d.coordinateSystems.lookup name) hdraft
    have hedits := congrArg (Option.map Edit.reinstate) hsystems
    rw [Option.map_map, Option.map_map] at hedits
    simp only [edit?, Option.map_map]
    exact hedits
  | namedMaterial name =>
    have hmaterials : (draft.seenAt time).material? name = (draft'.seenAt time).material? name := by
      rw [hdraft]
    have hmaterial : draft.material? name = draft'.material? name := hmaterials
    simp only [edit?, hmaterial]
  | _ => rfl

/-- States that are seen alike stay so. -/
private theorem effect_seenAt [LinearAlgebra] (hdraft : draft.seenAt time = draft'.seenAt time)
    (h : a.seenAt time = b.seenAt time) (location : Location) (d : Directive) :
    (d.effect draft location a).seenAt time = (d.effect draft' location b).seenAt time := by
  have hedit := d.edit?_seenAt hdraft h location
  unfold effect
  cases ha : d.edit? draft location a with
  | none =>
    rw [ha, Option.map_none, eq_comm, Option.map_eq_none_iff] at hedit
    rw [hedit]
    exact h
  | some e =>
    rw [ha, Option.map_some, eq_comm, Option.map_eq_some_iff] at hedit
    obtain ⟨e', hb, he⟩ := hedit
    rw [hb]
    exact Edit.apply_seenAt h he.symm

end Directive

/-! ### Steps -/

namespace Stage

variable {s s' t t' : Stage} {location : Location} {d : Directive}

private theorem agree_op [LinearAlgebra] (h : s.seenAt time = t.seenAt time) (location : Location) (d : Directive) :
    ScopeMachine.Agree (·.seenAt time) ⟨s.scopes, []⟩ ⟨t.scopes, []⟩ (d.op s.draft location)
      (d.op t.draft location) := by
  have hedit : (d.op s.draft location).side = .plain → ScopeMachine.Agree (·.seenAt time) ⟨s.scopes, []⟩
      ⟨t.scopes, []⟩ (d.op s.draft location) (d.op t.draft location) := by
    intro hside
    have hside' : (d.op t.draft location).side = .plain := by
      cases d <;> exact hside
    refine .inr ⟨hside, hside', ?_⟩
    rw [Directive.effect_op, Directive.effect_op]
    exact Directive.effect_seenAt (draft_of_seenAt h) (active_of_seenAt h) location d
  cases d with
  | attributeBegin | attributeEnd | transformBegin | transformEnd | objectBegin _ | objectEnd | importFile _ =>
    refine .inl ⟨?_, rfl⟩
    intro hside
    cases hside
  | _ => exact hedit rfl

/-- Stages that are seen alike stay so by the same directive. -/
theorem execute_seenAt [LinearAlgebra] (h : s.seenAt time = t.seenAt time) (hs : s.execute location d = .ok s')
    (ht : t.execute location d = .ok t') : s'.seenAt time = t'.seenAt time := by
  have hmachines : (ScopeMachine.mk s.scopes []).mapStates (·.seenAt time) =
      (ScopeMachine.mk t.scopes []).mapStates (·.seenAt time) :=
    congrArg (fun u : Stage => ScopeMachine.mk u.scopes []) h
  have hstep := ScopeMachine.step_congr hmachines (agree_op h location d) (execute_scopes hs []) (execute_scopes ht [])
  have hscopes : s'.scopes.mapStates (·.seenAt time) = t'.scopes.mapStates (·.seenAt time) :=
    congrArg (·.stack) hstep
  rw [seenAt, seenAt, hscopes, execute_phase hs, execute_phase ht, execute_draft hs, execute_draft ht,
    phase_of_seenAt h, draftAfter_seenAt h]

/-- A motion is not seen while only the other time is active. -/
theorem execute_of_other_time [LinearAlgebra] (hd : d.keyword? = none) (htimes : s.active.activeTimes = time.other.only)
    (hs : s.execute location d = .ok s') : s'.seenAt time = s.seenAt time := by
  have hunseen (new : Shutter Matrix) :
      { s.active with ctm := Shutter.update s.active.activeTimes new s.active.ctm }.seenAt time =
        s.active.seenAt time := by
    simp only [GraphicsState.seenAt, htimes, Shutter.seenAt_update_other]
  have hedit (e : Edit) (he : (e.apply s.active).seenAt time = s.active.seenAt time) :
      (s.edit e).seenAt time = s.seenAt time := by
    have hscopes : (s.scopes.edit e).mapStates (·.seenAt time) = s.scopes.mapStates (·.seenAt time) :=
      congrArg (fun active => { s.scopes.mapStates (·.seenAt time) with active }) he
    rw [seenAt, edit, hscopes]
    rfl
  cases d with
  | replaceTransform motion | composeTransform motion =>
    obtain ⟨m, _, rfl⟩ := bind_pure_eq_ok.1 hs
    exact hedit _ (hunseen _)
  | _ => cases hd

/-- Stages that are seen alike stay so at the end of an import. -/
theorem leaveImport_seenAt {mark : Mark} (h : s.seenAt time = t.seenAt time) (hs : s.leaveImport mark = .ok s')
    (ht : t.leaveImport mark = .ok t') : s'.seenAt time = t'.seenAt time := by
  obtain ⟨scopes, hrestore, rfl⟩ := bind_pure_eq_ok.1 hs
  obtain ⟨scopes', hrestore', rfl⟩ := bind_pure_eq_ok.1 ht
  have hmachines : (ScopeMachine.mk s.scopes [mark]).mapStates (·.seenAt time) =
      (ScopeMachine.mk t.scopes [mark]).mapStates (·.seenAt time) :=
    congrArg (fun u : Stage => ScopeMachine.mk u.scopes [mark]) h
  have hsame : ScopeMachine.Agree (·.seenAt time) ⟨s.scopes, [mark]⟩ ⟨t.scopes, [mark]⟩ .restore .restore := by
    refine .inl ⟨?_, rfl⟩
    intro hside
    cases hside
  have hstep := ScopeMachine.step_congr hmachines hsame (bind_pure_eq_ok.2 ⟨scopes, hrestore, rfl⟩)
    (bind_pure_eq_ok.2 ⟨scopes', hrestore', rfl⟩)
  have hscopes : scopes.mapStates (·.seenAt time) = scopes'.mapStates (·.seenAt time) := congrArg (·.stack) hstep
  simp only [seenAt, hscopes, phase_of_seenAt h, draft_of_seenAt h]

end Stage

end SceneDescription
