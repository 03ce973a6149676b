import SceneDescription.Proofs.Sessions.LastDeclarations
import SceneDescription.Proofs.Stages.World
import SceneDescription.Transform.Elimination

/-!
# Named coordinate systems

A coordinate system is recorded under a name by the directive that names it, and the begin of the world records one
under the name `world`.  Scopes come and go, but what has been recorded stays until something is recorded under the
same name (`Session.Moves.system`).  So a directive that goes back to a coordinate system finds the transformation that
was recorded last, at both shutter times, and takes it over at the active ones; nothing else changes
(`Session.coordinate_systems_restored`).
-/

namespace SceneDescription

/-! ### Recordings -/

namespace Event

/-- Whether an event names the current transformation as a coordinate system. -/
def recordsSystem (name : String) (e : Event) : Bool :=
  match e.directive? with
  | some (.coordinateSystem new) => new = name
  | _ => false

/-- Whether an event goes back to a coordinate system. -/
def reinstatesSystem (name : String) (e : Event) : Bool :=
  match e.directive? with
  | some (.coordSysTransform old) => old = name
  | _ => false

/-- Whether an event begins the world. -/
def beginsWorld (e : Event) : Bool :=
  match e.directive? with
  | some .worldBegin => true
  | _ => false

end Event

/-- The transformation that a moment records under a name: the current one, or the identity at the begin of the
world. -/
def Moment.system? (name : String) (m : Moment) : Option (Shutter Matrix) :=
  if m.event.recordsSystem name then some m.before.stage.active.ctm
  else if m.event.beginsWorld && name = "world" then some (.both .identity)
  else none

/-- Nothing is recorded under a name by an event that does not name it, and does not begin the world if that is the
name. -/
private theorem Moment.system?_eq_none {m : Moment} {name : String} (hother : m.event.recordsSystem name = false)
    (hworld : name = "world" → m.event.beginsWorld = false) : m.system? name = none := by
  rw [Moment.system?, hother]
  by_cases hname : name = "world"
  · simp [hworld hname]
  · simp [hname]

/-- A stage goes back to a transformation: it takes it over at the active shutter times, and nothing else changes. -/
structure Stage.Reinstates (s : Stage) (ctm : Shutter Matrix) (s' : Stage) : Prop where
  opening : s'.active.ctm.opening = if s.active.activeTimes.opening then ctm.opening else s.active.ctm.opening
  closing : s'.active.ctm.closing = if s.active.activeTimes.closing then ctm.closing else s.active.ctm.closing
  state : s'.active = { s.active with ctm := s'.active.ctm }
  others : s' = { s with scopes := { s.scopes with active := s'.active } }

private theorem Stage.execute_reinstates [LinearAlgebra] {s s' : Stage} {location : Location} {name : String}
    (h : s.execute location (.coordSysTransform name) = .ok s') :
    ∃ ctm, s.draft.coordinateSystems.lookup name = some ctm ∧ s.Reinstates ctm s' := by
  obtain ⟨ctm, hctm, rfl⟩ := bind_pure_eq_ok.1 h
  exact ⟨ctm, Draft.defined_eq_ok hctm, rfl, rfl, rfl, rfl⟩

/-- A new name comes last, and one that is there already keeps its place. -/
private theorem map_fst_setEntry {α : Type} (new : String) (value : α) (entries : List (String × α)) :
    (setEntry new value entries).map (·.1) =
      if new ∈ entries.map (·.1) then entries.map (·.1) else entries.map (·.1) ++ [new] := by
  induction entries with
  | nil => rfl
  | cons entry rest ih =>
    obtain ⟨other, old⟩ := entry
    rw [setEntry]
    by_cases hother : other = new
    · simp [hother]
    · simp only [hother, if_false, List.map_cons, ih, List.mem_cons, Ne.symm hother, false_or]
      split <;> rfl

private theorem nodup_setEntry {α : Type} {entries : List (String × α)} (h : (entries.map (·.1)).Nodup) (new : String)
    (value : α) : ((setEntry new value entries).map (·.1)).Nodup := by
  rw [map_fst_setEntry]
  split
  · exact h
  · rename_i hnew
    rw [← List.concat_eq_append]
    exact h.concat hnew

/-- There is at most one coordinate system of each name. -/
private theorem Directive.nodup_systems {systems : List (String × Shutter Matrix)} (h : (systems.map (·.1)).Nodup)
    (ctm : Shutter Matrix) (d : Directive) : ((d.systems ctm systems).map (·.1)).Nodup := by
  cases d with
  | worldBegin | coordinateSystem => exact nodup_setEntry h _ _
  | _ => exact h

namespace Session

variable [LinearAlgebra] {s s' last : Session} {event : Event} {moments : List Moment} {name : String}

/-- A step changes what there is under a name only if it records something there. -/
theorem Moves.system (h : s.Moves event s') (name : String) :
    s'.stage.draft.coordinateSystems.lookup name =
      ((Moment.mk s event).system? name).or (s.stage.draft.coordinateSystems.lookup name) := by
  cases h with
  | leaves h =>
    rw [h.draft]
    rfl
  | @performs t c₁ c₂ keyword d _ h =>
    rw [(Stage.execute_tables h.execute).2]
    cases d with
    | worldBegin =>
      rw [Directive.systems, lookup_setEntry]
      by_cases hname : name = "world"
      · simp [Moment.system?, Event.recordsSystem, Event.beginsWorld, Event.directive?, hname]
      · simp [Moment.system?, Event.recordsSystem, Event.directive?, hname]
    | coordinateSystem new =>
      rw [Directive.systems, lookup_setEntry]
      by_cases hname : name = new
      · simp [Moment.system?, Event.recordsSystem, Event.directive?, hname]
      · simp [Moment.system?, Event.recordsSystem, Event.beginsWorld, Event.directive?, hname, Ne.symm hname]
    | _ => rfl

/-- Under each name there is what a run has recorded last. -/
theorem Start.systems (hs : s.Start) (h : Run s moments s') (name : String) :
    s'.stage.draft.coordinateSystems.lookup name = (moments.filterMap (Moment.system? name)).getLast? := by
  rw [h.last_wins (·.stage.draft.coordinateSystems.lookup name) (fun _ _ _ hmoves => hmoves.system name), hs.stage]
  exact Option.or_none

/-- A run leaves at most one coordinate system of each name. -/
theorem Start.systems_distinct (hs : s.Start) (h : Run s moments s') :
    (s'.stage.draft.coordinateSystems.map (·.1)).Nodup := by
  refine Run.invariant (P := fun s => (s.stage.draft.coordinateSystems.map (·.1)).Nodup)
    (fun s e s' hdistinct hmoves => ?_) h ?_
  · cases hmoves with
    | leaves hmoves => rwa [hmoves.draft]
    | performs hmoves =>
      rw [(Stage.execute_tables hmoves.execute).2]
      exact Directive.nodup_systems hdistinct _ _
  · rw [hs.stage]
    exact List.nodup_nil

/-- What has been recorded is there as long as nothing else is recorded under its name. -/
theorem Run.system_of_between {m : Moment} {between : List Moment} (h : Run m.before (m :: between) s')
    (hm : m.event.recordsSystem name) (hother : ∀ k ∈ between, k.event.recordsSystem name = false)
    (hworld : name = "world" → ∀ k ∈ between, k.event.beginsWorld = false) :
    s'.stage.draft.coordinateSystems.lookup name = some m.before.stage.active.ctm := by
  have hnone : between.filterMap (Moment.system? name) = [] :=
    List.filterMap_eq_nil_iff.2 fun k hk => Moment.system?_eq_none (hother k hk) fun hname => hworld hname k hk
  have hsome : m.system? name = some m.before.stage.active.ctm := if_pos hm
  rw [h.last_wins (·.stage.draft.coordinateSystems.lookup name) (fun _ _ _ hmoves => hmoves.system name),
    List.filterMap_cons, hsome, hnone]
  rfl

/-- An event that goes back to a coordinate system takes over what is recorded there. -/
theorem Moves.reinstates (h : s.Moves event s') (hevent : event.reinstatesSystem name) :
    ∃ ctm, s.stage.draft.coordinateSystems.lookup name = some ctm ∧ s.stage.Reinstates ctm s'.stage := by
  cases h with
  | leaves h => cases hevent
  | @performs t c₁ c₂ keyword d _ h =>
    cases d with
    | coordSysTransform old =>
      obtain rfl : old = name := of_decide_eq_true hevent
      exact Stage.execute_reinstates h.execute
    | _ => cases hevent

/-- In a session that finishes, whoever goes back to a named coordinate system gets the transformation that it was
recorded with, unless something else has been recorded under the name since: at the active shutter times, and without
any other change, whatever has happened in between.  The scene has under each name what was recorded last, and no name
twice. -/
theorem coordinate_systems_restored (hs : s.Start) (h : s.finish = .finished last) :
    (∀ earlier m between m' later name, s.moments = earlier ++ m :: (between ++ m' :: later) →
      m.event.recordsSystem name → m'.event.reinstatesSystem name →
      (∀ k ∈ between, k.event.recordsSystem name = false) →
      (name = "world" → ∀ k ∈ between, k.event.beginsWorld = false) →
      ∃ after, m'.before.step = .moved m'.event after ∧
        m'.before.stage.Reinstates m.before.stage.active.ctm after.stage) ∧
    (last.scene.coordinateSystems.map (·.1)).Nodup ∧
    ∀ name, last.scene.coordinateSystem? name =
      (s.moments.filterMap (Moment.system? name)).getLast?.map (·.opening) := by
  have hrun := (run_moments h).1
  refine ⟨?_, ?_, fun name => ?_⟩
  · intro earlier m between m' later name hmoments hm hm' hother hworld
    rw [hmoments] at hrun
    obtain ⟨s₁, _, hrest⟩ := Run.append_iff.1 hrun
    -- the run from the recording up to the directive that goes back to it
    rw [← List.cons_append] at hrest
    obtain ⟨s₂, hbetween, hlater⟩ := Run.append_iff.1 hrest
    have hbefore : s₁ = m.before := by
      cases hbetween
      rfl
    subst hbefore
    have hlookup := hbetween.system_of_between hm hother hworld
    cases hlater with
    | cons hstep _ =>
      obtain ⟨ctm, hctm, hreinstates⟩ := (moves_of_step hstep).reinstates hm'
      cases hctm.symm.trans hlookup
      exact ⟨_, hstep, hreinstates⟩
  · rw [show last.scene = last.stage.draft.scene from rfl, Draft.scene, List.map_map]
    exact hs.systems_distinct hrun
  · rw [← hs.systems hrun]
    exact Draft.coordinateSystem?_scene _ _

end Session

namespace Session

attribute [local instance] LinearAlgebra.stepwise

/-- A coordinate system that was named in an attribute block is gone back to behind it, while only the end of the
shutter is active. -/
theorem camera_space_restored :
    ∃ (s last : Session) (m m' : Moment) (after : Session), s.Start ∧ s.finish = .finished last ∧
      m ∈ s.moments ∧ m.event.recordsSystem "camera" ∧ m' ∈ s.moments ∧ m'.event.reinstatesSystem "camera" ∧
      m'.before.step = .moved m'.event after ∧
      m'.before.stage.Reinstates m.before.stage.active.ctm after.stage ∧
      last.scene.coordinateSystems.map (fun (name, m) => (name, m.row0.w)) = [("world", 0.0), ("camera", 1.0)] := by
  let s := ofText ⟨{}, (FileTree.directory []).fileSystem []⟩
    ("WorldBegin AttributeBegin Translate 1 2 3 CoordinateSystem \"camera\" AttributeEnd\n" ++
      "ActiveTransform EndTime CoordSysTransform \"camera\"").toList
  let marks : Moment → Bool × Bool := fun m => (m.event.recordsSystem "camera", m.event.reinstatesSystem "camera")
  have hmarks : (s.momentsWithin 8).map (·.map marks) = some ([(false, false), (false, false), (false, false)] ++
      (true, false) :: ([(false, false), (false, false)] ++ [(false, true)])) := by decide +kernel
  have hsystems : (s.endWithin 8).map (·.scene.coordinateSystems.map fun (name, m) => (name, m.row0.w)) =
      some [("world", 0.0), ("camera", 1.0)] := by decide +kernel
  obtain ⟨last, hlast, hsystems⟩ := Option.map_eq_some_iff.1 hsystems
  obtain ⟨moments, hmoments, hmarks⟩ := Option.map_eq_some_iff.1 hmarks
  obtain ⟨earlier, rest, rfl, -, hrest⟩ := List.map_eq_append_iff.1 hmarks
  obtain ⟨m, rest, rfl, hm, hrest⟩ := List.map_eq_cons_iff.1 hrest
  obtain ⟨between, rest, rfl, hbetween, hrest⟩ := List.map_eq_append_iff.1 hrest
  obtain ⟨m', later, rfl, hm', -⟩ := List.map_eq_cons_iff.1 hrest
  have hother : ∀ k ∈ between, k.event.recordsSystem "camera" = false := by
    intro k hk
    have hmark : marks k ∈ between.map marks := List.mem_map_of_mem hk
    rw [show between.map marks = List.replicate 2 (false, false) from hbetween] at hmark
    exact congrArg Prod.fst (List.eq_of_mem_replicate hmark)
  have hfinish := finish_of_endWithin hlast
  have hmoments := moments_of_momentsWithin hmoments
  obtain ⟨after, hstep, hreinstates⟩ := (coordinate_systems_restored (.text _ _) hfinish).1 earlier m between m' later
    "camera" hmoments (congrArg Prod.fst hm) (congrArg Prod.snd hm') hother (absurd · (by decide))
  exact ⟨s, last, m, m', after, .text _ _, hfinish, by simp [hmoments], congrArg Prod.fst hm, by simp [hmoments],
    congrArg Prod.snd hm', hstep, hreinstates, hsystems⟩

end Session

end SceneDescription
