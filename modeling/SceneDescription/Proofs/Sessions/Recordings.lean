import SceneDescription.Proofs.Sessions.Declared
import SceneDescription.Transform.Elimination

/-!
# Recordings of objects

Whether an object is being recorded is kept twice, by the scopes and by the draft, and the draft alone decides where
a shape goes.  `Recorded` says where the shapes of a run belong without either of them: cut the events at the begins
and ends of objects; a shape outside of all pairs belongs to the scene, and a shape between the two ends of a pair
belongs to the object of the pair.  A run keeps to this at every moment (`Session.Run.recording`), so at its end every
shape lies in the one place where it belongs.
-/

namespace SceneDescription

def Entity.shape? : Entity → Option Shape
  | .shape x => some x
  | _ => none

namespace Moment

/-- The shape that an event has declared. -/
def shape? (m : Moment) : Option Shape :=
  m.declared?.bind Entity.shape?

/-- The event begins an object of the given name. -/
def Begins (m : Moment) (name : String) : Prop :=
  ∃ keyword location, m.event = .performed keyword (.objectBegin name) location

/-- The event, which stands at the given location, ends an object. -/
def Ends (m : Moment) (location : Location) : Prop :=
  ∃ keyword, m.event = .performed keyword .objectEnd location

/-- The event neither begins nor ends an object. -/
def Apart (m : Moment) : Prop :=
  (∀ name, ¬ m.Begins name) ∧ ∀ location, ¬ m.Ends location

private theorem Begins.name_eq {m : Moment} {name name' : String} (h : m.Begins name) (h' : m.Begins name') :
    name = name' := by
  obtain ⟨_, _, hevent⟩ := h
  obtain ⟨_, _, hevent'⟩ := h'
  rw [hevent] at hevent'
  cases hevent'
  rfl

private theorem Ends.location_eq {m : Moment} {location location' : Location} (h : m.Ends location)
    (h' : m.Ends location') : location = location' := by
  obtain ⟨_, hevent⟩ := h
  obtain ⟨_, hevent'⟩ := h'
  rw [hevent] at hevent'
  cases hevent'
  rfl

private theorem Begins.shape?_eq_none {m : Moment} {name : String} (h : m.Begins name) : m.shape? = none := by
  obtain ⟨_, _, hevent⟩ := h
  simp [shape?, declared?, hevent, Event.entity?, Directive.entity?]

private theorem Ends.shape?_eq_none {m : Moment} {location : Location} (h : m.Ends location) : m.shape? = none := by
  obtain ⟨_, hevent⟩ := h
  simp [shape?, declared?, hevent, Event.entity?, Directive.entity?]

end Moment

/-- Where the shapes of some events belong: `shapes` are declared outside of all objects, and each of `objects` stands
for one begin and the next end, with the name given at the begin and the shapes that are declared between the two. -/
inductive Recorded : List Moment → List Shape → List ObjectDefinition → Prop
  | nil : Recorded [] [] []
  | outside {moments : List Moment} {shapes : List Shape} {objects : List ObjectDefinition} {m : Moment}
      (h : Recorded moments shapes objects) (hm : m.Apart) :
      Recorded (moments ++ [m]) (shapes ++ m.shape?.toList) objects
  | object {moments inner : List Moment} {shapes : List Shape} {objects : List ObjectDefinition}
      {first last : Moment} {name : String} {location : Location} (h : Recorded moments shapes objects)
      (hfirst : first.Begins name) (hinner : ∀ m ∈ inner, m.Apart) (hlast : last.Ends location) :
      Recorded (moments ++ first :: inner ++ [last]) shapes
        (objects ++ [{ name, shapes := inner.filterMap Moment.shape?, location }])

/-! ### The places of the shapes are determined -/

/-- Two ways to split a word at its last begin of an object are the same. -/
private theorem split_at_begin {u u' v v' : List Moment} {x x' : Moment} {name name' : String} (hx : x.Begins name)
    (hx' : x'.Begins name') (hv : ∀ m ∈ v, m.Apart) (hv' : ∀ m ∈ v', m.Apart) (h : u ++ x :: v = u' ++ x' :: v') :
    u = u' ∧ x = x' ∧ v = v' := by
  rcases List.append_eq_append_iff.1 h with ⟨w, hu, hw⟩ | ⟨w, hu, hw⟩
  · cases w with
    | nil =>
      rw [List.nil_append, List.cons.injEq] at hw
      exact ⟨by simpa using hu.symm, hw⟩
    | cons z w =>
      -- the begin in the second split lies in the rest of the first
      rw [List.cons_append, List.cons.injEq] at hw
      have hmem : x' ∈ v := by simp [hw.2]
      exact absurd hx' ((hv x' hmem).1 name')
  · cases w with
    | nil =>
      rw [List.nil_append, List.cons.injEq] at hw
      exact ⟨by simpa using hu, hw.1.symm, hw.2.symm⟩
    | cons z w =>
      rw [List.cons_append, List.cons.injEq] at hw
      have hmem : x ∈ v' := by simp [hw.2]
      exact absurd hx ((hv' x hmem).1 name)

namespace Recorded

variable {moments : List Moment} {shapes shapes' : List Shape} {objects objects' : List ObjectDefinition}

theorem unique (h : Recorded moments shapes objects) (h' : Recorded moments shapes' objects') :
    shapes = shapes' ∧ objects = objects' := by
  induction h generalizing shapes' objects' with
  | nil =>
    generalize hw : ([] : List Moment) = w at h'
    cases h' with
    | nil => exact ⟨rfl, rfl⟩
    | outside | object => simp at hw
  | @outside moments shapes objects m _ hm ih =>
    generalize hw : moments ++ [m] = w at h'
    cases h' with
    | nil => simp at hw
    | outside hrest _ =>
      obtain ⟨rfl, rfl⟩ := by simpa using hw
      obtain ⟨rfl, rfl⟩ := ih hrest
      exact ⟨rfl, rfl⟩
    | object _ _ _ hlast =>
      obtain ⟨_, hlasts⟩ := List.append_inj' hw rfl
      obtain rfl := List.singleton_inj.1 hlasts
      exact absurd hlast (hm.2 _)
  | @object moments inner shapes objects first last name location _ hfirst hinner hlast ih =>
    generalize hw : moments ++ first :: inner ++ [last] = w at h'
    cases h' with
    | nil => simp at hw
    | outside _ hm =>
      obtain ⟨_, hlasts⟩ := List.append_inj' hw rfl
      obtain rfl := List.singleton_inj.1 hlasts
      exact absurd hlast (hm.2 _)
    | object hrest hfirst' hinner' hlast' =>
      obtain ⟨hblock, hlasts⟩ := List.append_inj' hw rfl
      obtain rfl := List.singleton_inj.1 hlasts
      obtain ⟨rfl, rfl, rfl⟩ := split_at_begin hfirst hfirst' hinner hinner' hblock
      obtain ⟨rfl, rfl⟩ := ih hrest
      obtain rfl := hfirst.name_eq hfirst'
      obtain rfl := hlast.location_eq hlast'
      exact ⟨rfl, rfl⟩

/-- No shape is lost, and none is in two places. -/
private theorem perm (h : Recorded moments shapes objects) :
    (shapes ++ objects.flatMap (·.shapes)).Perm (moments.filterMap Moment.shape?) := by
  induction h with
  | nil => exact .refl _
  | @outside moments shapes objects m _ _ ih =>
    have hm : [m].filterMap Moment.shape? = m.shape?.toList := by cases h : m.shape? <;> simp [h]
    rw [List.filterMap_append, hm, List.append_assoc]
    have hcomm : (m.shape?.toList ++ objects.flatMap (·.shapes)).Perm
        (objects.flatMap (·.shapes) ++ m.shape?.toList) := List.perm_append_comm
    refine (hcomm.append_left shapes).trans ?_
    rw [← List.append_assoc]
    exact ih.append_right _
  | @object moments inner shapes objects first last name location _ hfirst _ hlast ih =>
    have hends : (first :: inner ++ [last]).filterMap Moment.shape? = inner.filterMap Moment.shape? := by
      simp [hfirst.shape?_eq_none, hlast.shape?_eq_none]
    rw [List.append_assoc, List.filterMap_append, hends, List.flatMap_append, ← List.append_assoc]
    simpa using ih.append_right _

end Recorded

/-! ### One step -/

namespace Draft

/-- A draft after a shape, if there is one, has gone to the recording, or to the scene if nothing is being recorded. -/
structure TakesIn (d : Draft) (shape? : Option Shape) (d' : Draft) : Prop where
  recording : d'.recording = d.recording.map (· ++ shape?.toList)
  shapes : d'.shapes = if d.recording.isSome then d.shapes else d.shapes ++ shape?.toList
  objects : d'.objects = d.objects

private theorem takesIn_none (d : Draft) : d.TakesIn none d := by
  constructor
  · cases d.recording <;> simp
  · simp
  · rfl

private theorem takesIn_insert (d : Draft) (e : Entity) : d.TakesIn e.shape? (d.insert e) := by
  cases e with
  | shape shape =>
    unfold insert addShape
    cases hrec : d.recording with
    | none => exact ⟨by simp [hrec], by simp [hrec, Entity.shape?], rfl⟩
    | some recorded => exact ⟨by simp [hrec, Entity.shape?], by simp [hrec], rfl⟩
  | _ => exact ⟨(takesIn_none d).recording, (takesIn_none d).shapes, rfl⟩

private theorem Alike.takesIn {d base d' : Draft} {shape? : Option Shape} (h : d.Alike base)
    (h' : base.TakesIn shape? d') : d.TakesIn shape? d' := by
  obtain ⟨_, _, _, _, _, rfl⟩ := h
  exact { h' with }

end Draft

namespace Session

variable {s s' last : Session} {event : Event} {moments : List Moment}

/-- How far the recording has come at the end of some events: nothing is being recorded, or the events from the last
begin of an object on, which is still open, have gone into the recording. -/
inductive Recording (moments : List Moment) (s : Session) : Prop
  | outside (hscopes : s.stage.scopes.recording = none) (hdraft : s.stage.draft.recording = none)
      (h : Recorded moments s.stage.draft.shapes s.stage.draft.objects)
  | inside {earlier inner : List Moment} {first : Moment} {name : String}
      (hsplit : moments = earlier ++ first :: inner)
      (hfirst : first.Begins name) (hinner : ∀ m ∈ inner, m.Apart) (hscopes : s.stage.scopes.recording = some name)
      (hdraft : s.stage.draft.recording = some (inner.filterMap Moment.shape?))
      (h : Recorded earlier s.stage.draft.shapes s.stage.draft.objects)

private theorem Start.recording (h : s.Start) : Recording [] s := by
  refine .outside (by rw [h.stage]) (by rw [h.stage]) ?_
  rw [h.stage]
  exact .nil

/-- An event that neither begins nor ends an object adds its shape, if it declares one, to what is being recorded or
else to the scene. -/
private theorem Recording.apart (hs : Recording moments s) (hm : (Moment.mk s event).Apart)
    (hscopes : s'.stage.scopes.recording = s.stage.scopes.recording)
    (hdraft : s.stage.draft.TakesIn (Moment.mk s event).shape? s'.stage.draft) :
    Recording (moments ++ [⟨s, event⟩]) s' := by
  have hshape : [Moment.mk s event].filterMap Moment.shape? = (Moment.mk s event).shape?.toList := by
    cases h : (Moment.mk s event).shape? <;> simp [h]
  cases hs with
  | outside hidle hnone h =>
    refine .outside (hscopes.trans hidle) (by simp [hdraft.recording, hnone]) ?_
    have hshapes : s'.stage.draft.shapes = s.stage.draft.shapes ++ (Moment.mk s event).shape?.toList := by
      simp [hdraft.shapes, hnone]
    rw [hshapes, hdraft.objects]
    exact h.outside hm
  | @inside earlier inner first name hsplit hfirst hinner hname hsome h =>
    have hinner' : ∀ m ∈ inner ++ [⟨s, event⟩], m.Apart := by
      intro m hmem
      rcases List.mem_append.1 hmem with hold | hnew
      · exact hinner m hold
      · rw [List.mem_singleton.1 hnew]
        exact hm
    have hshapes : s'.stage.draft.shapes = s.stage.draft.shapes := by simp [hdraft.shapes, hsome]
    have hsplit' : moments ++ [⟨s, event⟩] = earlier ++ first :: (inner ++ [⟨s, event⟩]) := by simp [hsplit]
    refine .inside hsplit' hfirst hinner' (hscopes.trans hname) ?_ ?_
    · rw [hdraft.recording, hsome, List.filterMap_append, hshape]
      rfl
    · rw [hshapes, hdraft.objects]
      exact h

/-- The begin of an object starts an empty recording. -/
private theorem Recording.begin {name : String} (hs : Recording moments s) (hrec : s.stage.scopes.recording = none)
    (hm : (Moment.mk s event).Begins name) (hscopes : s'.stage.scopes.recording = some name)
    (hdraft : s'.stage.draft = { s.stage.draft with recording := some [] }) :
    Recording (moments ++ [⟨s, event⟩]) s' := by
  cases hs with
  | inside _ _ _ hname _ _ => cases hrec.symm.trans hname
  | outside _ _ h =>
    have hsplit : moments ++ [⟨s, event⟩] = moments ++ ⟨s, event⟩ :: [] := rfl
    refine .inside hsplit hm (by simp) hscopes (by rw [hdraft]; rfl) ?_
    rw [hdraft]
    exact h

/-- The end of an object makes the recording one more object. -/
private theorem Recording.complete {name : String} {location : Location} (hs : Recording moments s)
    (hrec : s.stage.scopes.recording = some name) (hm : (Moment.mk s event).Ends location)
    (hscopes : s'.stage.scopes.recording = none) (hdraft : s'.stage.draft = s.stage.draft.endObject name location) :
    Recording (moments ++ [⟨s, event⟩]) s' := by
  cases hs with
  | outside hidle _ _ => cases hrec.symm.trans hidle
  | @inside earlier inner first name' hsplit hfirst hinner hname hsome h =>
    obtain rfl : name = name' := Option.some.inj (hrec.symm.trans hname)
    have hobjects : s'.stage.draft.objects =
        s.stage.draft.objects ++ [{ name, shapes := inner.filterMap Moment.shape?, location := some location }] := by
      rw [hdraft, Draft.endObject, hsome]
      rfl
    have hshapes : s'.stage.draft.shapes = s.stage.draft.shapes := by
      rw [hdraft]
      rfl
    refine .outside hscopes (by rw [hdraft]; rfl) ?_
    rw [hshapes, hobjects, hsplit]
    exact h.object hfirst hinner hm

private theorem apart_of_ne {keyword : Keyword} {d : Directive} {location : Location}
    (hbegin : ∀ name, d ≠ .objectBegin name) (hend : d ≠ .objectEnd) :
    (Moment.mk s (.performed keyword d location)).Apart := by
  constructor
  · rintro name ⟨_, _, hevent⟩
    cases hevent
    exact hbegin name rfl
  · rintro _ ⟨_, hevent⟩
    cases hevent
    exact hend rfl

private theorem Moves.recording [LinearAlgebra] (hs : Recording moments s) (h : s.Moves event s') :
    Recording (moments ++ [⟨s, event⟩]) s' := by
  cases h with
  | leaves h =>
    have hapart : (Moment.mk s (.left s.stream.top.source s.stream.top.onClose)).Apart := by
      constructor
      · rintro _ ⟨_, _, hevent⟩
        cases hevent
      · rintro _ ⟨_, hevent⟩
        cases hevent
    refine hs.apart hapart ?_ ?_
    · rcases h.stage with ⟨_, hstage⟩ | ⟨mark, _, hleave⟩
      · rw [hstage]
      · obtain ⟨scopes, hrestore, hstage⟩ := bind_pure_eq_ok.1 hleave
        obtain ⟨_, _, _, _, _, _, rfl⟩ := ScopeStack.restore_eq_ok.1 hrestore
        rw [← hstage]
    · rw [h.draft]
      exact s.stage.draft.takesIn_none
  | @performs t c₁ c₂ keyword d _ h =>
    cases Stage.execute_drafts h.execute with
    | @declares new base hnew _ hbase hdraft =>
      obtain ⟨hbegin, hend⟩ := Stage.ne_of_entity?_eq_some hnew
      have hdeclared : (Moment.mk s (.performed keyword d ⟨s.stream.source, t.line⟩)).declared? = some new := hnew
      refine hs.apart (apart_of_ne hbegin hend) (Stage.execute_recording_of_ne h.execute hbegin hend) ?_
      rw [Moment.shape?, hdeclared, hdraft]
      exact hbase.takesIn (base.takesIn_insert new)
    | keeps hnone hbegin hend hbase =>
      have hdeclared : (Moment.mk s (.performed keyword d ⟨s.stream.source, t.line⟩)).declared? = none := hnone
      refine hs.apart (apart_of_ne hbegin hend) (Stage.execute_recording_of_ne h.execute hbegin hend) ?_
      rw [Moment.shape?, hdeclared]
      exact hbase.takesIn s'.stage.draft.takesIn_none
    | records hd hrec _ hdraft =>
      subst hd
      have hscopes := ScopeMachine.step_recording (Stage.execute_scopes h.execute [])
      exact hs.begin hrec ⟨keyword, _, rfl⟩ hscopes hdraft
    | completes hd hrec hdraft =>
      subst hd
      have hscopes := ScopeMachine.step_recording (Stage.execute_scopes h.execute [])
      exact hs.complete hrec ⟨keyword, rfl⟩ hscopes hdraft

/-- At every moment of a run, the shapes so far lie where they belong. -/
theorem Run.recording [LinearAlgebra] (h : Run s moments s') (hs : s.Start) : Recording moments s' := by
  have hstep : ∀ earlier s e s', Recording earlier s → s.Moves e s' → Recording (earlier ++ [⟨s, e⟩]) s' :=
    fun _ _ _ _ hs hmoves => hmoves.recording hs
  simpa using h.invariant_along hstep hs.recording

/-- The draft records shapes exactly while the scopes record an object.  In a session that finishes, the shapes of the
scene are those declared outside of objects, and its objects are the pairs of a begin and an end with the shapes
declared in between, in the order of the ends; so every declared shape lies in exactly one place. -/
theorem shapes_recorded_once [LinearAlgebra] (hs : s.Start) :
    (∀ moments s', Run s moments s' →
      (s'.stage.draft.recording.isSome ↔ s'.stage.scopes.recording.isSome)) ∧
    ∀ last, s.finish = .finished last →
      Recorded s.moments last.scene.shapes last.scene.objects ∧
      (∀ shapes objects, Recorded s.moments shapes objects →
        shapes = last.scene.shapes ∧ objects = last.scene.objects) ∧
      (last.scene.shapes ++ last.scene.objects.flatMap (·.shapes)).Perm (s.moments.filterMap Moment.shape?) := by
  refine ⟨?_, ?_⟩
  · intro moments s' hrun
    have hin := hrun.inStep hs.inStep
    rw [Stage.InStep] at hin
    rw [hin]
  · intro last hfinish
    obtain ⟨hrun, hlast⟩ := run_moments hfinish
    obtain ⟨hidle, _⟩ := ScopeStack.checkBalanced_eq_ok.1 (of_step_finished hlast).2.2
    have hrecorded : Recorded s.moments last.scene.shapes last.scene.objects := by
      cases hrun.recording hs with
      | outside _ _ h => exact h
      | inside _ _ _ hname _ _ => cases hidle.symm.trans hname
    exact ⟨hrecorded, fun _ _ h => h.unique hrecorded, hrecorded.perm⟩

end Session

namespace Session

attribute [local instance] LinearAlgebra.stepwise

/-- A shape in a scope inside of an object, between two shapes of the scene. -/
theorem tree_between_disk_and_cone :
    ∃ s last : Session, s.Start ∧ s.finish = .finished last ∧
      last.scene.shapes.map (·.type) = ["disk", "cone"] ∧
      last.scene.objects.map (fun object => (object.name, object.shapes.map (·.type))) = [("tree", ["sphere"])] ∧
      Recorded s.moments last.scene.shapes last.scene.objects ∧
      (s.moments.filterMap Moment.shape?).length = 3 := by
  let s := ofText ⟨{}, (FileTree.directory []).fileSystem []⟩ (
    "WorldBegin Shape \"disk\" ObjectBegin \"tree\" AttributeBegin Shape \"sphere\" AttributeEnd ObjectEnd" ++
    " Shape \"cone\"").toList
  have hscene : ((s.endWithin 9).map fun last => (last.scene.shapes.map (·.type),
      last.scene.objects.map (fun object => (object.name, object.shapes.map (·.type))))) =
        some (["disk", "cone"], [("tree", ["sphere"])]) := by
    decide +kernel
  obtain ⟨last, hend, hscene⟩ := Option.map_eq_some_iff.1 hscene
  obtain ⟨hshapes, hobjects⟩ := Prod.mk.injEq .. ▸ hscene
  have hfinish := finish_of_endWithin hend
  obtain ⟨hrecorded, _, hperm⟩ := (shapes_recorded_once (.text _ _)).2 last hfinish
  refine ⟨s, last, .text _ _, hfinish, hshapes, hobjects, hrecorded, ?_⟩
  have htop : last.scene.shapes.length = 2 := by simpa using congrArg List.length hshapes
  have hinside : (last.scene.objects.flatMap (·.shapes)).length = 1 := by
    have hlengths := congrArg (fun l => (l.map (·.2.length)).sum) hobjects
    simpa [List.length_flatMap, Function.comp_def] using hlengths
  have hlength := hperm.length_eq
  rw [List.length_append, htop, hinside] at hlength
  exact hlength.symm

end Session

end SceneDescription
