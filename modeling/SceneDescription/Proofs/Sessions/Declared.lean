import SceneDescription.Proofs.Sessions.Runs
import SceneDescription.Proofs.Stages.Drafts

/-!
# What a session has declared

What the scene of a session holds has been declared by an event and not been replaced since (`Session.Run.holds`), and
its objects have been completed by an event (`Session.Run.objects`).
-/

namespace SceneDescription

/-- The entity that an event declares under a graphics state. -/
def Event.entity? (state : GraphicsState) : Event → Option Entity
  | .performed _ d location => d.entity? location state
  | .left _ _ => none

/-- The entity that an event has declared. -/
def Moment.declared? (m : Moment) : Option Entity :=
  m.event.entity? m.before.stage.active

/-- No event declares anew what a scene has only one of. -/
def Unreplaced (e : Entity) (moments : List Moment) : Prop :=
  ∀ m ∈ moments, ∀ new, m.declared? = some new → ¬ new.Replaces e

/-- The object that an event has completed. -/
def Moment.completed? (m : Moment) : Option ObjectDefinition :=
  match m.event, m.before.stage.scopes.recording with
  | .performed _ .objectEnd location, some name =>
    some { name, shapes := m.before.stage.draft.recording.getD [], location }
  | _, _ => none

namespace Session

variable {s s' last : Session} {event : Event} {e : Entity} {moments : List Moment}

theorem Leaves.draft {outer : Frame Mark} {below : List (Frame Mark)} (h : s.Leaves outer below s') :
    s'.stage.draft = s.stage.draft := by
  rcases h.stage with ⟨_, hstage⟩ | ⟨mark, _, hleave⟩
  · rw [hstage]
  · obtain ⟨scopes, _, hstage⟩ := bind_pure_eq_ok.1 hleave
    rw [← hstage]

theorem Start.inStep (h : s.Start) : s.stage.InStep := by
  rw [h.stage]
  rfl

variable [LinearAlgebra]

theorem Moves.inStep (hs : s.stage.InStep) (h : s.Moves event s') : s'.stage.InStep := by
  cases h with
  | performs h => exact Stage.execute_inStep h.execute hs
  | leaves h =>
    rcases h.stage with ⟨_, hstage⟩ | ⟨mark, _, hleave⟩
    · rwa [hstage]
    · obtain ⟨scopes, hrestore, hstage⟩ := bind_pure_eq_ok.1 hleave
      obtain ⟨_, _, _, _, _, _, rfl⟩ := ScopeStack.restore_eq_ok.1 hrestore
      rw [← hstage]
      exact hs

theorem Run.inStep (h : Run s moments s') (hs : s.stage.InStep) : s'.stage.InStep :=
  h.invariant (P := fun s => s.stage.InStep) (fun _ _ _ hs hmoves => hmoves.inStep hs) hs

private theorem Moves.holds (h : s.Moves event s') (hs : s.stage.InStep) :
    s'.stage.draft.Holds e ↔ (s.stage.draft.Holds e ∧ Unreplaced e [⟨s, event⟩]) ∨
      (Moment.mk s event).declared? = some e := by
  simp only [Unreplaced, List.mem_singleton, forall_eq]
  cases h with
  | performs h => exact Stage.execute_holds h.execute hs
  | leaves h =>
    rw [h.draft]
    simp [Moment.declared?, Event.entity?]

/-- What is held after a run was held before it or has been declared on the way, and has not been replaced since. -/
theorem Run.holds (h : Run s moments s') (hs : s.stage.InStep) :
    s'.stage.draft.Holds e ↔ (s.stage.draft.Holds e ∧ Unreplaced e moments) ∨
      ∃ earlier m later, moments = earlier ++ m :: later ∧ m.declared? = some e ∧ Unreplaced e later := by
  induction h with
  | nil s => simp [Unreplaced]
  | @cons s s₁ s' event moments hstep _ ih =>
    have hmoves := moves_of_step hstep
    rw [ih (hmoves.inStep hs), hmoves.holds hs]
    have hunreplaced : Unreplaced e (⟨s, event⟩ :: moments) ↔
        Unreplaced e [⟨s, event⟩] ∧ Unreplaced e moments := by
      simp [Unreplaced]
    rw [hunreplaced]
    constructor
    · rintro (⟨⟨hheld, hfirst⟩ | hdeclared, hrest⟩ | ⟨earlier, m, later, rfl, hm, hlater⟩)
      · exact .inl ⟨hheld, hfirst, hrest⟩
      · exact .inr ⟨[], _, moments, rfl, hdeclared, hrest⟩
      · exact .inr ⟨_ :: earlier, m, later, rfl, hm, hlater⟩
    · rintro (⟨hheld, hfirst, hrest⟩ | ⟨_ | ⟨first, earlier⟩, m, later, heq, hm, hlater⟩)
      · exact .inl ⟨.inl ⟨hheld, hfirst⟩, hrest⟩
      · cases heq
        exact .inl ⟨.inr hm, hlater⟩
      · cases heq
        exact .inr ⟨earlier, m, later, rfl, hm, hlater⟩

/-- Nothing is being recorded at the end of a session, so its draft holds what its scene holds. -/
theorem holds_scene (hs : last.stage.InStep) (h : last.step = .finished) :
    last.scene.Holds e ↔ last.stage.draft.Holds e := by
  obtain ⟨hrec, _⟩ := ScopeStack.checkBalanced_eq_ok.1 (of_step_finished h).2.2
  have hnone : last.stage.draft.recording = none := by
    rw [Stage.InStep, hrec] at hs
    simpa using hs
  unfold Draft.Holds
  rw [hnone]
  simp [scene, Draft.scene]

/-! ### Objects -/

private theorem Moves.objects {object : ObjectDefinition} (h : s.Moves event s')
    (hobject : object ∈ s'.stage.draft.objects) :
    object ∈ s.stage.draft.objects ∨ (Moment.mk s event).completed? = some object := by
  cases h with
  | leaves h =>
    rw [h.draft] at hobject
    exact .inl hobject
  | performs h =>
    rcases Stage.execute_objects h.execute hobject with hold | ⟨rfl, name, hrec, rfl⟩
    · exact .inl hold
    · exact .inr (by simp [Moment.completed?, hrec])

/-- The objects after a run were there before it or have been completed on the way. -/
theorem Run.objects {object : ObjectDefinition} (h : Run s moments s') (hobject : object ∈ s'.stage.draft.objects) :
    object ∈ s.stage.draft.objects ∨ ∃ m ∈ moments, m.completed? = some object := by
  induction h with
  | nil s => exact .inl hobject
  | @cons s s₁ s' event moments hstep _ ih =>
    rcases ih hobject with hearly | ⟨m, hm, hcompleted⟩
    · rcases (moves_of_step hstep).objects hearly with hold | hcompleted
      · exact .inl hold
      · exact .inr ⟨_, List.mem_cons_self .., hcompleted⟩
    · exact .inr ⟨m, List.mem_cons_of_mem _ hm, hcompleted⟩

end Session

end SceneDescription
