import SceneDescription.Fault
import SceneDescription.Proofs.Results

/-!
# Procedures that work in place

A procedure works on a state in place, one step after the other, and may fail on its way; what it has changed by then
stays changed.  It is all or nothing if it never leaves a change behind when it fails.  This depends on the order of its
steps: looking first does no harm (`LooksOnly.bind_allOrNothing`), and where nothing can fail any more, anything may be
changed (`NeverFails.allOrNothing`).  Where all calls are all or nothing, those that fail can be left out of any
sequence of calls: the others give what they gave, and the state is the same in the end (`transcript_unfailing`).
-/

namespace SceneDescription

abbrev Procedure (σ α : Type) : Type :=
  EStateM Fault σ α

namespace Procedure

variable {σ τ α β : Type} {p : Procedure σ α} {q : α → Procedure σ β} {s : σ}

/-- The result of a procedure, or its fault. -/
def answer (p : Procedure σ α) (s : σ) : Except Fault α :=
  match p.run s with
  | .ok a _ => .ok a
  | .error f _ => .error f

/-- The state that a procedure leaves behind, whether it fails or not. -/
def after (p : Procedure σ α) (s : σ) : σ :=
  match p.run s with
  | .ok _ s' => s'
  | .error _ s' => s'

/-- Fails if something is not the case. -/
def demand (holds : Bool) (fault : Fault) : Procedure σ Unit :=
  if holds then pure () else throw fault

/-- What is left of a step that happens as a whole or not at all. -/
def settled (old : σ) : Except Fault (α × σ) → EStateM.Result Fault σ α
  | .ok (a, new) => .ok a new
  | .error f => .error f old

@[simp]
theorem run_demand (holds : Bool) (fault : Fault) (s : σ) :
    (demand holds fault).run s = if holds then .ok () s else .error fault s := by
  cases holds <;> rfl

/-! ### All or nothing -/

/-- The state stays as it is. -/
def LooksOnly (p : Procedure σ α) : Prop :=
  ∀ s, p.after s = s

def NeverFails (p : Procedure σ α) : Prop :=
  ∀ s f, p.answer s ≠ .error f

/-- The state stays as it is if the procedure fails. -/
def AllOrNothing (p : Procedure σ α) : Prop :=
  ∀ s f, p.answer s = .error f → p.after s = s

theorem LooksOnly.allOrNothing (h : p.LooksOnly) : p.AllOrNothing :=
  fun s _ _ => h s

theorem NeverFails.allOrNothing (h : p.NeverFails) : p.AllOrNothing :=
  fun s f hf => absurd hf (h s f)

/-- A procedure that comes to the same as a step that happens as a whole. -/
theorem allOrNothing_of_settled {step : σ → Except Fault (α × σ)} (h : ∀ s, p.run s = settled s (step s)) :
    p.AllOrNothing := by
  intro s f hf
  unfold answer after at *
  rw [h s] at hf ⊢
  cases hstep : step s with
  | ok result =>
    rw [hstep] at hf
    cases hf
  | error g => rfl

theorem looksOnly_pure (a : α) : LooksOnly (pure a : Procedure σ α) :=
  fun _ => rfl

theorem looksOnly_throw (f : Fault) : LooksOnly (throw f : Procedure σ α) :=
  fun _ => rfl

theorem looksOnly_get : LooksOnly (get : Procedure σ σ) :=
  fun _ => rfl

theorem looksOnly_demand (holds : Bool) (fault : Fault) : LooksOnly (demand holds fault : Procedure σ Unit) := by
  cases holds
  · exact looksOnly_throw fault
  · exact looksOnly_pure ()

theorem neverFails_get : NeverFails (get : Procedure σ σ) := by
  rintro s f ⟨⟩

theorem neverFails_modify (change : σ → σ) : NeverFails (modify change : Procedure σ Unit) := by
  rintro s f ⟨⟩

private theorem answer_bind (p : Procedure σ α) (q : α → Procedure σ β) (s : σ) :
    (p >>= q).answer s = p.answer s >>= fun a => (q a).answer (p.after s) := by
  unfold answer after
  rw [EStateM.run_bind]
  cases p.run s <;> rfl

private theorem after_bind_of_ok {a : α} (h : p.answer s = .ok a) (q : α → Procedure σ β) :
    (p >>= q).after s = (q a).after (p.after s) := by
  unfold answer after at *
  rw [EStateM.run_bind]
  cases hp : p.run s with
  | ok b s' =>
    rw [hp] at h
    cases h
    rfl
  | error f s' =>
    rw [hp] at h
    cases h

private theorem after_bind_of_error {f : Fault} (h : p.answer s = .error f) (q : α → Procedure σ β) :
    (p >>= q).after s = p.after s := by
  unfold answer after at *
  rw [EStateM.run_bind]
  cases hp : p.run s with
  | ok a s' =>
    rw [hp] at h
    cases h
  | error g s' => rfl

theorem NeverFails.bind (hp : p.NeverFails) (hq : ∀ a, (q a).NeverFails) : (p >>= q).NeverFails := by
  intro s f h
  rw [answer_bind] at h
  rcases bind_eq_error.1 h with hfirst | ⟨a, _, hnext⟩
  · exact hp s f hfirst
  · exact hq a _ f hnext

theorem LooksOnly.bind (hp : p.LooksOnly) (hq : ∀ a, (q a).LooksOnly) : (p >>= q).LooksOnly := by
  intro s
  cases h : p.answer s with
  | ok a => rw [after_bind_of_ok h, hq a, hp]
  | error f => rw [after_bind_of_error h, hp]

/-- Looking first does no harm. -/
theorem LooksOnly.bind_allOrNothing (hp : p.LooksOnly) (hq : ∀ a, (q a).AllOrNothing) : (p >>= q).AllOrNothing := by
  intro s f h
  rw [answer_bind] at h
  rcases bind_eq_error.1 h with hfirst | ⟨a, ha, hnext⟩
  · rw [after_bind_of_error hfirst]
    exact hp s
  · rw [after_bind_of_ok ha, hq a _ f hnext]
    exact hp s

/-! ### Parts of states -/

section Parts

variable {part : τ → σ} {replace : σ → τ → τ}

/-- A procedure on a part of a larger state. -/
def onPart (part : τ → σ) (replace : σ → τ → τ) (p : Procedure σ α) : Procedure τ α := fun t =>
  match p.run (part t) with
  | .ok a s => .ok a (replace s t)
  | .error f s => .error f (replace s t)

private theorem answer_onPart (p : Procedure σ α) (t : τ) : (p.onPart part replace).answer t = p.answer (part t) := by
  simp only [answer, onPart, EStateM.run]
  cases p (part t) <;> rfl

private theorem after_onPart (p : Procedure σ α) (t : τ) :
    (p.onPart part replace).after t = replace (p.after (part t)) t := by
  simp only [after, onPart, EStateM.run]
  cases p (part t) <;> rfl

theorem AllOrNothing.onPart (h : p.AllOrNothing) (hsame : ∀ t, replace (part t) t = t) :
    (p.onPart part replace).AllOrNothing := by
  intro t f hf
  rw [answer_onPart] at hf
  rw [after_onPart, h _ f hf, hsame]

end Parts

end Procedure

/-! ### Sequences of calls -/

section Calls

open Procedure

variable {κ σ : Type} {ρ : κ → Type} (carryOut : (c : κ) → Procedure σ (ρ c))

/-- What calls give, each with its result or fault; a call that fails does not stop those behind it. -/
def transcript (s : σ) : List κ → List ((c : κ) × Except Fault (ρ c))
  | [] => []
  | c :: calls => ⟨c, (carryOut c).answer s⟩ :: transcript ((carryOut c).after s) calls

/-- The state behind calls. -/
def afterAll (s : σ) (calls : List κ) : σ :=
  calls.foldl (fun s c => (carryOut c).after s) s

/-- The calls that do not fail, where all of them are carried out. -/
def unfailing (s : σ) (calls : List κ) : List κ :=
  ((transcript carryOut s calls).filter (·.2.isOk)).map (·.1)

variable {carryOut} {c : κ} {s : σ} {calls : List κ}

private theorem filter_transcript_cons_of_ok {a : ρ c} (h : (carryOut c).answer s = .ok a) :
    (transcript carryOut s (c :: calls)).filter (·.2.isOk) =
      ⟨c, .ok a⟩ :: (transcript carryOut ((carryOut c).after s) calls).filter (·.2.isOk) := by
  rw [transcript, h]
  exact List.filter_cons_of_pos rfl

private theorem filter_transcript_cons_of_error {f : Fault} (h : (carryOut c).answer s = .error f) :
    (transcript carryOut s (c :: calls)).filter (·.2.isOk) =
      (transcript carryOut ((carryOut c).after s) calls).filter (·.2.isOk) := by
  rw [transcript, h]
  exact List.filter_cons_of_neg Bool.false_ne_true

/-- Without the calls that fail, the others give what they gave, and the state is the same in the end. -/
theorem transcript_unfailing (hall : ∀ c, (carryOut c).AllOrNothing) (s : σ) (calls : List κ) :
    transcript carryOut s (unfailing carryOut s calls) = (transcript carryOut s calls).filter (·.2.isOk) ∧
      afterAll carryOut s (unfailing carryOut s calls) = afterAll carryOut s calls := by
  -- Over all states, since a call that does not fail moves the others on to the state that it leaves.
  induction calls generalizing s with
  | nil => exact ⟨rfl, rfl⟩
  | cons c calls ih =>
    obtain ⟨hlog, hlast⟩ := ih ((carryOut c).after s)
    have hstep : afterAll carryOut s (c :: calls) = afterAll carryOut ((carryOut c).after s) calls := rfl
    unfold unfailing at hlog hlast ⊢
    cases hc : (carryOut c).answer s with
    | ok a =>
      rw [filter_transcript_cons_of_ok hc, List.map_cons, hstep]
      refine ⟨?_, hlast⟩
      rw [transcript, hlog, hc]
    | error f =>
      -- The state behind the call is the one before it, so what holds of the rest holds from here.
      rw [filter_transcript_cons_of_error hc, hstep]
      rw [hall c s f hc] at hlog hlast ⊢
      exact ⟨hlog, hlast⟩

end Calls

end SceneDescription
