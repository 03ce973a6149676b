import SceneDescription.Proofs.Sessions.Runs
import SceneDescription.Proofs.Stages.Scopes

/-!
# Sessions as words of scope operations

What a step of a session does to the scopes is one operation of the scope machine, whose marks are those that the
open files carry (`Session.Moves.machine`).  So the moments of a run are a word over the scope operations, and the
scopes of a session are always consistent with its open files.
-/

namespace SceneDescription

/-- The scope operation of an event. -/
def Event.op [LinearAlgebra] (draft : Draft) : Event → ScopeOp
  | .performed _ d location => d.op draft location
  | .left _ (some _) => .restore
  | .left _ none => .edit id

namespace Moment

def op [LinearAlgebra] (m : Moment) : ScopeOp :=
  m.event.op m.before.stage.draft

/-- What an event does to the nesting of scopes. -/
def side [LinearAlgebra] (m : Moment) : Side :=
  m.op.side

/-- What an event does to the graphics state; what the end of a scope brings back is not counted. -/
def effect [LinearAlgebra] (m : Moment) : GraphicsState → GraphicsState :=
  m.op.effect

end Moment

namespace Session

variable {s s' : Session} {e : Event}

/-- The marks of the open files, innermost first. -/
def openMarks (frames : List (Frame Mark)) : List Mark :=
  frames.filterMap (·.onClose)

theorem openMarks_withCursor (t : Stream Mark) (c : Cursor) :
    openMarks (t.withCursor c).frames = openMarks t.frames :=
  rfl

theorem openMarks_backTo (inner outer : Frame Mark) (below : List (Frame Mark)) :
    openMarks (Stream.backTo inner outer below).frames = openMarks (outer :: below) :=
  rfl

theorem openMarks_cons (frame : Frame Mark) (frames : List (Frame Mark)) :
    openMarks (frame :: frames) = frame.onClose.toList ++ openMarks frames := by
  unfold openMarks
  rw [List.filterMap_cons]
  cases frame.onClose <;> rfl

/-- The scopes of a session, with the marks of the files that are being imported. -/
def machine (s : Session) : ScopeMachine where
  stack := s.stage.scopes
  marks := openMarks s.stream.frames

private theorem Start.machine (h : s.Start) : s.machine = {} := by
  obtain ⟨hbelow, hclose⟩ := h.frames
  simp [Session.machine, h.stage, openMarks, Stream.frames, hbelow, hclose]

/-- A directive opens a file with the mark that belongs to it. -/
theorem marksAfter_eq (s : Session) (marks : List Mark) (d : Directive) :
    s.stage.marksAfter marks d = (s.markFor d).toList ++ marks := by
  cases d <;> rfl

/-- Each step of a session is one operation of the scope machine. -/
theorem Moves.machine [LinearAlgebra] (h : s.Moves e s') : s.machine.step (e.op s.stage.draft) = .ok s'.machine := by
  cases h with
  | @performs t c₁ c₂ keyword d _ h =>
    have hstep := Stage.execute_scopes h.execute (openMarks s.stream.frames)
    rw [marksAfter_eq] at hstep
    refine hstep.trans (congrArg (fun marks => Except.ok (ScopeMachine.mk s'.stage.scopes marks)) ?_)
    rcases h.stream with ⟨hopens, hstream⟩ | ⟨relative, path, _, hopen⟩
    · have hmark : s.markFor d = none := by
        cases d with
        | importFile path => cases hopens
        | _ => rfl
      rw [hmark, hstream, openMarks_withCursor]
      rfl
    · obtain ⟨_, text, _, hstream⟩ := Stream.openFile_eq_ok hopen
      rw [hstream]
      exact (openMarks_cons ⟨_, _, _, _, s.markFor d⟩ (s.stream.withCursor c₂).frames).symm
  | leaves h =>
    have hmarks : openMarks s.stream.frames = s.stream.top.onClose.toList ++ openMarks s'.stream.frames := by
      rw [h.stream, openMarks_backTo, Stream.frames, openMarks_cons, h.around]
    rcases h.stage with ⟨hclose, hstage⟩ | ⟨mark, hclose, hleave⟩
    · rw [hclose] at hmarks ⊢
      simp [Event.op, ScopeMachine.step, ScopeMachine.withActive, Session.machine, hmarks, hstage]
    · obtain ⟨scopes, hrestore, hstage⟩ := bind_pure_eq_ok.1 hleave
      rw [hclose] at hmarks ⊢
      unfold Session.machine
      rw [hmarks, ← hstage]
      exact bind_pure_eq_ok.2 ⟨scopes, hrestore, rfl⟩

/-- The scopes of a session hang together, also with the marks of the open files. -/
def Consistent (s : Session) : Prop :=
  s.machine.Consistent

theorem Start.consistent (h : s.Start) : s.Consistent := by
  unfold Consistent
  rw [h.machine]
  exact OpenScopes.none

theorem Moves.consistent [LinearAlgebra] (hs : s.Consistent) (h : s.Moves e s') : s'.Consistent :=
  (ScopeMachine.step_consistent hs h.machine).1

namespace Run

variable {moments : List Moment}

theorem machine [LinearAlgebra] (h : Run s moments s') : s.machine.run (moments.map Moment.op) = .ok s'.machine := by
  induction h with
  | nil s => rfl
  | cons hstep _ ih => exact ScopeMachine.run_cons_eq_ok.2 ⟨_, (moves_of_step hstep).machine, ih⟩

/-- The moments of a run from the start are well nested, up to the scopes that are still open. -/
theorem unclosed [LinearAlgebra] {earlier : List Moment} (h : Run s moments s') (hs : s.Consistent)
    (hearlier : Unclosed Moment.side s.stage.scopes.kinds earlier) :
    Unclosed Moment.side s'.stage.scopes.kinds (earlier ++ moments) := by
  induction h generalizing earlier with
  | nil s => simpa using hearlier
  | @cons s s₁ s' e moments hstep _ ih =>
    have hmoves := moves_of_step hstep
    have hnext : (Moment.side ⟨s, e⟩).next s.stage.scopes.kinds = some s₁.stage.scopes.kinds :=
      (ScopeMachine.step_consistent hs hmoves.machine).2
    have := ih (hmoves.consistent hs) (hearlier.next hnext)
    simpa using this

theorem unclosed_of_saved [LinearAlgebra] (h : Run s moments s') (hs : s.Consistent)
    (hsaved : s.stage.scopes.saved = []) : Unclosed Moment.side s'.stage.scopes.kinds moments := by
  have hnone : Unclosed Moment.side s.stage.scopes.kinds [] := by
    rw [ScopeStack.kinds, hsaved]
    exact WellNested.nil
  exact h.unclosed hs hnone

end Run

end Session

end SceneDescription
