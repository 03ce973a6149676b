import SceneDescription.Graphics.ScopeStack
import SceneDescription.Proofs.InPlace.Procedures

/-!
# Scopes in place

The operations on scopes as procedures that change a scope stack one field after the other.  Each of them looks before
it changes anything; the end of an object looks, closes the scope, which may still fail, and only then forgets the name
of the object.  So every call is all or nothing, whatever the scopes are like and whatever mark is given
(`ScopeCall.allOrNothing`), and it does what the operation on scopes does (`ScopeCall.run_carryOut`).
-/

namespace SceneDescription

namespace ScopeStack.InPlace

open Procedure

/-- The entry of the innermost scope. -/
def innermost : Procedure ScopeStack (ScopeKind × GraphicsState) := do
  match (← get).saved with
  | [] => throw .noOpenScope
  | entry :: _ => pure entry

/-- Takes the innermost entry off and brings back a state. -/
def bringBack (state : GraphicsState) : Procedure ScopeStack Unit := do
  modify fun s => { s with saved := s.saved.tail }
  modify fun s => { s with active := state }

def push (kind : ScopeKind) : Procedure ScopeStack Unit :=
  modify fun s => { s with saved := (kind, s.active) :: s.saved }

def pop (kind : ScopeKind) : Procedure ScopeStack Unit := do
  let s ← get
  demand (s.floor < s.depth) (.unmatchedEnd kind)
  let entry ← innermost
  demand (entry.1 = kind) (.crossedEnd kind entry.1)
  bringBack entry.2

def beginObject (name : String) : Procedure ScopeStack Unit := do
  match (← get).recording with
  | some within => throw (.nestedObject name within)
  | none => do
    push .object
    modify fun s => { s with recording := some name }

def endObject : Procedure ScopeStack String := do
  match (← get).recording with
  | none => throw (.unmatchedEnd .object)
  | some name => do
    pop .object
    modify fun s => { s with recording := none }
    return name

def checkpoint : Procedure ScopeStack Mark := do
  let s ← get
  push .imported
  modify fun s => { s with floor := s.depth }
  return ⟨s.depth, s.floor, s.recording⟩

def restore (mark : Mark) : Procedure ScopeStack Unit := do
  let s ← get
  demand (s.recording = mark.recording) (.unclosedObject s.recording)
  if s.depth ≠ mark.depth + 1 then
    let entry ← innermost
    throw (.unclosedScope entry.1)
  else
    let entry ← innermost
    bringBack entry.2
    modify fun s => { s with floor := mark.floor }

def checkBalanced : Procedure ScopeStack Unit := do
  let s ← get
  match s.recording, s.saved with
  | some name, _ => throw (.unclosedObject name)
  | none, (kind, _) :: _ => throw (.unclosedScope kind)
  | none, [] => pure ()

private theorem run_innermost_of_nil {s : ScopeStack} (h : s.saved = []) : innermost.run s = .error .noOpenScope s := by
  rw [innermost, EStateM.run_bind, EStateM.run_get]
  dsimp only
  rw [h]
  rfl

private theorem run_innermost_of_cons {s : ScopeStack} {entry : ScopeKind × GraphicsState}
    {rest : List (ScopeKind × GraphicsState)} (h : s.saved = entry :: rest) : innermost.run s = .ok entry s := by
  rw [innermost, EStateM.run_bind, EStateM.run_get]
  dsimp only
  rw [h]
  rfl

private theorem run_pop (s : ScopeStack) (kind : ScopeKind) :
    (pop kind).run s = settled s ((s.pop kind).map ((), ·)) := by
  simp only [pop, EStateM.run_bind, EStateM.run_get, run_demand, ScopeStack.pop]
  by_cases hfloor : s.depth ≤ s.floor
  · rw [if_pos hfloor, decide_eq_false (Nat.not_lt.2 hfloor)]
    rfl
  · rw [if_neg hfloor, decide_eq_true (Nat.lt_of_not_le hfloor)]
    -- Above the floor there is a scope, so the innermost entry is not missed.
    cases hsaved : s.saved with
    | nil => exact absurd (Nat.zero_le _) (by rwa [depth, hsaved] at hfloor)
    | cons entry rest =>
      by_cases hkind : entry.1 = kind <;>
        simp [run_innermost_of_cons hsaved, hsaved, hkind, bringBack, settled, Except.map]

private theorem run_beginObject (s : ScopeStack) (name : String) :
    (beginObject name).run s = settled s ((s.beginObject name).map ((), ·)) := by
  simp only [beginObject, EStateM.run_bind, EStateM.run_get, ScopeStack.beginObject]
  cases s.recording <;> rfl

private theorem run_endObject (s : ScopeStack) : endObject.run s = settled s s.endObject := by
  simp only [endObject, EStateM.run_bind, EStateM.run_get, ScopeStack.endObject]
  cases s.recording with
  | none => rfl
  | some name =>
    dsimp only
    rw [EStateM.run_bind, run_pop]
    cases s.pop .object <;> rfl

/-- The depth is compared first, but without any scope that makes no difference. -/
private theorem run_restore (s : ScopeStack) (mark : Mark) :
    (restore mark).run s = settled s ((s.restore mark).map ((), ·)) := by
  simp only [restore, EStateM.run_bind, EStateM.run_get, run_demand, ScopeStack.restore]
  by_cases hrec : s.recording = mark.recording
  · rw [if_neg (not_not_intro hrec), decide_eq_true hrec]
    cases hsaved : s.saved with
    | nil =>
      have hdepth : s.depth ≠ mark.depth + 1 := by simp [depth, hsaved]
      simp [run_innermost_of_nil hsaved, hdepth, settled, Except.map]
    | cons entry rest =>
      have hdepth : s.depth = rest.length + 1 := by rw [depth, hsaved, List.length_cons]
      by_cases hrest : rest.length = mark.depth <;>
        simp [run_innermost_of_cons hsaved, hsaved, hdepth, hrest, bringBack, settled, Except.map]
  · rw [if_pos hrec, decide_eq_false hrec]
    rfl

private theorem run_checkBalanced (s : ScopeStack) :
    checkBalanced.run s = settled s (s.checkBalanced.map fun _ => ((), s)) := by
  simp only [checkBalanced, EStateM.run_bind, EStateM.run_get, ScopeStack.checkBalanced]
  cases s.recording with
  | some name => rfl
  | none => cases s.saved <;> rfl

end ScopeStack.InPlace

/-- A call on a scope stack. -/
inductive ScopeCall
  | push (kind : ScopeKind)
  | pop (kind : ScopeKind)
  | beginObject (name : String)
  | endObject
  | checkpoint
  | restore (mark : Mark)
  | checkBalanced
  /-- Changes the active state in any way. -/
  | edit (change : GraphicsState → GraphicsState)
  /-- Asks for anything that can be seen of the scopes. -/
  | look

namespace ScopeCall

open Procedure

/-- What a call gives. -/
def Result : ScopeCall → Type
  | endObject => String
  | checkpoint => Mark
  | look => ScopeStack
  | _ => Unit

/-- A call in place. -/
def carryOut : (c : ScopeCall) → Procedure ScopeStack c.Result
  | push kind => ScopeStack.InPlace.push kind
  | pop kind => ScopeStack.InPlace.pop kind
  | beginObject name => ScopeStack.InPlace.beginObject name
  | endObject => ScopeStack.InPlace.endObject
  | checkpoint => ScopeStack.InPlace.checkpoint
  | restore mark => ScopeStack.InPlace.restore mark
  | checkBalanced => ScopeStack.InPlace.checkBalanced
  | edit change => modify fun s => { s with active := change s.active }
  | look => get

/-- The operation on scopes that belongs to a call. -/
def step : (c : ScopeCall) → ScopeStack → Except Fault (c.Result × ScopeStack)
  | push kind, s => .ok ((), s.push kind)
  | pop kind, s => (s.pop kind).map ((), ·)
  | beginObject name, s => (s.beginObject name).map ((), ·)
  | endObject, s => s.endObject
  | checkpoint, s => .ok s.checkpoint
  | restore mark, s => (s.restore mark).map ((), ·)
  | checkBalanced, s => s.checkBalanced.map fun _ => ((), s)
  | edit change, s => .ok ((), { s with active := change s.active })
  | look, s => .ok (s, s)

/-- A call in place comes to the same as the operation as a whole. -/
theorem run_carryOut (c : ScopeCall) (s : ScopeStack) : c.carryOut.run s = settled s (c.step s) := by
  cases c with
  | pop kind => exact ScopeStack.InPlace.run_pop s kind
  | beginObject name => exact ScopeStack.InPlace.run_beginObject s name
  | endObject => exact ScopeStack.InPlace.run_endObject s
  | restore mark => exact ScopeStack.InPlace.run_restore s mark
  | checkBalanced => exact ScopeStack.InPlace.run_checkBalanced s
  | push _ | checkpoint | edit _ | look => rfl

theorem allOrNothing (c : ScopeCall) : c.carryOut.AllOrNothing :=
  allOrNothing_of_settled c.run_carryOut

end ScopeCall

end SceneDescription
