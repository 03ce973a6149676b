import SceneDescription.Fault
import SceneDescription.Graphics.State

/-!
# Scopes

A scope saves the graphics state when it is opened and brings it back when it is closed.  Scopes nest.  Reading
an imported file is a scope too, and while it is open no scope around it can be closed.  An operation that fails
gives a fault and no new stack.
-/

namespace SceneDescription

variable [LinearAlgebra]

structure ScopeStack where
  /-- The state that declarations inherit. -/
  active : GraphicsState := {}
  /-- The kinds of the open scopes and the states they saved, innermost first. -/
  saved : List (ScopeKind × GraphicsState) := []
  /-- The number of outermost scopes that cannot be closed at present. -/
  floor : Nat := 0
  /-- The name of the object that is being recorded. -/
  recording : Option String := none

/-- What an import remembers of the scopes around it. -/
structure Mark where
  depth : Nat
  floor : Nat
  recording : Option String
  deriving DecidableEq

namespace ScopeStack

/-- The number of open scopes. -/
def depth (s : ScopeStack) : Nat :=
  s.saved.length

def edit (s : ScopeStack) (e : Edit) : ScopeStack :=
  { s with active := e.apply s.active }

/-- Opens a scope. -/
def push (s : ScopeStack) (kind : ScopeKind) : ScopeStack :=
  { s with saved := (kind, s.active) :: s.saved }

/-- Closes the innermost scope, which must be of the given kind and above the floor. -/
def pop (s : ScopeStack) (kind : ScopeKind) : Except Fault ScopeStack :=
  if s.depth ≤ s.floor then .error (.unmatchedEnd kind)
  else match s.saved with
    | [] => .error (.unmatchedEnd kind)
    | (innermost, state) :: rest =>
      if innermost = kind then .ok { s with active := state, saved := rest }
      else .error (.crossedEnd kind innermost)

/-- Starts to record an object; objects do not nest. -/
def beginObject (s : ScopeStack) (name : String) : Except Fault ScopeStack :=
  match s.recording with
  | some within => .error (.nestedObject name within)
  | none => .ok { s.push .object with recording := some name }

/-- Stops to record an object, and gives its name. -/
def endObject (s : ScopeStack) : Except Fault (String × ScopeStack) :=
  match s.recording with
  | none => .error (.unmatchedEnd .object)
  | some name => do
    let s ← s.pop .object
    return (name, { s with recording := none })

/-- Opens the scope of an import, and raises the floor to it. -/
def checkpoint (s : ScopeStack) : Mark × ScopeStack :=
  (⟨s.depth, s.floor, s.recording⟩, { s.push .imported with floor := s.depth + 1 })

/-- Closes the scope of an import; everything opened since must have been closed. -/
def restore (s : ScopeStack) (mark : Mark) : Except Fault ScopeStack :=
  if s.recording ≠ mark.recording then .error (.unclosedObject s.recording)
  else match s.saved with
    | [] => .error .noOpenScope
    | (innermost, state) :: rest =>
      if rest.length = mark.depth then .ok { s with active := state, saved := rest, floor := mark.floor }
      else .error (.unclosedScope innermost)

/-- Fails if a scope is open. -/
def checkBalanced (s : ScopeStack) : Except Fault Unit :=
  match s.recording, s.saved with
  | some name, _ => .error (.unclosedObject name)
  | none, (innermost, _) :: _ => .error (.unclosedScope innermost)
  | none, [] => .ok ()

end ScopeStack

end SceneDescription
