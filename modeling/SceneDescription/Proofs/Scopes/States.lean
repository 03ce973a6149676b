import SceneDescription.Proofs.Scopes.Machine

/-!
# Scopes do not look at states

A scope saves a graphics state and brings it back as it was.  So a function that is applied to all states of a machine
goes along with every operation that is not an edit (`ScopeMachine.step_mapStates`), and two machines that agree up to
such a function still do so after the same operation, or after edits whose results agree (`ScopeMachine.step_congr`).
-/

namespace SceneDescription

/-- Applies a function to the active state and to all saved ones. -/
def ScopeStack.mapStates (g : GraphicsState → GraphicsState) (s : ScopeStack) : ScopeStack :=
  { s with active := g s.active, saved := s.saved.map fun (kind, state) => (kind, g state) }

@[simp] theorem ScopeStack.depth_mapStates (g : GraphicsState → GraphicsState) (s : ScopeStack) :
    (s.mapStates g).depth = s.depth :=
  List.length_map _

/-- The saved states behind the end of a scope. -/
private theorem ScopeStack.saved_mapStates {g : GraphicsState → GraphicsState} {s : ScopeStack} {kind : ScopeKind}
    {state : GraphicsState} {rest : List (ScopeKind × GraphicsState)} (h : s.saved = (kind, state) :: rest) :
    (s.mapStates g).saved = (kind, g state) :: rest.map fun (kind, state) => (kind, g state) := by
  rw [mapStates, h]
  rfl

namespace ScopeMachine

variable {m m' n n' : ScopeMachine} {x y : ScopeOp} {g : GraphicsState → GraphicsState}

def mapStates (g : GraphicsState → GraphicsState) (m : ScopeMachine) : ScopeMachine :=
  { m with stack := m.stack.mapStates g }

theorem step_mapStates (h : m.step x = .ok m') (hx : x.side ≠ .plain) :
    (m.mapStates g).step x = .ok (m'.mapStates g) := by
  cases x with
  | edit change => exact absurd rfl hx
  | beginAttributes | beginTransforms =>
    cases h
    rfl
  | checkpoint =>
    cases h
    have hdepth : (m.mapStates g).stack.depth = m.stack.depth := m.stack.depth_mapStates g
    simp only [step, ScopeStack.checkpoint, hdepth]
    rfl
  | beginObject name =>
    obtain ⟨_, hbegin, rfl⟩ := bind_pure_eq_ok.1 h
    obtain ⟨hrec, rfl⟩ := ScopeStack.beginObject_eq_ok.1 hbegin
    exact bind_pure_eq_ok.2 ⟨_, ScopeStack.beginObject_eq_ok.2 ⟨hrec, rfl⟩, rfl⟩
  | endAttributes | endTransforms =>
    obtain ⟨_, hpop, rfl⟩ := bind_pure_eq_ok.1 h
    obtain ⟨hfloor, state, rest, hsaved, rfl⟩ := ScopeStack.pop_eq_ok.1 hpop
    have hfloor' : (m.stack.mapStates g).floor < (m.stack.mapStates g).depth := by
      rwa [ScopeStack.depth_mapStates]
    exact bind_pure_eq_ok.2 ⟨_, ScopeStack.pop_eq_ok.2 ⟨hfloor', _, _, ScopeStack.saved_mapStates hsaved, rfl⟩, rfl⟩
  | endObject =>
    obtain ⟨⟨name, _⟩, hend, rfl⟩ := bind_pure_eq_ok.1 h
    obtain ⟨hrec, hfloor, state, rest, hsaved, rfl⟩ := ScopeStack.endObject_eq_ok.1 hend
    have hfloor' : (m.stack.mapStates g).floor < (m.stack.mapStates g).depth := by
      rwa [ScopeStack.depth_mapStates]
    refine bind_pure_eq_ok.2 ⟨(name, _), ScopeStack.endObject_eq_ok.2 ?_, rfl⟩
    exact ⟨hrec, hfloor', _, _, ScopeStack.saved_mapStates hsaved, rfl⟩
  | restore =>
    obtain ⟨stack, marks⟩ := m
    cases marks with
    | nil => cases h
    | cons mark marks =>
      obtain ⟨_, hrestore, rfl⟩ := bind_pure_eq_ok.1 h
      obtain ⟨hrec, kind, state, rest, hsaved, hdepth, rfl⟩ := ScopeStack.restore_eq_ok.1 hrestore
      refine bind_pure_eq_ok.2 ⟨_, ScopeStack.restore_eq_ok.2 ?_, rfl⟩
      exact ⟨hrec, kind, _, _, ScopeStack.saved_mapStates hsaved, by rwa [List.length_map], rfl⟩

/-- The operations are the same, or they are edits with results that agree. -/
def Agree (g : GraphicsState → GraphicsState) (m n : ScopeMachine) (x y : ScopeOp) : Prop :=
  (x.side ≠ .plain ∧ x = y) ∨
    (x.side = .plain ∧ y.side = .plain ∧ g (x.effect m.stack.active) = g (y.effect n.stack.active))

theorem step_congr (hmn : m.mapStates g = n.mapStates g) (hxy : Agree g m n x y) (h : m.step x = .ok m')
    (h' : n.step y = .ok n') : m'.mapStates g = n'.mapStates g := by
  rcases hxy with ⟨hx, rfl⟩ | ⟨hx, hy, heq⟩
  · have hstep := step_mapStates (g := g) h hx
    rw [hmn, step_mapStates h' hx] at hstep
    exact (Except.ok.inj hstep).symm
  · rw [step_plain h hx, step_plain h' hy]
    calc (m.withActive (x.effect m.stack.active)).mapStates g
        = (m.mapStates g).withActive (g (x.effect m.stack.active)) := rfl
      _ = (n.mapStates g).withActive (g (y.effect n.stack.active)) := by rw [hmn, heq]
      _ = (n.withActive (y.effect n.stack.active)).mapStates g := rfl

end ScopeMachine

end SceneDescription
