import SceneDescription.Proofs.Splicing.Unlocated
import SceneDescription.Session

/-!
# Imports as attribute scopes

`Stage.flat` is the stage that has opened an attribute scope in place of each import.  It has no floor, so it
allows all that the stage itself allows.  Directives do the same to both (`Stage.execute_flat`), an import does to
one what `AttributeBegin` does to the other, and its end what `AttributeEnd` does.
-/

namespace SceneDescription

/-- An attribute scope in place of an import. -/
def ScopeKind.flat : ScopeKind → ScopeKind
  | imported => attributes
  | kind => kind

/-- Saved states with attribute scopes in place of imports. -/
def ScopeStack.flatSaved (saved : List (ScopeKind × GraphicsState)) : List (ScopeKind × GraphicsState) :=
  saved.map fun (kind, state) => (kind.flat, state)

def ScopeStack.flat (s : ScopeStack) : ScopeStack :=
  { s with saved := flatSaved s.saved, floor := 0 }

def Stage.flat (s : Stage) : Stage :=
  { s with scopes := s.scopes.flat }

namespace ScopeStack

variable {s s' : ScopeStack}

/-- With no floor, the innermost scope can always be closed. -/
private theorem pop_flat_of_saved {kind : ScopeKind} {state : GraphicsState} {rest : List (ScopeKind × GraphicsState)}
    (hsaved : s.saved = (kind, state) :: rest) :
    s.flat.pop kind.flat = .ok { s.flat with active := state, saved := flatSaved rest } := by
  have hflat : s.flat.saved = (kind.flat, state) :: flatSaved rest := by
    simp [flat, flatSaved, hsaved]
  refine pop_eq_ok.2 ⟨?_, state, flatSaved rest, hflat, rfl⟩
  rw [depth, hflat]
  exact Nat.succ_pos _

private theorem pop_flat {kind : ScopeKind} (h : s.pop kind = .ok s') : s.flat.pop kind.flat = .ok s'.flat := by
  obtain ⟨_, state, rest, hsaved, rfl⟩ := pop_eq_ok.1 h
  exact pop_flat_of_saved hsaved

private theorem beginObject_flat {name : String} (h : s.beginObject name = .ok s') :
    s.flat.beginObject name = .ok s'.flat := by
  obtain ⟨hrecording, rfl⟩ := beginObject_eq_ok.1 h
  exact beginObject_eq_ok.2 ⟨hrecording, rfl⟩

private theorem endObject_flat {name : String} (h : s.endObject = .ok (name, s')) :
    s.flat.endObject = .ok (name, s'.flat) := by
  obtain ⟨hrecording, _, state, rest, hsaved, rfl⟩ := endObject_eq_ok.1 h
  have hrecording' : s.flat.recording = some name := hrecording
  unfold endObject
  rw [hrecording']
  exact bind_pure_eq_ok.2 ⟨_, pop_flat_of_saved hsaved, rfl⟩

/-- The end of an import is the end of an attribute scope: nothing else can be the innermost scope then. -/
private theorem restore_flat {mark : Mark} {marks : List Mark}
    (hopen : OpenScopes s.kinds s.floor s.recording (mark :: marks)) (h : s.restore mark = .ok s') :
    s.flat.pop .attributes = .ok s'.flat := by
  obtain ⟨_, kind, state, rest, hsaved, hdepth, rfl⟩ := restore_eq_ok.1 h
  have hkinds : s.kinds = kind :: rest.map (·.1) := by simp [kinds, hsaved]
  rw [hkinds] at hopen
  obtain ⟨rfl, _⟩ := hopen.of_depth_eq (by rw [List.length_map]; exact hdepth)
  exact pop_flat_of_saved hsaved

theorem checkBalanced_flat (h : s.checkBalanced = .ok ()) : s.flat.checkBalanced = .ok () := by
  obtain ⟨hrecording, hsaved⟩ := checkBalanced_eq_ok.1 h
  exact checkBalanced_eq_ok.2 ⟨hrecording, by simp [flat, flatSaved, hsaved]⟩

theorem checkBalanced_congr {t : ScopeStack} (hst : s.unlocated = t.unlocated) (h : s.checkBalanced = .ok ()) :
    t.checkBalanced = .ok () := by
  obtain ⟨hrecording, hsaved⟩ := checkBalanced_eq_ok.1 h
  have hrecording' : s.recording = t.recording := congrArg (·.recording) hst
  have hsaved' : s.unlocated.saved = t.unlocated.saved := congrArg (·.saved) hst
  refine checkBalanced_eq_ok.2 ⟨hrecording'.symm.trans hrecording, ?_⟩
  simpa [unlocated, hsaved] using hsaved'

end ScopeStack

namespace Stage

variable [LinearAlgebra] {s s' t : Stage} {location : Location} {d : Directive}

/-- A directive that does not open a file does the same with attribute scopes in place of imports. -/
theorem execute_flat (hopens : d.opens? = none) (h : s.execute location d = .ok s') :
    s.flat.execute location d = .ok s'.flat := by
  cases d with
  | includeFile path | importFile path => cases hopens
  | attributeEnd | transformEnd =>
    obtain ⟨scopes, hpop, rfl⟩ := bind_pure_eq_ok.1 h
    exact bind_pure_eq_ok.2 ⟨scopes.flat, ScopeStack.pop_flat hpop, rfl⟩
  | objectBegin name =>
    obtain ⟨scopes, hbegin, h⟩ := bind_eq_ok.1 h
    obtain ⟨draft, hdraft, rfl⟩ := bind_pure_eq_ok.1 h
    refine bind_eq_ok.2 ⟨scopes.flat, ScopeStack.beginObject_flat hbegin, ?_⟩
    exact bind_pure_eq_ok.2 ⟨draft, hdraft, rfl⟩
  | objectEnd =>
    obtain ⟨⟨name, scopes⟩, hend, rfl⟩ := bind_pure_eq_ok.1 h
    exact bind_pure_eq_ok.2 ⟨(name, scopes.flat), ScopeStack.endObject_flat hend, rfl⟩
  | objectInstance name =>
    simp only [execute, placeObject] at h ⊢
    have hrecording : s.flat.scopes.recording = s.scopes.recording := rfl
    rw [hrecording]
    cases hs : s.scopes.recording with
    | some within => simp [hs] at h
    | none =>
      rw [hs] at h
      obtain ⟨object, hobject, rfl⟩ := bind_pure_eq_ok.1 h
      exact bind_pure_eq_ok.2 ⟨object, hobject, rfl⟩
  | replaceTransform motion | composeTransform motion | coordSysTransform name | namedMaterial name
  | material type params | texture name valueType textureClass params =>
    obtain ⟨found, hfound, rfl⟩ := bind_pure_eq_ok.1 h
    exact bind_pure_eq_ok.2 ⟨found, hfound, rfl⟩
  | makeNamedMaterial name params | makeNamedMedium name params | mediumInterface inside outside =>
    obtain ⟨first, hfirst, h⟩ := bind_eq_ok.1 h
    obtain ⟨second, hsecond, rfl⟩ := bind_pure_eq_ok.1 h
    exact bind_eq_ok.2 ⟨first, hfirst, bind_pure_eq_ok.2 ⟨second, hsecond, rfl⟩⟩
  | _ =>
    cases h
    rfl

theorem import_flat {path : String} (h : s.execute location (.importFile path) = .ok s') :
    s.flat.execute location .attributeBegin = .ok s'.flat := by
  cases h
  rfl

theorem leaveImport_flat {mark : Mark} {marks : List Mark} (location : Location)
    (hopen : OpenScopes s.scopes.kinds s.scopes.floor s.scopes.recording (mark :: marks))
    (h : s.leaveImport mark = .ok s') : s.flat.execute location .attributeEnd = .ok s'.flat := by
  obtain ⟨scopes, hrestore, rfl⟩ := bind_pure_eq_ok.1 h
  exact bind_pure_eq_ok.2 ⟨scopes.flat, ScopeStack.restore_flat hopen hrestore, rfl⟩

/-- A directive that is carried out on a stage is carried out on all that agree with it up to locations. -/
theorem execute_congr (hst : s.unlocated = t.unlocated) (location' : Location)
    (h : s.execute location d = .ok s') :
    ∃ t', t.execute location' d = .ok t' ∧ s'.unlocated = t'.unlocated :=
  exists_ok_of_map_eq (execute_unlocated hst location location' d) h

end Stage

end SceneDescription
