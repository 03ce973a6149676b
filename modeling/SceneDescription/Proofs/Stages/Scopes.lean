import SceneDescription.Directive.Stage
import SceneDescription.Proofs.Scopes.Machine

/-!
# What directives do to the scopes

Each directive is one operation of the scope machine: it opens a scope, closes one, or edits the active graphics
state.  The edit depends on the draft only where a name is looked up.  One directive changes the phase.
-/

namespace SceneDescription

/-- The edit that a directive makes in a graphics state.  The draft is asked only for what a name stands for when
the directive is carried out: a transformation or a material. -/
def Directive.edit? [LinearAlgebra] (draft : Draft) (location : Location) (state : GraphicsState) :
    Directive → Option Edit
  | .worldBegin => some .enterWorld
  | .replaceTransform motion => motion.toMatrix.toOption.map .replace
  | .composeTransform motion => motion.toMatrix.toOption.map .compose
  | .coordSysTransform name => (draft.coordinateSystems.lookup name).map .reinstate
  | .activeTransform times => some (.activate times)
  | .reverseOrientation => some .reverse
  | .attributeDefaults target params => some (.addDefaults target params)
  | .areaLightSource type params =>
    some (.useAreaLight { type, params := params.mergedOver (state.defaults "light"), location })
  | .material type params =>
    some (.useMaterial { type, params := params.mergedOver (state.defaults "material"), location })
  | .namedMaterial name => (draft.material? name).map .useMaterial
  | .mediumInterface inside outside =>
    some (.useMedia ⟨if inside = "" then none else some inside, if outside = "" then none else some outside⟩)
  | _ => none

/-- The graphics state after a directive that opens and closes no scope. -/
def Directive.effect [LinearAlgebra] (draft : Draft) (location : Location) (d : Directive) (state : GraphicsState) :
    GraphicsState :=
  match d.edit? draft location state with
  | some e => e.apply state
  | none => state

/-- The scope operation that a directive carries out. -/
def Directive.op [LinearAlgebra] (draft : Draft) (location : Location) : Directive → ScopeOp
  | .attributeBegin => .beginAttributes
  | .attributeEnd => .endAttributes
  | .transformBegin => .beginTransforms
  | .transformEnd => .endTransforms
  | .objectBegin name => .beginObject name
  | .objectEnd => .endObject
  | .importFile _ => .checkpoint
  | d => .edit (d.effect draft location)

theorem Directive.effect_op [LinearAlgebra] (draft : Draft) (location : Location) (d : Directive)
    (state : GraphicsState) : (d.op draft location).effect state = d.effect draft location state := by
  cases d <;> rfl

theorem Draft.defined_eq_ok {α : Type} {thing : Named} {name : String} {o : Option α} {a : α}
    (h : Draft.defined thing name o = .ok a) : o = some a := by
  cases o with
  | none => cases h
  | some b =>
    cases h
    rfl

namespace Stage

variable {s s' : Stage} {location : Location} {d : Directive}

theorem mediumNamed_eq_ok {name : String} {medium : Option String} (h : s.mediumNamed name = .ok medium) :
    medium = (if name = "" then none else some name) ∧ (name ≠ "" → (s.draft.medium? name).isSome) := by
  unfold mediumNamed at h
  split at h
  · rename_i hname
    cases h
    exact ⟨by rw [if_pos hname], fun hne => absurd hname hne⟩
  · rename_i hname
    obtain ⟨found, hfound, rfl⟩ := bind_pure_eq_ok.1 h
    exact ⟨by rw [if_neg hname], fun _ => by rw [Draft.defined_eq_ok hfound]; rfl⟩

/-- The marks behind a directive: an import leaves one more. -/
def marksAfter (s : Stage) (marks : List Mark) : Directive → List Mark
  | .importFile _ => s.scopes.checkpoint.1 :: marks
  | _ => marks

/-- What a directive does to the scopes is its scope operation. -/
theorem execute_scopes [LinearAlgebra] (h : s.execute location d = .ok s') (marks : List Mark) :
    (ScopeMachine.mk s.scopes marks).step (d.op s.draft location) = .ok ⟨s'.scopes, s.marksAfter marks d⟩ := by
  cases d with
  | attributeEnd =>
    obtain ⟨scopes, hpop, rfl⟩ := bind_pure_eq_ok.1 h
    exact bind_pure_eq_ok.2 ⟨scopes, hpop, rfl⟩
  | transformEnd =>
    obtain ⟨scopes, hpop, rfl⟩ := bind_pure_eq_ok.1 h
    exact bind_pure_eq_ok.2 ⟨scopes, hpop, rfl⟩
  | objectBegin name =>
    obtain ⟨scopes, hbegin, h⟩ := bind_eq_ok.1 h
    obtain ⟨draft, _, rfl⟩ := bind_pure_eq_ok.1 h
    exact bind_pure_eq_ok.2 ⟨scopes, hbegin, rfl⟩
  | objectEnd =>
    obtain ⟨⟨name, scopes⟩, hend, rfl⟩ := bind_pure_eq_ok.1 h
    exact bind_pure_eq_ok.2 ⟨(name, scopes), hend, rfl⟩
  | replaceTransform motion | composeTransform motion =>
    obtain ⟨m, hm, rfl⟩ := bind_pure_eq_ok.1 h
    simp only [Directive.op, ScopeMachine.step, Directive.effect, Directive.edit?, hm]
    rfl
  | coordSysTransform name =>
    obtain ⟨ctm, hctm, rfl⟩ := bind_pure_eq_ok.1 h
    simp only [Directive.op, ScopeMachine.step, Directive.effect, Directive.edit?, Draft.defined_eq_ok hctm]
    rfl
  | namedMaterial name =>
    obtain ⟨material, hmaterial, rfl⟩ := bind_pure_eq_ok.1 h
    simp only [Directive.op, ScopeMachine.step, Directive.effect, Directive.edit?, Draft.defined_eq_ok hmaterial]
    rfl
  | objectInstance name =>
    simp only [execute, placeObject] at h
    split at h
    · cases h
    · obtain ⟨_, _, rfl⟩ := bind_pure_eq_ok.1 h
      rfl
  | material type params =>
    obtain ⟨draft, _, rfl⟩ := bind_pure_eq_ok.1 h
    rfl
  | texture name valueType textureClass params =>
    obtain ⟨draft, _, rfl⟩ := bind_pure_eq_ok.1 h
    rfl
  | makeNamedMaterial name params | makeNamedMedium name params =>
    obtain ⟨type, _, h⟩ := bind_eq_ok.1 h
    obtain ⟨draft, _, rfl⟩ := bind_pure_eq_ok.1 h
    rfl
  | mediumInterface inside outside =>
    obtain ⟨inner, hinner, h⟩ := bind_eq_ok.1 h
    obtain ⟨outer, houter, rfl⟩ := bind_pure_eq_ok.1 h
    rw [(mediumNamed_eq_ok hinner).1, (mediumNamed_eq_ok houter).1]
    rfl
  | _ =>
    cases h
    rfl

end Stage

/-! ### The phase -/

/-- The phase behind a directive. -/
def Directive.phaseAfter (phase : Phase) : Directive → Phase
  | .worldBegin => .world
  | _ => phase

namespace Stage

variable {s s' : Stage} {location : Location} {d : Directive}

/-- Only the begin of the world changes the phase. -/
theorem execute_phase [LinearAlgebra] (h : s.execute location d = .ok s') : s'.phase = d.phaseAfter s.phase := by
  cases d with
  | objectInstance name =>
    simp only [execute, placeObject] at h
    split at h
    · cases h
    · obtain ⟨_, _, rfl⟩ := bind_pure_eq_ok.1 h
      rfl
  | replaceTransform motion | composeTransform motion | coordSysTransform name | namedMaterial name
  | material type params | texture name valueType textureClass params | attributeEnd | transformEnd | objectEnd =>
    obtain ⟨_, _, rfl⟩ := bind_pure_eq_ok.1 h
    rfl
  | makeNamedMaterial name params | makeNamedMedium name params | mediumInterface inside outside
  | objectBegin name =>
    obtain ⟨_, _, h⟩ := bind_eq_ok.1 h
    obtain ⟨_, _, rfl⟩ := bind_pure_eq_ok.1 h
    rfl
  | _ =>
    cases h
    rfl

/-- Directives do not go back to the options. -/
theorem execute_world [LinearAlgebra] (h : s.execute location d = .ok s') (hworld : s.phase = .world) :
    s'.phase = .world := by
  rw [execute_phase h]
  cases d with
  | worldBegin => rfl
  | _ => exact hworld

end Stage

end SceneDescription
