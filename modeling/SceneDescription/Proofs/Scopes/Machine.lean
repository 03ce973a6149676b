import SceneDescription.Proofs.Scopes.Stack
import SceneDescription.Proofs.Scopes.Words
import SceneDescription.Transform.Elimination

/-!
# Words of scope operations

A scope machine is a scope stack together with the marks of the imports that are still open, so that an import is
closed with the mark it was opened with.  From a consistent machine every operation leads to a consistent one and
moves the open scopes as its side says (`ScopeMachine.step_consistent`); a block that runs leaves the whole machine
as it was (`ScopeMachine.run_block`); and the words that run to the end and leave no scope open are the
well-nested ones in which no object lies inside of another.
-/

namespace SceneDescription

/-- An operation on a scope stack. -/
inductive ScopeOp
  | beginAttributes
  | endAttributes
  | beginTransforms
  | endTransforms
  | beginObject (name : String)
  | endObject
  /-- Opens the scope of an import. -/
  | checkpoint
  /-- Closes the scope of the innermost import that is still open. -/
  | restore
  /-- Changes the active state in any way. -/
  | edit (change : GraphicsState → GraphicsState)

namespace ScopeOp

def side : ScopeOp → Side
  | beginAttributes => .opening .attributes
  | endAttributes => .closing .attributes
  | beginTransforms => .opening .transforms
  | endTransforms => .closing .transforms
  | beginObject _ => .opening .object
  | endObject => .closing .object
  | checkpoint => .opening .imported
  | restore => .closing .imported
  | edit _ => .plain

/-- What an operation by itself does to the active state; what an end brings back is not counted. -/
def effect : ScopeOp → GraphicsState → GraphicsState
  | edit change => change
  | _ => id

/-- The object that is being recorded behind an operation. -/
def recordingAfter (recording : Option String) : ScopeOp → Option String
  | beginObject name => some name
  | endObject => none
  | _ => recording

end ScopeOp

/-- A scope stack and the marks of the imports that are still open, innermost first. -/
structure ScopeMachine where
  stack : ScopeStack := {}
  marks : List Mark := []

namespace ScopeMachine

def withActive (m : ScopeMachine) (state : GraphicsState) : ScopeMachine :=
  { m with stack := { m.stack with active := state } }

def step (m : ScopeMachine) : ScopeOp → Except Fault ScopeMachine
  | .beginAttributes => .ok { m with stack := m.stack.push .attributes }
  | .endAttributes => return { m with stack := ← m.stack.pop .attributes }
  | .beginTransforms => .ok { m with stack := m.stack.push .transforms }
  | .endTransforms => return { m with stack := ← m.stack.pop .transforms }
  | .beginObject name => return { m with stack := ← m.stack.beginObject name }
  | .endObject => return { m with stack := (← m.stack.endObject).2 }
  | .checkpoint => .ok ⟨m.stack.checkpoint.2, m.stack.checkpoint.1 :: m.marks⟩
  | .restore =>
    match m.marks with
    | [] => .error .noOpenScope
    | mark :: marks => return ⟨← m.stack.restore mark, marks⟩
  | .edit change => .ok (m.withActive (change m.stack.active))

/-- Carries out operations one after the other, up to the first one that fails. -/
def run (m : ScopeMachine) (w : List ScopeOp) : Except Fault ScopeMachine :=
  w.foldlM step m

/-- The scopes, the floor, the recorded object and the marks hang together. -/
def Consistent (m : ScopeMachine) : Prop :=
  OpenScopes m.stack.kinds m.stack.floor m.stack.recording m.marks

/-- A word accepted by a fresh machine: all operations succeed, and no scope is open at the end. -/
def Accepts (w : List ScopeOp) : Prop :=
  ∃ m, run {} w = .ok m ∧ m.stack.checkBalanced = .ok ()

variable {m m₁ m' : ScopeMachine} {w : List ScopeOp} {x y : ScopeOp} {kind : ScopeKind}

theorem run_cons_eq_ok : m.run (x :: w) = .ok m' ↔ ∃ m₁, m.step x = .ok m₁ ∧ m₁.run w = .ok m' :=
  bind_eq_ok

private theorem run_append_eq_ok {v : List ScopeOp} :
    m.run (v ++ w) = .ok m' ↔ ∃ m₁, m.run v = .ok m₁ ∧ m₁.run w = .ok m' := by
  unfold run
  rw [List.foldlM_append]
  exact bind_eq_ok

private theorem run_singleton (m : ScopeMachine) (x : ScopeOp) : m.run [x] = m.step x :=
  bind_pure (m.step x)

/-! ### One operation -/

/-- An operation keeps a machine consistent, and moves the open scopes as its side says. -/
theorem step_consistent (hm : m.Consistent) (h : m.step x = .ok m') :
    m'.Consistent ∧ x.side.next m.stack.kinds = some m'.stack.kinds := by
  unfold Consistent at hm
  cases x with
  | beginAttributes =>
    cases h
    exact ⟨.attributes hm, rfl⟩
  | beginTransforms =>
    cases h
    exact ⟨.transforms hm, rfl⟩
  | checkpoint =>
    cases h
    refine ⟨?_, rfl⟩
    have := OpenScopes.imported hm
    rwa [ScopeStack.length_kinds] at this
  | edit change =>
    cases h
    exact ⟨hm, rfl⟩
  | beginObject name =>
    obtain ⟨_, hbegin, rfl⟩ := bind_pure_eq_ok.1 h
    obtain ⟨hrec, rfl⟩ := ScopeStack.beginObject_eq_ok.1 hbegin
    rw [hrec] at hm
    exact ⟨.object name hm, rfl⟩
  | endAttributes =>
    obtain ⟨_, hpop, rfl⟩ := bind_pure_eq_ok.1 h
    obtain ⟨_, state, rest, hsaved, rfl⟩ := ScopeStack.pop_eq_ok.1 hpop
    simp only [ScopeStack.kinds, hsaved, List.map_cons] at hm ⊢
    cases hm with
    | attributes hm => exact ⟨hm, rfl⟩
  | endTransforms =>
    obtain ⟨_, hpop, rfl⟩ := bind_pure_eq_ok.1 h
    obtain ⟨_, state, rest, hsaved, rfl⟩ := ScopeStack.pop_eq_ok.1 hpop
    simp only [ScopeStack.kinds, hsaved, List.map_cons] at hm ⊢
    cases hm with
    | transforms hm => exact ⟨hm, rfl⟩
  | endObject =>
    obtain ⟨⟨name, _⟩, hend, rfl⟩ := bind_pure_eq_ok.1 h
    obtain ⟨hrec, _, state, rest, hsaved, rfl⟩ := ScopeStack.endObject_eq_ok.1 hend
    simp only [ScopeStack.kinds, hsaved, hrec, List.map_cons] at hm ⊢
    cases hm with
    | object _ hm => exact ⟨hm, rfl⟩
  | restore =>
    obtain ⟨stack, marks⟩ := m
    cases marks with
    | nil => cases h
    | cons mark marks =>
      obtain ⟨_, hrestore, rfl⟩ := bind_pure_eq_ok.1 h
      obtain ⟨hrec, innermost, state, rest, hsaved, hdepth, rfl⟩ := ScopeStack.restore_eq_ok.1 hrestore
      dsimp only at hsaved hm
      simp only [ScopeStack.kinds, hsaved, List.map_cons] at hm ⊢
      obtain ⟨rfl, _, hrest⟩ := hm.of_depth_eq (by simpa using hdepth)
      exact ⟨hrest, rfl⟩

theorem step_plain (h : m.step x = .ok m') (hx : x.side = .plain) : m' = m.withActive (x.effect m.stack.active) := by
  cases x with
  | edit change =>
    cases h
    rfl
  | _ => cases hx

theorem effect_of_opening (hx : x.side = .opening kind) : x.effect = id := by
  cases x with
  | edit change => cases hx
  | _ => rfl

theorem step_opening (h : m.step x = .ok m') (hx : x.side = .opening kind) :
    m'.stack.active = m.stack.active ∧ (kind ≠ .object → m'.stack.recording = m.stack.recording) ∧
      (kind = .object → m.stack.recording = none ∧ m'.stack.recording ≠ none) ∧
      (m.stack.floor ≤ m.stack.depth → m'.stack.floor ≤ m'.stack.depth) := by
  cases x with
  | beginAttributes | beginTransforms =>
    cases h
    cases hx
    exact ⟨rfl, fun _ => rfl, by simp, fun hfloor => Nat.le_succ_of_le hfloor⟩
  | checkpoint =>
    cases h
    cases hx
    exact ⟨rfl, fun _ => rfl, by simp, fun _ => Nat.le_refl _⟩
  | beginObject name =>
    obtain ⟨_, hbegin, rfl⟩ := bind_pure_eq_ok.1 h
    obtain ⟨hrec, rfl⟩ := ScopeStack.beginObject_eq_ok.1 hbegin
    cases hx
    exact ⟨rfl, by simp, fun _ => ⟨hrec, by simp⟩, fun hfloor => Nat.le_succ_of_le hfloor⟩
  | _ => cases hx

/-- Scopes bring back the states that they have saved; a new state comes about only by an edit. -/
theorem step_states (h : m.step x = .ok m') {state : GraphicsState} (hstate : state ∈ m'.stack.states) :
    state ∈ m.stack.states ∨ state = x.effect m.stack.active := by
  unfold ScopeStack.states at hstate ⊢
  cases x with
  | beginAttributes | beginTransforms | checkpoint =>
    cases h
    rcases List.mem_cons.1 hstate with rfl | hstate
    · exact .inl (List.mem_cons_self ..)
    · exact .inl hstate
  | beginObject name =>
    obtain ⟨_, hbegin, rfl⟩ := bind_pure_eq_ok.1 h
    obtain ⟨_, rfl⟩ := ScopeStack.beginObject_eq_ok.1 hbegin
    rcases List.mem_cons.1 hstate with rfl | hstate
    · exact .inl (List.mem_cons_self ..)
    · exact .inl hstate
  | edit change =>
    cases h
    rcases List.mem_cons.1 hstate with rfl | hstate
    · exact .inr rfl
    · exact .inl (List.mem_cons_of_mem _ hstate)
  | endAttributes | endTransforms =>
    obtain ⟨_, hpop, rfl⟩ := bind_pure_eq_ok.1 h
    obtain ⟨_, _, _, hsaved, rfl⟩ := ScopeStack.pop_eq_ok.1 hpop
    rw [hsaved]
    exact .inl (List.mem_cons_of_mem _ hstate)
  | endObject =>
    obtain ⟨⟨name, _⟩, hend, rfl⟩ := bind_pure_eq_ok.1 h
    obtain ⟨_, _, _, _, hsaved, rfl⟩ := ScopeStack.endObject_eq_ok.1 hend
    rw [hsaved]
    exact .inl (List.mem_cons_of_mem _ hstate)
  | restore =>
    obtain ⟨stack, marks⟩ := m
    cases marks with
    | nil => cases h
    | cons mark marks =>
      obtain ⟨_, hrestore, rfl⟩ := bind_pure_eq_ok.1 h
      obtain ⟨_, _, _, _, hsaved, _, rfl⟩ := ScopeStack.restore_eq_ok.1 hrestore
      dsimp only at hsaved ⊢
      rw [hsaved]
      exact .inl (List.mem_cons_of_mem _ hstate)

theorem step_recording (h : m.step x = .ok m') : m'.stack.recording = x.recordingAfter m.stack.recording := by
  cases x with
  | beginAttributes | beginTransforms | checkpoint | edit change =>
    cases h
    rfl
  | endAttributes | endTransforms =>
    obtain ⟨_, hpop, rfl⟩ := bind_pure_eq_ok.1 h
    obtain ⟨_, _, _, _, rfl⟩ := ScopeStack.pop_eq_ok.1 hpop
    rfl
  | beginObject name =>
    obtain ⟨_, hbegin, rfl⟩ := bind_pure_eq_ok.1 h
    obtain ⟨_, rfl⟩ := ScopeStack.beginObject_eq_ok.1 hbegin
    rfl
  | endObject =>
    obtain ⟨⟨name, _⟩, hend, rfl⟩ := bind_pure_eq_ok.1 h
    obtain ⟨_, _, _, _, _, rfl⟩ := ScopeStack.endObject_eq_ok.1 hend
    rfl
  | restore =>
    obtain ⟨stack, marks⟩ := m
    cases marks with
    | nil => cases h
    | cons mark marks =>
      obtain ⟨_, hrestore, rfl⟩ := bind_pure_eq_ok.1 h
      obtain ⟨_, _, _, _, _, _, rfl⟩ := ScopeStack.restore_eq_ok.1 hrestore
      rfl

/-- A begin succeeds, unless it starts an object inside of another one. -/
private theorem exists_step_opening (hx : x.side = .opening kind) (hrec : kind = .object → m.stack.recording = none) :
    ∃ m', m.step x = .ok m' := by
  cases x with
  | beginAttributes | beginTransforms | checkpoint => exact ⟨_, rfl⟩
  | beginObject name =>
    cases hx
    refine ⟨⟨{ m.stack.push .object with recording := some name }, m.marks⟩, ?_⟩
    exact bind_pure_eq_ok.2 ⟨_, ScopeStack.beginObject_eq_ok.2 ⟨hrec rfl, rfl⟩, rfl⟩
  | _ => cases hx

/-- An end undoes the begin of its kind, if nothing but the active state has changed in between. -/
private theorem step_closing {state : GraphicsState} (hopen : m.step x = .ok m₁) (hx : x.side = .opening kind)
    (hy : y.side = .closing kind) (hclose : (m₁.withActive state).step y = .ok m') : m' = m := by
  cases x <;> cases hx <;> cases y <;> cases hy
  · cases hopen
    obtain ⟨_, hpop, rfl⟩ := bind_pure_eq_ok.1 hclose
    obtain ⟨_, _, _, hsaved, rfl⟩ := ScopeStack.pop_eq_ok.1 hpop
    cases hsaved
    rfl
  · cases hopen
    obtain ⟨_, hpop, rfl⟩ := bind_pure_eq_ok.1 hclose
    obtain ⟨_, _, _, hsaved, rfl⟩ := ScopeStack.pop_eq_ok.1 hpop
    cases hsaved
    rfl
  · obtain ⟨_, hbegin, rfl⟩ := bind_pure_eq_ok.1 hopen
    obtain ⟨hrec, rfl⟩ := ScopeStack.beginObject_eq_ok.1 hbegin
    obtain ⟨⟨name, _⟩, hend, rfl⟩ := bind_pure_eq_ok.1 hclose
    obtain ⟨_, _, _, _, hsaved, rfl⟩ := ScopeStack.endObject_eq_ok.1 hend
    cases hsaved
    obtain ⟨⟨active, saved, floor, recording⟩, marks⟩ := m
    cases hrec
    rfl
  · cases hopen
    obtain ⟨_, hrestore, rfl⟩ := bind_pure_eq_ok.1 hclose
    obtain ⟨_, _, _, _, hsaved, _, rfl⟩ := ScopeStack.restore_eq_ok.1 hrestore
    cases hsaved
    rfl

/-- Such an end succeeds, if the begin stood above the floor. -/
private theorem exists_step_closing {state : GraphicsState} (hfloor : m.stack.floor ≤ m.stack.depth)
    (hopen : m.step x = .ok m₁) (hx : x.side = .opening kind) (hy : y.side = .closing kind) :
    (m₁.withActive state).step y = .ok m := by
  cases x <;> cases hx <;> cases y <;> cases hy
  · cases hopen
    exact bind_pure_eq_ok.2 ⟨_, ScopeStack.pop_eq_ok.2 ⟨Nat.lt_succ_of_le hfloor, _, _, rfl, rfl⟩, rfl⟩
  · cases hopen
    exact bind_pure_eq_ok.2 ⟨_, ScopeStack.pop_eq_ok.2 ⟨Nat.lt_succ_of_le hfloor, _, _, rfl, rfl⟩, rfl⟩
  · rename_i name
    obtain ⟨_, hbegin, rfl⟩ := bind_pure_eq_ok.1 hopen
    obtain ⟨hrec, rfl⟩ := ScopeStack.beginObject_eq_ok.1 hbegin
    obtain ⟨⟨active, saved, floor, recording⟩, marks⟩ := m
    cases hrec
    refine bind_pure_eq_ok.2 ⟨(name, _), ScopeStack.endObject_eq_ok.2 ?_, rfl⟩
    exact ⟨rfl, Nat.lt_succ_of_le hfloor, _, _, rfl, rfl⟩
  · cases hopen
    exact bind_pure_eq_ok.2 ⟨_, ScopeStack.restore_eq_ok.2 ⟨rfl, _, _, _, rfl, rfl, rfl⟩, rfl⟩

/-! ### Words of operations -/

private theorem run_consistent {u : List ScopeOp} (hm : m.Consistent) (hu : Unclosed ScopeOp.side m.stack.kinds u)
    (h : m.run w = .ok m') : m'.Consistent ∧ Unclosed ScopeOp.side m'.stack.kinds (u ++ w) := by
  induction w generalizing m u with
  | nil =>
    cases h
    exact ⟨hm, by simpa using hu⟩
  | cons x w ih =>
    obtain ⟨m₁, hstep, hrun⟩ := run_cons_eq_ok.1 h
    obtain ⟨hm₁, hnext⟩ := step_consistent hm hstep
    have := ih hm₁ (hu.next hnext) hrun
    simpa using this

/-- A well-nested word that runs changes the active state at most. -/
private theorem run_wellNested (hw : WellNested ScopeOp.side w) (h : m.run w = .ok m') :
    ∃ state, m' = m.withActive state := by
  induction hw generalizing m m' with
  | nil =>
    cases h
    exact ⟨_, rfl⟩
  | plain hx _ ih =>
    obtain ⟨m₁, hstep, hrun⟩ := run_cons_eq_ok.1 h
    obtain ⟨state, rfl⟩ := ih hrun
    rw [step_plain hstep hx]
    exact ⟨state, rfl⟩
  | block hx _ hy _ ihInner ih =>
    obtain ⟨m₁, hopen, h⟩ := run_cons_eq_ok.1 h
    obtain ⟨m₂, hinner, h⟩ := run_append_eq_ok.1 h
    obtain ⟨m₃, hclose, hrest⟩ := run_cons_eq_ok.1 h
    obtain ⟨state, rfl⟩ := ihInner hinner
    obtain rfl := step_closing hopen hx hy hclose
    exact ih hrest

/-- A block that runs leaves the machine as it was. -/
theorem run_block (hx : x.side = .opening kind) (hw : WellNested ScopeOp.side w) (hy : y.side = .closing kind)
    (h : m.run (x :: (w ++ [y])) = .ok m') : m' = m := by
  obtain ⟨m₁, hopen, h⟩ := run_cons_eq_ok.1 h
  obtain ⟨m₂, hinner, hclose⟩ := run_append_eq_ok.1 h
  rw [run_singleton] at hclose
  obtain ⟨state, rfl⟩ := run_wellNested hw hinner
  exact step_closing hopen hx hy hclose

/-- While an object is being recorded, a well-nested word runs only if it starts no object. -/
private theorem no_object_of_run (hw : WellNested ScopeOp.side w) (hrec : m.stack.recording ≠ none)
    (h : m.run w = .ok m') : ∀ z ∈ w, z.side ≠ .opening .object := by
  induction hw generalizing m m' with
  | nil => simp
  | plain hx _ ih =>
    obtain ⟨m₁, hstep, hrun⟩ := run_cons_eq_ok.1 h
    have hrec₁ : m₁.stack.recording ≠ none := by
      rw [step_plain hstep hx]
      exact hrec
    intro z hz
    rcases List.mem_cons.1 hz with rfl | hz
    · simp [hx]
    · exact ih hrec₁ hrun z hz
  | @block kind x y inner w hx hinner hy _ ihInner ih =>
    obtain ⟨m₁, hopen, h⟩ := run_cons_eq_ok.1 h
    obtain ⟨m₂, hrun, h⟩ := run_append_eq_ok.1 h
    obtain ⟨m₃, hclose, hrest⟩ := run_cons_eq_ok.1 h
    obtain ⟨_, hkeep, hobject, _⟩ := step_opening hopen hx
    have hkind : kind ≠ .object := fun hkind => hrec (hobject hkind).1
    have hin := ihInner (by rwa [hkeep hkind]) hrun
    obtain ⟨state, rfl⟩ := run_wellNested hinner hrun
    obtain rfl := step_closing hopen hx hy hclose
    intro z hz
    simp only [List.mem_cons, List.mem_append] at hz
    rcases hz with rfl | hz | rfl | hz
    · simp [hx, hkind]
    · exact hin z hz
    · simp [hy]
    · exact ih hrec hrest z hz

private theorem objectsApart_of_run (h : m.run w = .ok m') : ObjectsApart ScopeOp.side w := by
  rintro u x inner y v rfl hx hinner hy
  obtain ⟨m₁, _, h⟩ := run_append_eq_ok.1 h
  obtain ⟨m₂, hopen, h⟩ := run_cons_eq_ok.1 h
  obtain ⟨m₃, hrun, _⟩ := run_append_eq_ok.1 h
  exact no_object_of_run hinner ((step_opening hopen hx).2.2.1 rfl).2 hrun

/-- A well-nested word without an object in an object runs, unless an object is being recorded and it starts one
of its own. -/
private theorem exists_run_of_wellNested (hw : WellNested ScopeOp.side w) (hobjects : ObjectsApart ScopeOp.side w)
    (hfloor : m.stack.floor ≤ m.stack.depth)
    (hrec : m.stack.recording = none ∨ ∀ z ∈ w, z.side ≠ .opening .object) : ∃ m', m.run w = .ok m' := by
  induction hw generalizing m with
  | nil => exact ⟨m, rfl⟩
  | @plain x w hx _ ih =>
    cases x with
    | edit change =>
      have hrest : m.stack.recording = none ∨ ∀ z ∈ w, z.side ≠ .opening .object :=
        hrec.imp_right fun h z hz => h z (List.mem_cons_of_mem _ hz)
      have happart : ObjectsApart ScopeOp.side w := ObjectsApart.infix (u := [_]) (v := []) (by simpa using hobjects)
      obtain ⟨m', hrun⟩ := ih (m := m.withActive (change m.stack.active)) happart hfloor hrest
      exact ⟨m', run_cons_eq_ok.2 ⟨_, rfl, hrun⟩⟩
    | _ => cases hx
  | @block kind x y inner w hx hinner hy _ ihInner ih =>
    have hopens : kind = .object → m.stack.recording = none := by
      intro hkind
      rcases hrec with hrec | hnone
      · exact hrec
      · exact absurd (hkind ▸ hx) (hnone x (List.mem_cons_self ..))
    obtain ⟨m₁, hopen⟩ := exists_step_opening hx hopens
    obtain ⟨_, hkeep, _, hfloor₁⟩ := step_opening hopen hx
    -- inside of an object there is no other one; elsewhere what is recorded has not changed
    have hrecInner : m₁.stack.recording = none ∨ ∀ z ∈ inner, z.side ≠ .opening .object := by
      by_cases hkind : kind = .object
      · subst hkind
        exact .inr (hobjects [] x inner y w rfl hx hinner hy)
      · rw [hkeep hkind]
        exact hrec.imp_right fun h z hz => h z (by simp [hz])
    have happartInner : ObjectsApart ScopeOp.side inner :=
      ObjectsApart.infix (u := [x]) (v := y :: w) (by simpa using hobjects)
    obtain ⟨m₂, hrun⟩ := ihInner happartInner (hfloor₁ hfloor) hrecInner
    obtain ⟨state, rfl⟩ := run_wellNested hinner hrun
    have hclose : (m₁.withActive state).step y = .ok m := exists_step_closing hfloor hopen hx hy
    have happart : ObjectsApart ScopeOp.side w :=
      ObjectsApart.infix (u := x :: (inner ++ [y])) (v := []) (by simpa using hobjects)
    obtain ⟨m', hrest⟩ := ih happart hfloor (hrec.imp_right fun h z hz => h z (by simp [hz]))
    refine ⟨m', run_cons_eq_ok.2 ⟨m₁, hopen, ?_⟩⟩
    exact run_append_eq_ok.2 ⟨_, hrun, run_cons_eq_ok.2 ⟨m, hclose, hrest⟩⟩

private theorem wellNested_of_accepts (h : Accepts w) : WellNested ScopeOp.side w := by
  obtain ⟨m, hrun, hend⟩ := h
  have hw := (run_consistent (m := {}) (u := []) OpenScopes.none WellNested.nil hrun).2
  rw [ScopeStack.kinds, (ScopeStack.checkBalanced_eq_ok.1 hend).2] at hw
  exact hw

private theorem accepts_of_wellNested (hw : WellNested ScopeOp.side w) (hobjects : ObjectsApart ScopeOp.side w) :
    Accepts w := by
  obtain ⟨m, hrun⟩ := exists_run_of_wellNested (m := {}) hw hobjects (Nat.le_refl _) (.inl rfl)
  obtain ⟨state, rfl⟩ := run_wellNested hw hrun
  exact ⟨_, hrun, ScopeStack.checkBalanced_eq_ok.2 ⟨rfl, rfl⟩⟩

/-- A fresh machine accepts exactly the well-nested words in which no object lies inside of another, and a block
that runs, from whatever state, leaves the whole machine as it was. -/
theorem accepts_iff_wellNested_and_block_restores :
    (∀ w, Accepts w ↔ WellNested ScopeOp.side w ∧ ObjectsApart ScopeOp.side w) ∧
      ∀ (m m' : ScopeMachine) (kind : ScopeKind) (x y : ScopeOp) (w : List ScopeOp), x.side = .opening kind →
        WellNested ScopeOp.side w → y.side = .closing kind → m.run (x :: (w ++ [y])) = .ok m' → m' = m := by
  refine ⟨fun w => ⟨fun h => ⟨wellNested_of_accepts h, ?_⟩, fun h => accepts_of_wellNested h.1 h.2⟩, ?_⟩
  · obtain ⟨m, hrun, _⟩ := h
    exact objectsApart_of_run hrun
  · intro m m' kind x y w hx hw hy h
    exact run_block hx hw hy h

attribute [local instance] LinearAlgebra.stepwise

/-- An import inside of an object, with a transform scope of its own and edits inside and outside of it. -/
theorem import_inside_object_restores :
    ∃ m m', run {} [.beginAttributes, .edit (Edit.apply · .reverse), .beginObject "tree"] = .ok m ∧
      m.run (.checkpoint :: ([.edit (Edit.apply · .reverse), .beginTransforms,
        .edit (Edit.apply · (.activate ⟨true, false⟩)), .endTransforms] ++ [.restore])) = .ok m' ∧ m' = m := by
  have hopen : ScopeOp.beginTransforms.side = .opening .transforms := rfl
  have hclose : ScopeOp.endTransforms.side = .closing .transforms := rfl
  have hinner : WellNested ScopeOp.side [.edit (Edit.apply · (.activate ⟨true, false⟩))] := .singleton rfl
  have hblock : WellNested ScopeOp.side [.beginTransforms, .edit (Edit.apply · (.activate ⟨true, false⟩)),
      .endTransforms] := hinner.enclose hopen hclose
  have hw : WellNested ScopeOp.side [.edit (Edit.apply · .reverse), .beginTransforms,
      .edit (Edit.apply · (.activate ⟨true, false⟩)), .endTransforms] := hblock.plain rfl
  refine ⟨_, _, rfl, rfl, ?_⟩
  exact accepts_iff_wellNested_and_block_restores.2 _ _ .imported .checkpoint .restore _ rfl hw rfl rfl

end ScopeMachine

end SceneDescription
