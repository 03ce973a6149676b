import SceneDescription.Session
import SceneDescription.Proofs.Files.Places
import SceneDescription.Proofs.Readers.Keywords

/-!
# Runs of sessions

`Session.Moves` says once what a step of a session can do: it carries out a directive, whose operands all come from
the innermost text and which may open a file, or it leaves the innermost file.  A run is a chain of steps, written
as the list of its moments; a session that finishes has run through `Session.moments`.
-/

namespace SceneDescription

/-- An event of a session, with the session as it was before. -/
structure Moment where
  before : Session
  event : Event

/-- The keyword of an event that carries out a directive. -/
def Event.keyword? : Event → Option Keyword
  | .performed keyword _ _ => some keyword
  | .left _ _ => none

/-- The directive that an event has carried out. -/
def Event.directive? : Event → Option Directive
  | .performed _ d _ => some d
  | .left _ _ => none

/-- The keywords of the directives that have been carried out, in order. -/
def keywordsOf (moments : List Moment) : List Keyword :=
  moments.filterMap (·.event.keyword?)

theorem notMem_keywordsOf {moments : List Moment} {keyword : Keyword} :
    keyword ∉ keywordsOf moments ↔ ∀ m ∈ moments, m.event.keyword? ≠ some keyword := by
  simp [keywordsOf]

/-- The default limit on open files leaves room for the root. -/
theorem Config.one_le_defaultDepth : 1 ≤ 64 := by
  decide

/-- The stream at the start of a file. -/
theorem Stream.ofFile_eq_ok {κ : Type} {lib : Library} {path : Path} {s : Stream κ} (h : ofFile lib path = .ok s) :
    ∃ text, lib.files.readText lib.config path = .ok text ∧
      s = { top := { source := path.toText, path := some path, cursor := .ofText path.toText text } } := by
  unfold ofFile at h
  split at h
  · cases h
  · rename_i text htext
    cases h
    exact ⟨text, htext, rfl⟩

namespace Session

variable {s s' : Session} {e : Event}

/-- The sessions at the start of a scene, which is a text or a file. -/
inductive Start : Session → Prop
  | text (library : Library) (text : List Char) : Start (ofText library text)
  | file {library : Library} {path : Path} {s : Session} (h : ofFile library path = .ok s) : Start s

theorem Start.stage (h : s.Start) : s.stage = {} := by
  cases h with
  | text library text => rfl
  | file h =>
    obtain ⟨stream, _, rfl⟩ := bind_pure_eq_ok.1 h
    rfl

theorem Start.frames (h : s.Start) : s.stream.below = [] ∧ s.stream.top.onClose = none := by
  cases h with
  | text library text => exact ⟨rfl, rfl⟩
  | @file library path _ h =>
    obtain ⟨stream, hstream, rfl⟩ := bind_pure_eq_ok.1 h
    obtain ⟨text, _, rfl⟩ := Stream.ofFile_eq_ok hstream
    exact ⟨rfl, rfl⟩

/-! ### One step -/

private theorem leave_ne_finished (s : Session) (frame : Frame Mark) : s.leave frame ≠ .finished := by
  unfold leave
  dsimp only
  split
  · intro h
    cases h
  split
  · intro h
    cases h
  · intro h
    cases h

variable [LinearAlgebra]

/-- Carries out the directive `d` that begins with the token `t`: its operands are between the cursors `c₁` and
`c₂`. -/
structure Performs (s : Session) (t : Token) (c₁ c₂ : Cursor) (keyword : Keyword) (d : Directive)
    (s' : Session) : Prop where
  take : Read.take s.stream.top.cursor = .ok (some t) c₁
  named : ∃ name, t.lexeme = .identifier name ∧ Keyword.ofName? name = some keyword
  phase : keyword.allowedIn s.stage.phase
  read : readDirective ⟨keyword, t.line⟩ c₁ = .ok d c₂
  execute : s.stage.execute ⟨s.stream.source, t.line⟩ d = .ok s'.stage
  library : s'.library = s.library
  stream : (d.opens? = none ∧ s'.stream = s.stream.withCursor c₂) ∨
    ∃ relative path, d.opens? = some relative ∧
      (s.stream.withCursor c₂).openFile s.library relative t.line (s.markFor d) = .ok (path, s'.stream)

theorem Performs.hasKeyword {t : Token} {c₁ c₂ : Cursor} {keyword : Keyword} {d : Directive}
    (h : s.Performs t c₁ c₂ keyword d s') : d.HasKeyword keyword :=
  hasKeyword_readDirective ⟨keyword, t.line⟩ c₁ d c₂ h.read

/-- A motion opens no file. -/
theorem Performs.stream_of_motion {t : Token} {c₁ c₂ : Cursor} {keyword : Keyword} {d : Directive}
    (h : s.Performs t c₁ c₂ keyword d s') (hkeyword : keyword.IsMotion) : s'.stream = s.stream.withCursor c₂ := by
  rcases h.stream with ⟨_, hstream⟩ | ⟨relative, path, hopens, _⟩
  · exact hstream
  · have hd := h.hasKeyword.keyword?_of_isMotion hkeyword
    cases d with
    | includeFile path => cases hd
    | importFile path => cases hd
    | _ => cases hopens

/-- Goes back from the innermost text, which has ended, to the text `outer`. -/
structure Leaves (s : Session) (outer : Frame Mark) (below : List (Frame Mark)) (s' : Session) : Prop where
  take : ∃ c, Read.take s.stream.top.cursor = .ok none c
  around : s.stream.below = outer :: below
  library : s'.library = s.library
  stream : s'.stream = Stream.backTo s.stream.top outer below
  stage : (s.stream.top.onClose = none ∧ s'.stage = s.stage) ∨
    ∃ mark, s.stream.top.onClose = some mark ∧ s.stage.leaveImport mark = .ok s'.stage

/-- What a step can do. -/
inductive Moves (s : Session) : Event → Session → Prop
  | performs {t : Token} {c₁ c₂ : Cursor} {keyword : Keyword} {d : Directive} {s' : Session}
      (h : s.Performs t c₁ c₂ keyword d s') : Moves s (.performed keyword d ⟨s.stream.source, t.line⟩) s'
  | leaves {outer : Frame Mark} {below : List (Frame Mark)} {s' : Session} (h : s.Leaves outer below s') :
      Moves s (.left s.stream.top.source s.stream.top.onClose) s'

/-- The directive of an event tells its keyword, if it is not a motion. -/
theorem Moves.keyword_iff (h : s.Moves e s') {k : Keyword} (hk : ¬ k.IsMotion) :
    e.keyword? = some k ↔ e.directive?.bind Directive.keyword? = some k := by
  cases h with
  | performs h =>
    constructor
    · intro hkeyword
      cases hkeyword
      exact h.hasKeyword.keyword?_eq hk
    · intro hd
      exact congrArg some (h.hasKeyword.eq_of_keyword? hd)
  | leaves h => simp [Event.keyword?, Event.directive?]

private theorem carryOut_moved {t : Token} {c₁ c₂ : Cursor} {keyword : Keyword} {d : Directive}
    (htake : Read.take s.stream.top.cursor = .ok (some t) c₁)
    (hkeyword : ∃ name, t.lexeme = .identifier name ∧ Keyword.ofName? name = some keyword)
    (hphase : keyword.allowedIn s.stage.phase) (hread : readDirective ⟨keyword, t.line⟩ c₁ = .ok d c₂)
    (h : ({ s with stream := s.stream.withCursor c₂ } : Session).carryOut keyword t.line d = .moved e s') :
    s.Moves e s' := by
  unfold carryOut at h
  dsimp only at h
  split at h
  · cases h
  rename_i stage hexec
  split at h
  · rename_i hopens
    cases h
    exact .performs ⟨htake, hkeyword, hphase, hread, hexec, rfl, .inl ⟨hopens, rfl⟩⟩
  rename_i relative hopens
  split at h
  · cases h
  · rename_i path stream hfile
    cases h
    exact .performs ⟨htake, hkeyword, hphase, hread, hexec, rfl, .inr ⟨relative, path, hopens, hfile⟩⟩

private theorem perform_moved {t : Token} {c₁ : Cursor}
    (htake : Read.take s.stream.top.cursor = .ok (some t) c₁)
    (h : ({ s with stream := s.stream.withCursor c₁ } : Session).perform t = .moved e s') : s.Moves e s' := by
  unfold perform at h
  cases hlexeme : t.lexeme with
  | identifier name =>
    cases hname : Keyword.ofName? name with
    | none => simp [hlexeme, hname] at h
    | some keyword =>
      by_cases hphase : keyword.allowedIn s.stage.phase
      · cases hread : readDirective ⟨keyword, t.line⟩ c₁ with
        | error r c₂ => simp [hlexeme, hname, hphase, Stream.withCursor, hread] at h
        | ok d c₂ =>
          simp only [hlexeme, hname, hphase, Stream.withCursor, hread, if_true] at h
          exact carryOut_moved htake ⟨name, hlexeme, hname⟩ hphase hread h
      · simp [hlexeme, hname, hphase] at h
  | _ => simp [hlexeme] at h

private theorem leave_moved {c : Cursor} {outer : Frame Mark} {below : List (Frame Mark)}
    (htake : Read.take s.stream.top.cursor = .ok none c) (hbelow : s.stream.below = outer :: below)
    (h : ({ s with stream := Stream.backTo s.stream.top outer below } : Session).leave s.stream.top = .moved e s') :
    s.Moves e s' := by
  unfold leave at h
  dsimp only at h
  cases hclose : s.stream.top.onClose with
  | none =>
    rw [hclose] at h
    cases h
    rw [← hclose]
    exact .leaves ⟨⟨c, htake⟩, hbelow, rfl, rfl, .inl ⟨hclose, rfl⟩⟩
  | some mark =>
    rw [hclose] at h
    dsimp only at h
    split at h
    · cases h
    · rename_i stage hleave
      cases h
      rw [← hclose]
      exact .leaves ⟨⟨c, htake⟩, hbelow, rfl, rfl, .inr ⟨mark, hclose, hleave⟩⟩

theorem moves_of_step (h : s.step = .moved e s') : s.Moves e s' := by
  unfold step Stream.advance at h
  cases htake : Read.take s.stream.top.cursor with
  | error r c => simp [htake] at h
  | ok t c =>
    rw [htake] at h
    cases t with
    | some t => exact perform_moved htake h
    | none =>
      cases hbelow : s.stream.below with
      | nil =>
        simp only [hbelow] at h
        split at h <;> cases h
      | cons outer below =>
        simp only [hbelow] at h
        exact leave_moved htake hbelow h

/-- A directive that opens a file, when it succeeds. -/
theorem carryOut_of_opening {t : Session} {relative : String} {stage : Stage} {path : Path} {stream : Stream Mark}
    (keyword : Keyword) (line : Nat) (d : Directive)
    (hexecute : t.stage.execute ⟨t.stream.source, line⟩ d = .ok stage) (hopens : d.opens? = some relative)
    (hopen : t.stream.openFile t.library relative line (t.markFor d) = .ok (path, stream)) :
    t.carryOut keyword line d = .moved (.performed keyword d ⟨t.stream.source, line⟩)
      (Session.log { t with stage, stream, journal :=
        t.journal ++ notesOn d ⟨t.stream.source, line⟩ t.stage.draft stage.draft }
        (notesOnOpening d path ⟨t.stream.source, line⟩)) := by
  unfold carryOut
  dsimp only
  rw [hexecute]
  dsimp only
  rw [hopens]
  dsimp only
  rw [hopen]
  rfl

private theorem carryOut_ne_finished (s : Session) (keyword : Keyword) (line : Nat) (d : Directive) :
    s.carryOut keyword line d ≠ .finished := by
  unfold carryOut
  dsimp only
  split
  · intro h
    cases h
  split
  · intro h
    cases h
  split
  · intro h
    cases h
  · intro h
    cases h

private theorem perform_ne_finished (s : Session) (t : Token) : s.perform t ≠ .finished := by
  unfold perform
  split
  · split
    · intro h
      cases h
    split
    · split
      · intro h
        cases h
      · exact carryOut_ne_finished _ _ _ _
    · intro h
      cases h
  · intro h
    cases h

/-- A session finishes at the end of its outermost text, with no scope open. -/
theorem of_step_finished (h : s.step = .finished) : s.stream.below = [] ∧
    (∃ c, Read.take s.stream.top.cursor = .ok none c) ∧ s.stage.scopes.checkBalanced = .ok () := by
  unfold step Stream.advance at h
  cases htake : Read.take s.stream.top.cursor with
  | error r c => simp [htake] at h
  | ok t c =>
    rw [htake] at h
    cases t with
    | some t => exact absurd h (perform_ne_finished _ _)
    | none =>
      cases hbelow : s.stream.below with
      | nil =>
        simp only [hbelow] at h
        split at h
        · cases h
        · rename_i hbalanced
          exact ⟨rfl, ⟨c, rfl⟩, hbalanced⟩
      | cons outer below =>
        simp only [hbelow] at h
        exact absurd h (leave_ne_finished _ _)

/-! ### Whole runs -/

/-- The steps from a session to another one. -/
inductive Run : Session → List Moment → Session → Prop
  | nil (s : Session) : Run s [] s
  | cons {s s' s'' : Session} {e : Event} {moments : List Moment} (hstep : s.step = .moved e s')
      (hrun : Run s' moments s'') : Run s (⟨s, e⟩ :: moments) s''

/-- The events to the end of a session, each with the session before it. -/
def moments (s : Session) : List Moment :=
  List.zipWith Moment.mk (s :: s.history.map (·.2)) (s.history.map (·.1))

private theorem history_of_moved (h : s.step = .moved e s') : s.history = (e, s') :: s'.history := by
  rw [history]
  split
  · rename_i heq
    rw [h] at heq
    cases heq
  · rename_i heq
    rw [h] at heq
    cases heq
  · rename_i heq
    rw [h] at heq
    cases heq
    rfl

private theorem moments_of_moved (h : s.step = .moved e s') : s.moments = ⟨s, e⟩ :: s'.moments := by
  simp [moments, history_of_moved h]

private theorem moments_of_finished (h : s.step = .finished) : s.moments = [] := by
  have : s.history = [] := by
    rw [history]
    split
    · rfl
    · rfl
    · rename_i heq
      rw [h] at heq
      cases heq
  simp [moments, this]

theorem finish_of_moved (h : s.step = .moved e s') : s.finish = s'.finish := by
  rw [finish]
  split
  · rename_i heq
    rw [h] at heq
    cases heq
  · rename_i heq
    rw [h] at heq
    cases heq
  · rename_i heq
    rw [h] at heq
    cases heq
    rfl

theorem finish_of_finished (h : s.step = .finished) : s.finish = .finished s := by
  rw [finish]
  split
  · rfl
  · rename_i heq
    rw [h] at heq
    cases heq
  · rename_i heq
    rw [h] at heq
    cases heq

/-- Induction from the end of a session that finishes, backwards along its steps. -/
theorem finish_induction {motive : Session → Prop} {last : Session}
    (finished : last.step = .finished → motive last)
    (moved : ∀ s e s', s.step = .moved e s' → s'.finish = .finished last → motive s' → motive s)
    (h : s.finish = .finished last) : motive s := by
  fun_induction finish s with
  | case1 s hstep =>
    cases h
    exact finished hstep
  | case2 s r s' hstep => cases h
  | case3 s e s' hstep ih => exact moved s e s' hstep h (ih h)

/-- The end of a session, if it finishes within a number of steps.  This can be evaluated by the kernel. -/
def endWithin (s : Session) : Nat → Option Session
  | 0 => none
  | n + 1 =>
    match s.step with
    | .finished => some s
    | .moved _ s' => s'.endWithin n
    | .failed _ _ => none

theorem finish_of_endWithin {n : Nat} {last : Session} (h : s.endWithin n = some last) :
    s.finish = .finished last := by
  induction n generalizing s with
  | zero => cases h
  | succ n ih =>
    unfold endWithin at h
    split at h
    · rename_i hstep
      cases h
      exact finish_of_finished hstep
    · rename_i hstep
      rw [finish_of_moved hstep]
      exact ih h
    · cases h

/-- The moments of a session, if it finishes within a number of steps.  This can be evaluated by the kernel. -/
def momentsWithin (s : Session) : Nat → Option (List Moment)
  | 0 => none
  | n + 1 =>
    match s.step with
    | .finished => some []
    | .moved e s' => (s'.momentsWithin n).map (⟨s, e⟩ :: ·)
    | .failed _ _ => none

theorem moments_of_momentsWithin {n : Nat} {moments : List Moment} (h : s.momentsWithin n = some moments) :
    s.moments = moments := by
  induction n generalizing s moments with
  | zero => cases h
  | succ n ih =>
    unfold momentsWithin at h
    split at h
    · rename_i hstep
      cases h
      exact moments_of_finished hstep
    · rename_i e s' hstep
      obtain ⟨later, hlater, rfl⟩ := Option.map_eq_some_iff.1 h
      rw [moments_of_moved hstep, ih hlater]
    · cases h

theorem keywordsOf_of_momentsWithin {n : Nat} {keywords : List Keyword}
    (h : (s.momentsWithin n).map keywordsOf = some keywords) : keywordsOf s.moments = keywords := by
  obtain ⟨moments, hmoments, hkeywords⟩ := Option.map_eq_some_iff.1 h
  rw [moments_of_momentsWithin hmoments, hkeywords]

theorem run_moments {last : Session} (h : s.finish = .finished last) :
    Run s s.moments last ∧ last.step = .finished := by
  refine finish_induction (motive := fun s => Run s s.moments last ∧ last.step = .finished) ?_ ?_ h
  · intro hstep
    rw [moments_of_finished hstep]
    exact ⟨.nil _, hstep⟩
  · intro s e s' hstep _ ih
    rw [moments_of_moved hstep]
    exact ⟨.cons hstep ih.1, ih.2⟩

namespace Run

theorem append_iff {s s'' : Session} {v w : List Moment} :
    Run s (v ++ w) s'' ↔ ∃ s', Run s v s' ∧ Run s' w s'' := by
  induction v generalizing s with
  | nil =>
    constructor
    · intro h
      exact ⟨s, .nil s, h⟩
    · rintro ⟨_, ⟨⟩, h⟩
      exact h
  | cons m v ih =>
    constructor
    · intro h
      rw [List.cons_append] at h
      cases h with
      | cons hstep hrun =>
        obtain ⟨s', hv, hw⟩ := ih.1 hrun
        exact ⟨s', .cons hstep hv, hw⟩
    · rintro ⟨s', hv, hw⟩
      cases hv with
      | cons hstep hv => exact .cons hstep (ih.2 ⟨s', hv, hw⟩)

theorem singleton_iff {s s' : Session} {m : Moment} :
    Run s [m] s' ↔ m.before = s ∧ s.step = .moved m.event s' := by
  constructor
  · intro h
    cases h with
    | cons hstep hrun =>
      cases hrun
      exact ⟨rfl, hstep⟩
  · obtain ⟨before, event⟩ := m
    rintro ⟨rfl, hstep⟩
    exact .cons hstep (.nil _)

/-- A run passes through the session before each of its moments. -/
theorem split {s s' : Session} {earlier later : List Moment} {m : Moment} (h : Run s (earlier ++ m :: later) s') :
    Run s earlier m.before ∧ ∃ s₁, m.before.Moves m.event s₁ ∧ Run s₁ later s' := by
  obtain ⟨_, hfirst, hrest⟩ := append_iff.1 h
  cases hrest with
  | cons hstep hlater => exact ⟨hfirst, _, moves_of_step hstep, hlater⟩

/-- What every step preserves, every run preserves. -/
theorem invariant {P : Session → Prop} (hstep : ∀ s e s', P s → s.Moves e s' → P s') {s s' : Session}
    {moments : List Moment} (h : Run s moments s') (hs : P s) : P s' := by
  induction h with
  | nil s => exact hs
  | cons hmoved _ ih => exact ih (hstep _ _ _ hs (moves_of_step hmoved))

/-- The same for what depends on the moments so far: each step adds its own one. -/
theorem invariant_along {P : List Moment → Session → Prop}
    (hstep : ∀ earlier s e s', P earlier s → s.Moves e s' → P (earlier ++ [⟨s, e⟩]) s') {s s' : Session}
    {earlier moments : List Moment} (h : Run s moments s') (hs : P earlier s) : P (earlier ++ moments) s' := by
  induction h generalizing earlier with
  | nil s => simpa using hs
  | @cons s s₁ s' e moments hmoved _ ih =>
    have hnext : P (earlier ++ [⟨s, e⟩]) s₁ := hstep _ _ _ _ hs (moves_of_step hmoved)
    have hrest := ih hnext
    simpa using hrest

end Run

end Session

theorem Outcome.result_eq_ok {o : Outcome} {scene : Scene} (h : o.result = .ok scene) :
    ∃ last, o = .finished last ∧ last.scene = scene := by
  cases o with
  | finished last => exact ⟨last, rfl, Except.ok.inj h⟩
  | failed r s => cases h

end SceneDescription
