import SceneDescription.Proofs.Sessions.Readings

/-!
# Sessions in texts that go on

The outermost text of a session may go on behind the items that the session knows.  As long as the session reads the
same directives there, it takes the same steps (`Session.step_continued`), and so does a whole run
(`Session.Run.continued`): the files that are opened on the way, the stage and the journal do not depend on what is
still to come in the outermost text.
-/

namespace SceneDescription

variable {κ : Type} (more : List Item) (stuck : Option (Report Fault))

def Frame.continued (f : Frame κ) : Frame κ :=
  { f with cursor := f.cursor.continued more stuck }

namespace Stream

/-- The texts, of which the last one goes on. -/
def continueLast : List (Frame κ) → List (Frame κ)
  | [] => []
  | [outermost] => [outermost.continued more stuck]
  | f :: g :: rest => f :: continueLast (g :: rest)

/-- The stream with an outermost text that goes on. -/
def continued (s : Stream κ) : Stream κ :=
  match s.below with
  | [] => { s with top := s.top.continued more stuck }
  | outer :: below => { s with below := continueLast more stuck (outer :: below) }

variable (s : Stream κ)

private theorem frames_continued : (s.continued more stuck).frames = continueLast more stuck s.frames := by
  obtain ⟨top, below⟩ := s
  cases below <;> rfl

private theorem map_continueLast {α : Type} {g : Frame κ → α} (hg : ∀ f, g (f.continued more stuck) = g f)
    (frames : List (Frame κ)) : (continueLast more stuck frames).map g = frames.map g := by
  fun_induction continueLast more stuck frames with
  | case1 => rfl
  | case2 outermost => simp [hg]
  | case3 f g rest ih => rw [List.map_cons, List.map_cons, ih]

theorem source_continued : (s.continued more stuck).source = s.source := by
  obtain ⟨top, below⟩ := s
  cases below <;> rfl

private theorem lastLine_continued : (s.continued more stuck).lastLine = s.lastLine := by
  obtain ⟨top, below⟩ := s
  cases below <;> rfl

theorem chain_continued : (s.continued more stuck).chain = s.chain := by
  obtain ⟨top, below⟩ := s
  cases below with
  | nil => rfl
  | cons outer below => exact congrArg List.reverse (map_continueLast more stuck (fun _ => rfl) (outer :: below))

/-- The innermost text is the outermost one, or it does not change. -/
private theorem continued_withCursor (c : Cursor) :
    (s.withCursor c).continued more stuck =
      (s.continued more stuck).withCursor (if s.below.isEmpty then c.continued more stuck else c) := by
  obtain ⟨top, below⟩ := s
  cases below <;> rfl

private theorem continued_backTo (inner outer : Frame κ) (below : List (Frame κ)) :
    ∃ outer' below', continueLast more stuck (outer :: below) = outer' :: below' ∧
      backTo inner outer' below' = (backTo inner outer below).continued more stuck := by
  cases below with
  | nil => exact ⟨_, _, rfl, rfl⟩
  | cons next below => exact ⟨_, _, rfl, rfl⟩

private theorem continued_openFile (lib : Library) (relative : String) (line : Option Nat) (onClose : Option κ) :
    (s.continued more stuck).openFile lib relative line onClose =
      (s.openFile lib relative line onClose).map fun (path, t) => (path, t.continued more stuck) := by
  have hpaths : (s.continued more stuck).paths = s.paths := by
    rw [paths, frames_continued]
    exact map_continueLast more stuck (fun _ => rfl) _
  rw [openFile, openFile, fileFor, hpaths, ← fileFor]
  cases s.fileFor lib relative with
  | error f => simp only [Except.map, openFault, source_continued, chain_continued]
  | ok file =>
    obtain ⟨path, text⟩ := file
    simp only [Except.map, push, lastLine_continued, frames_continued]
    rfl

end Stream

namespace Session

/-- The session with an outermost text that goes on. -/
def continued (s : Session) : Session :=
  { s with stream := s.stream.continued more stuck }

/-- The same step of a session whose outermost text goes on. -/
def continuedStep : Step → Step
  | .moved event s => .moved event (s.continued more stuck)
  | .finished => .finished
  | .failed r s => .failed r (s.continued more stuck)

variable (s : Session)

private theorem continued_carryOut [LinearAlgebra] (keyword : Keyword) (line : Nat) (d : Directive) :
    (s.continued more stuck).carryOut keyword line d = continuedStep more stuck (s.carryOut keyword line d) := by
  have hmark : (s.continued more stuck).markFor d = s.markFor d := by
    cases d <;> rfl
  unfold carryOut
  dsimp only [continued]
  rw [Stream.source_continued]
  cases s.stage.execute ⟨s.stream.source, line⟩ d with
  | error f => rfl
  | ok stage =>
    dsimp only
    cases d.opens? with
    | none => rfl
    | some relative =>
      dsimp only [continued] at hmark ⊢
      rw [hmark, Stream.continued_openFile]
      cases s.stream.openFile s.library relative line (s.markFor d) with
      | error r => rfl
      | ok opened => rfl

private theorem continued_leave (frame : Frame Mark) :
    (s.continued more stuck).leave frame = continuedStep more stuck (s.leave frame) := by
  unfold leave
  dsimp only [continued, log]
  cases frame.onClose with
  | none => rfl
  | some mark =>
    dsimp only
    cases s.stage.leaveImport mark with
    | error f => rfl
    | ok stage => rfl

/-- If the outermost text is the innermost one, the session reads a directive there, or fails to, in the same way when
the text goes on. -/
def ReadsAlike : Prop :=
  s.stream.below = [] → (∀ c, s.stage.phase.readNext s.stream.top.cursor ≠ .ok none c) ∧
    s.stage.phase.readNext (s.stream.top.cursor.continued more stuck) =
      Read.Ending.continued more stuck (s.stage.phase.readNext s.stream.top.cursor)

variable {more stuck s}

/-- A session that reads the same takes the same step. -/
theorem step_continued [LinearAlgebra] (h : s.ReadsAlike more stuck) :
    (s.continued more stuck).step = continuedStep more stuck s.step := by
  have hcursor (c : Cursor) : ({ s.continued more stuck with
      stream := (s.stream.continued more stuck).withCursor
        (if s.stream.below.isEmpty then c.continued more stuck else c) } : Session) =
      ({ s with stream := s.stream.withCursor c } : Session).continued more stuck := by
    rw [continued, continued, Stream.continued_withCursor]
  rw [step_eq, step_eq]
  cases hbelow : s.stream.below with
  | nil =>
    have htop : (s.continued more stuck).stream.top.cursor = s.stream.top.cursor.continued more stuck := by
      simp only [continued, Stream.continued, hbelow]
      rfl
    obtain ⟨hend, hread⟩ := h hbelow
    rw [hbelow] at hcursor
    rw [htop, show (s.continued more stuck).stage = s.stage from rfl, hread]
    cases hreading : s.stage.phase.readNext s.stream.top.cursor with
    | error r c => exact congrArg (Step.failed r) (hcursor c)
    | ok reading c =>
      cases reading with
      | none => exact absurd hreading (hend c)
      | some reading =>
        rw [← continued_carryOut, ← hcursor c]
        rfl
  | cons outer below =>
    have htop : (s.continued more stuck).stream.top = s.stream.top := by
      simp only [continued, Stream.continued, hbelow]
    rw [hbelow] at hcursor
    rw [htop, show (s.continued more stuck).stage = s.stage from rfl]
    cases s.stage.phase.readNext s.stream.top.cursor with
    | error r c => exact congrArg (Step.failed r) (hcursor c)
    | ok reading c =>
      cases reading with
      | none =>
        obtain ⟨outer', below', houter, hback⟩ := Stream.continued_backTo more stuck s.stream.top outer below
        have hbelow' : (s.continued more stuck).stream.below = outer' :: below' := by
          simp only [continued, Stream.continued, hbelow, houter]
        dsimp only [closeText]
        rw [hbelow, hbelow', htop, ← continued_leave]
        dsimp only
        rw [hback]
        rfl
      | some reading =>
        rw [← continued_carryOut, ← hcursor c]
        rfl

/-- The same moment of a session whose outermost text goes on. -/
def continuedMoment (more : List Item) (stuck : Option (Report Fault)) (m : Moment) : Moment :=
  { m with before := m.before.continued more stuck }

/-- A run that reads the same goes on in the same way. -/
theorem Run.continued [LinearAlgebra] {s' : Session} {moments : List Moment} (h : Run s moments s')
    (hread : ∀ m ∈ moments, m.before.ReadsAlike more stuck) :
    Run (s.continued more stuck) (moments.map (continuedMoment more stuck)) (s'.continued more stuck) := by
  induction h with
  | nil s => exact .nil _
  | @cons s s₁ s' e moments hstep _ ih =>
    obtain ⟨hfirst, hrest⟩ := List.forall_mem_cons.1 hread
    have hstep' : (s.continued more stuck).step = .moved e (s₁.continued more stuck) := by
      rw [step_continued hfirst, hstep]
      rfl
    exact .cons hstep' (ih hrest)

end Session

end SceneDescription
