import SceneDescription.Directive.Reading
import SceneDescription.Directive.Stage
import SceneDescription.Stream.Basic

/-!
# Reading a scene

A session is the reading of one scene: the stream of its tokens, the stage that directives act on, and a journal
of what has happened.  `Session.step` carries out one directive or leaves one file.  Every step lowers the rank
of the stream (`Session.step_below`), so a session comes to an end: `Session.finish` gives the end, and
`Session.history` the steps on the way.
-/

namespace SceneDescription

/-- An entry in the journal of a session. -/
inductive Note
  | opened (path : Path) (within : String) (line : Nat)
  | included (path : Path)
  | imported (path : Path)
  | left (source : String)
  | worldEnded (location : Location)
  | warned (warning : Warning)

structure Session where
  library : Library
  stream : Stream Mark
  stage : Stage := {}
  journal : List Note := []

/-- What a step has done. -/
inductive Event
  | performed (keyword : Keyword) (directive : Directive) (location : Location)
  /-- A file has ended; an imported one has a mark. -/
  | left (source : String) (mark : Option Mark)

inductive Step
  | moved (event : Event) (session : Session)
  | finished
  | failed (r : Report Fault) (session : Session)

/-- The end of a session. -/
inductive Outcome
  | finished (session : Session)
  | failed (r : Report Fault) (session : Session)

/-- The path of the file that a directive opens, as it is written. -/
def Directive.opens? : Directive → Option String
  | .includeFile path | .importFile path => some path
  | _ => none

/-- The fault of a keyword in the wrong phase. -/
def Phase.fault (phase : Phase) (directive : String) : Fault :=
  match phase with
  | .options => .beforeWorld directive
  | .world => .afterWorldBegin directive

namespace Session

def log (s : Session) (notes : List Note) : Session :=
  { s with journal := s.journal ++ notes }

/-- What the journal says of a directive besides the opening of a file. -/
def notesOn (d : Directive) (location : Location) (before after : Draft) : List Note :=
  let warnings := (after.warnings.drop before.warnings.length).map Note.warned
  match d with
  | .worldEnd => .worldEnded location :: warnings
  | _ => warnings

/-- What the journal says of the opening of a file. -/
def notesOnOpening (d : Directive) (path : Path) (location : Location) : List Note :=
  [.opened path location.source location.line, match d with
    | .importFile _ => .imported path
    | _ => .included path]

/-- The mark that an import leaves on its file. -/
def markFor (s : Session) : Directive → Option Mark
  | .importFile _ => some s.stage.scopes.checkpoint.1
  | _ => none

/-- Carries out a directive, which has been read. -/
def carryOut [LinearAlgebra] (s : Session) (keyword : Keyword) (line : Nat) (d : Directive) : Step :=
  let location : Location := ⟨s.stream.source, line⟩
  match s.stage.execute location d with
  | .error f => .failed (f.at line) s
  | .ok stage =>
    let after := { s with stage }.log (notesOn d location s.stage.draft stage.draft)
    match d.opens? with
    | none => .moved (.performed keyword d location) after
    | some relative =>
      match s.stream.openFile s.library relative line (s.markFor d) with
      | .error r => .failed r after
      | .ok (path, stream) =>
        .moved (.performed keyword d location) ({ after with stream }.log (notesOnOpening d path location))

/-- Reads and carries out the directive that begins with a token, which has been taken. -/
def perform [LinearAlgebra] (s : Session) (t : Token) : Step :=
  match t.lexeme with
  | .identifier name =>
    match Keyword.ofName? name with
    | none => .failed ((Fault.unknownDirective name).at t.line) s
    | some keyword =>
      if keyword.allowedIn s.stage.phase then
        match readDirective ⟨keyword, t.line⟩ s.stream.top.cursor with
        | .error r cursor => .failed r { s with stream := s.stream.withCursor cursor }
        | .ok d cursor => { s with stream := s.stream.withCursor cursor }.carryOut keyword t.line d
      else .failed ((s.stage.phase.fault name).at t.line) s
  | _ => .failed ((Fault.expectedDirective t.describe).at t.line) s

/-- Closes the scope of a file that has been left, if it was imported. -/
def leave (s : Session) (frame : Frame Mark) : Step :=
  let s := s.log [.left frame.source]
  match frame.onClose with
  | none => .moved (.left frame.source none) s
  | some mark =>
    match s.stage.leaveImport mark with
    | .error f => .failed (f.at frame.includeLine) s
    | .ok stage => .moved (.left frame.source (some mark)) { s with stage }

/-- Goes on by one directive, or by the end of one file.  At the end of the input, all scopes must be closed. -/
def step [LinearAlgebra] (s : Session) : Step :=
  match s.stream.advance with
  | .fault r stream => .failed r { s with stream }
  | .token t stream => { s with stream }.perform t
  | .closed frame stream => { s with stream }.leave frame
  | .finished stream =>
    match s.stage.scopes.checkBalanced with
    | .error f => .failed (f.at stream.lastLine) s
    | .ok () => .finished

/-- The rank of a session's stream. -/
def nesting (s : Session) : Nesting :=
  s.stream.nesting s.library.config.maxIncludeDepth

private theorem carryOut_below [LinearAlgebra] {s s' : Session} {t : Stream Mark} {keyword : Keyword} {line : Nat}
    {d : Directive} {event : Event} (h : s.carryOut keyword line d = .moved event s')
    (hbelow : s.stream.below = t.below) (hlen : s.stream.top.cursor.items.length < t.top.cursor.items.length) :
    s'.nesting.Below (t.nesting s.library.config.maxIncludeDepth) := by
  unfold carryOut at h
  dsimp only at h
  split at h
  · exact nomatch h
  split at h
  · cases h
    exact Stream.nesting_of_top_lt _ hbelow hlen
  split at h
  · exact nomatch h
  · rename_i hopen
    cases h
    exact Stream.nesting_open hopen hbelow hlen

private theorem perform_below [LinearAlgebra] {s s' : Session} {t : Stream Mark} {token : Token} {event : Event}
    (h : s.perform token = .moved event s') (hbelow : s.stream.below = t.below)
    (hlen : s.stream.top.cursor.items.length < t.top.cursor.items.length) :
    s'.nesting.Below (t.nesting s.library.config.maxIncludeDepth) := by
  unfold perform at h
  cases hlexeme : token.lexeme with
  | identifier name =>
    cases hname : Keyword.ofName? name with
    | none => simp [hlexeme, hname] at h
    | some keyword =>
      by_cases hphase : keyword.allowedIn s.stage.phase
      · cases hread : readDirective ⟨keyword, token.line⟩ s.stream.top.cursor with
        | error r cursor => simp [hlexeme, hname, hphase, hread] at h
        | ok d cursor =>
          simp only [hlexeme, hname, hphase, hread, if_true] at h
          refine carryOut_below (s := { s with stream := s.stream.withCursor cursor }) h hbelow ?_
          have := (forward_readDirective ⟨keyword, token.line⟩).length_le s.stream.top.cursor
          simp only [Read.after, hread] at this
          exact Nat.lt_of_le_of_lt this hlen
      · simp [hlexeme, hname, hphase] at h
  | _ => simp [hlexeme] at h

private theorem leave_nesting {s s' : Session} {frame : Frame Mark} {event : Event}
    (h : s.leave frame = .moved event s') : s'.nesting = s.nesting := by
  unfold leave at h
  dsimp only at h
  split at h
  · cases h; rfl
  split at h
  · exact nomatch h
  · cases h; rfl

/-- Every step lowers the rank of the stream. -/
theorem step_below [LinearAlgebra] {s s' : Session} {event : Event} (h : s.step = .moved event s') :
    s'.nesting.Below s.nesting := by
  unfold step Stream.advance at h
  split at h
  · exact nomatch h
  · rename_i t stream hadv
    split at hadv
    · exact nomatch hadv
    · rename_i t' cursor htake
      cases hadv
      exact perform_below (s := { s with stream := s.stream.withCursor cursor }) h rfl (Read.take_shrinks htake)
    · split at hadv <;> exact nomatch hadv
  · rename_i frame stream hadv
    split at hadv
    · exact nomatch hadv
    · exact nomatch hadv
    · split at hadv
      · exact nomatch hadv
      · rename_i hbelow
        cases hadv
        rw [leave_nesting h]
        exact Stream.nesting_backTo _ hbelow
  · split at h <;> exact nomatch h

/-- Goes on to the end. -/
def finish [LinearAlgebra] (s : Session) : Outcome :=
  match _h : s.step with
  | .finished => .finished s
  | .failed r s' => .failed r s'
  | .moved _ s' => s'.finish
termination_by s.nesting
decreasing_by exact step_below _h

/-- The steps to the end, each with the session after it. -/
def history [LinearAlgebra] (s : Session) : List (Event × Session) :=
  match _h : s.step with
  | .finished | .failed _ _ => []
  | .moved event s' => (event, s') :: s'.history
termination_by s.nesting
decreasing_by exact step_below _h

/-- The finished scene. -/
def scene (s : Session) : Scene :=
  s.stage.draft.scene

/-- A session at the start of a text that is not a file. -/
def ofText (library : Library) (text : List Char) : Session where
  library := library
  stream := .ofText text

/-- A session at the start of a file. -/
def ofFile (library : Library) (path : Path) : Except (Report Fault) Session :=
  return { library, stream := ← Stream.ofFile library path }

end Session

/-- The result of a session: the scene, or the fault that ended it, with its place filled in. -/
def Outcome.result : Outcome → Except (Report Fault) Scene
  | finished s => .ok s.scene
  | failed r s => .error (r.locate s.stream.source s.stream.chain)

/-- The journal of a session that has ended. -/
def Outcome.journal : Outcome → List Note
  | finished s | failed _ s => s.journal

/-- Reads a scene from a text; relative paths in it are looked up in the configured directory. -/
def parseText [LinearAlgebra] (library : Library) (text : List Char) : Except (Report Fault) Scene :=
  (Session.ofText library text).finish.result

/-- Reads a scene from a file. -/
def parseFile [LinearAlgebra] (library : Library) (path : Path) : Except (Report Fault) Scene := do
  (← Session.ofFile library path).finish.result

end SceneDescription
