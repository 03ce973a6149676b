import SceneDescription.Stream.Basic

/-!
# Streams with a buffer

A text need not be scanned as a whole before its first token is taken.  Here each open text has a scanner, which goes on
when a token is asked for, and a buffer of the tokens that have been looked at but not taken yet.
-/

namespace SceneDescription

/-- An action that works on a state in place and may fail with a report.  What it has changed by then stays changed. -/
abbrev Access (σ α : Type) : Type :=
  EStateM (Report Fault) σ α

/-- Goes on to the next token, if there is one. -/
def Scanner.scanToken : Access Scanner (Option Token) := fun s =>
  match s.next with
  | (.finished, s') => .ok none s'
  | (.token t, s') => .ok (some t) s'
  | (.malformed r, s') | (.stuck r, s') => .error r s'

/-- An open text with its scanner. -/
structure BufferedFrame (κ : Type) where
  scanner : Scanner
  /-- The path of the text, if it is a file. -/
  path : Option Path
  /-- The line of the directive that opened the text. -/
  includeLine : Option Nat := none
  /-- What is handed out when the text is left. -/
  onClose : Option κ := none
  /-- The tokens that have been looked at but not taken. -/
  lookahead : List Token := []

/-- The open texts, innermost first; there is always one. -/
structure BufferedStream (κ : Type) where
  top : BufferedFrame κ
  below : List (BufferedFrame κ) := []
  /-- The line of the token taken last, or of the directive behind which the stream has gone back to a text. -/
  lastLine : Nat := 1

private theorem get_apply {σ : Type} (s : σ) : (get : Access σ σ) s = .ok s s :=
  rfl

variable {κ α : Type}

namespace BufferedFrame

/-- The name of the text in reports. -/
def source (f : BufferedFrame κ) : String :=
  f.scanner.source

/-- Goes on to the next token of the text behind those in the buffer. -/
def scanToken : Access (BufferedFrame κ) (Option Token) := fun f =>
  match Scanner.scanToken f.scanner with
  | .ok t scanner => .ok t { f with scanner }
  | .error r scanner => .error r { f with scanner }

/-- The next token, which is put into the buffer unless it is there already. -/
def peek : Access (BufferedFrame κ) (Option Token) := do
  if (← get).lookahead.isEmpty then
    if let some t ← scanToken then
      modify fun f => { f with lookahead := f.lookahead ++ [t] }
  return (← get).lookahead.head?

/-- Takes the next token, out of the buffer if there is one in it. -/
def take : Access (BufferedFrame κ) (Option Token) := do
  match (← get).lookahead.getLast? with
  | some t =>
    modify fun f => { f with lookahead := f.lookahead.dropLast }
    return some t
  | none => scanToken

theorem peek_apply (f : BufferedFrame κ) : peek f =
    if f.lookahead.isEmpty then
      match scanToken f with
      | .ok none f' => .ok f'.lookahead.head? f'
      | .ok (some t) f' => .ok (f'.lookahead ++ [t]).head? { f' with lookahead := f'.lookahead ++ [t] }
      | .error r f' => .error r f'
    else .ok f.lookahead.head? f := by
  simp only [peek, bind, EStateM.bind, get_apply]
  cases f.lookahead.isEmpty with
  | false => rfl
  | true =>
    simp only [EStateM.bind, if_true]
    cases scanToken f with
    | error r f' => rfl
    | ok t? f' => cases t? <;> rfl

theorem take_apply (f : BufferedFrame κ) : take f = match f.lookahead.getLast? with
    | some t => .ok (some t) { f with lookahead := f.lookahead.dropLast }
    | none => scanToken f := by
  simp only [take, bind, EStateM.bind, get_apply]
  cases f.lookahead.getLast? <;> rfl

end BufferedFrame

namespace BufferedStream

/-- A stream of a text that is not a file. -/
def ofText (text : List Char) : BufferedStream κ where
  top := { scanner := .ofText "<string>" text, path := none }

/-- A stream of a file. -/
def ofFile (lib : Library) (path : Path) : Except (Report Fault) (BufferedStream κ) :=
  match lib.files.readText lib.config path with
  | .error cause => .error { cause := Library.readFault (.unreadableRoot path) cause }
  | .ok text => .ok { top := { scanner := .ofText path.toText text, path := some path } }

/-- The open texts, innermost first. -/
def frames (s : BufferedStream κ) : List (BufferedFrame κ) :=
  s.top :: s.below

/-- The name of the innermost text. -/
def source (s : BufferedStream κ) : String :=
  s.top.source

/-- The names of the texts around the innermost one, outermost first. -/
def chain (s : BufferedStream κ) : List String :=
  (s.below.map (·.source)).reverse

/-- The paths of the open texts, innermost first. -/
def paths (s : BufferedStream κ) : OpenPaths :=
  s.frames.map (·.path)

/-- Works on the innermost text. -/
def onTop (action : Access (BufferedFrame κ) α) : Access (BufferedStream κ) α := fun s =>
  match action s.top with
  | .ok a top => .ok a { s with top }
  | .error r top => .error r { s with top }

/-- The next token of the innermost text, which is not taken. -/
def peek : Access (BufferedStream κ) (Option Token) :=
  onTop BufferedFrame.peek

/-- Takes the next token of the innermost text. -/
def take : Access (BufferedStream κ) (Option Token) := do
  let t? ← onTop BufferedFrame.take
  if let some t := t? then
    modify fun s => { s with lastLine := t.line }
  return t?

/-- Goes back from the innermost text, which has ended, to the one around it. -/
def backTo (s : BufferedStream κ) (outer : BufferedFrame κ) (below : List (BufferedFrame κ)) : BufferedStream κ where
  top := outer
  below := below
  lastLine := match s.top.includeLine with
    | none | some 0 => s.lastLine
    | some line => line

/-- Takes the next token; if there is none, goes back one text. -/
def advance (s : BufferedStream κ) : Advance (BufferedStream κ) (BufferedFrame κ) :=
  match take s with
  | .error r s' => .fault r s'
  | .ok (some t) s' => .token t s'
  | .ok none s' =>
    match s'.below with
    | [] => .finished s'
    | outer :: below => .closed s'.top (s'.backTo outer below)

theorem take_apply (s : BufferedStream κ) : take s = match BufferedFrame.take s.top with
    | .ok (some t) top => .ok (some t) { s with top, lastLine := t.line }
    | .ok none top => .ok none { s with top }
    | .error r top => .error r { s with top } := by
  simp only [take, bind, EStateM.bind, onTop]
  cases BufferedFrame.take s.top with
  | error r top => rfl
  | ok t? top => cases t? <;> rfl

theorem length_below_of_closed {s t : BufferedStream κ} {frame : BufferedFrame κ} (h : s.advance = .closed frame t) :
    t.below.length < s.below.length := by
  unfold advance at h
  rw [take_apply] at h
  cases htake : BufferedFrame.take s.top with
  | error r top =>
    rw [htake] at h
    exact nomatch h
  | ok t? top =>
    rw [htake] at h
    cases t? with
    | some t => exact nomatch h
    | none =>
      cases hbelow : s.below with
      | nil => simp [hbelow] at h
      | cons outer below =>
        simp only [hbelow, Advance.closed.injEq] at h
        simp [← h.2, backTo]

/-- The next token, across the ends of texts; `none` at the end of the outermost one.  What was handed out on the way
comes with the name of the text that the stream went back to. -/
def next (s : BufferedStream κ) : Except (Report Fault) (Option Token) × List (κ × String) × BufferedStream κ :=
  match _h : s.advance with
  | .token t s' => (.ok (some t), [], s')
  | .finished s' => (.ok none, [], s')
  | .fault r s' => (.error r, [], s')
  | .closed frame s' =>
    let (result, handed, s'') := s'.next
    (result, (frame.onClose.map (·, s'.source)).toList ++ handed, s'')
termination_by s.below.length
decreasing_by exact length_below_of_closed _h

/-- The fault of a file that cannot be opened, placed in the stream. -/
def openFault (s : BufferedStream κ) (line : Option Nat) (f : Fault) : Report Fault :=
  { cause := f, line, source := some s.source, chain := s.chain ++ [s.source] }

/-- Puts a text on top of the stream; those around it keep their buffers. -/
def push (s : BufferedStream κ) (path : Path) (text : List Char) (line : Option Nat) (onClose : Option κ) :
    BufferedStream κ where
  top := { scanner := .ofText path.toText text, path := some path, includeLine := line, onClose }
  below := s.frames
  lastLine := s.lastLine

/-- Opens a file on top of the stream. -/
def openFile (lib : Library) (relative : String) (line : Option Nat) (onClose : Option κ) :
    Access (BufferedStream κ) Path := do
  match (← get).paths.fileFor lib relative with
  | .error f => throw ((← get).openFault line f)
  | .ok (path, text) =>
    modify fun s => s.push path text line onClose
    return path

theorem openFile_apply (s : BufferedStream κ) (lib : Library) (relative : String) (line : Option Nat)
    (onClose : Option κ) : openFile lib relative line onClose s = match s.paths.fileFor lib relative with
      | .error f => .error (s.openFault line f) s
      | .ok (path, text) => .ok path (s.push path text line onClose) := by
  simp only [openFile, bind, EStateM.bind, get_apply]
  cases s.paths.fileFor lib relative <;> rfl

end BufferedStream

end SceneDescription
