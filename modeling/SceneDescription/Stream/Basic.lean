import SceneDescription.Stream.Nesting
import SceneDescription.Stream.OpenPaths
import SceneDescription.Token.Cursor

/-!
# Streams of tokens from several files

A stream is a stack of open texts.  Tokens come from the innermost one; when it has ended, the stream goes back
to the text that included it.  A text may carry a value for the moment it is left, which is handed out then.
-/

namespace SceneDescription

/-- An open text. -/
structure Frame (κ : Type) where
  /-- The name of the text in reports. -/
  source : String
  /-- The path of the text, if it is a file. -/
  path : Option Path
  cursor : Cursor
  /-- The line of the directive that opened the text. -/
  includeLine : Option Nat := none
  /-- What is handed out when the text is left. -/
  onClose : Option κ := none

/-- The open texts, innermost first; there is always one. -/
structure Stream (κ : Type) where
  top : Frame κ
  below : List (Frame κ) := []

variable {κ : Type}

/-- The number of steps that a text is good for: one for each of its items, and one for its end. -/
def Frame.weight (f : Frame κ) : Nat :=
  f.cursor.items.length + 1

/-- What comes next in a stream of texts. -/
inductive Advance (stream frame : Type)
  | token (t : Token) (s : stream)
  /-- The innermost text has ended and been left. -/
  | closed (f : frame) (s : stream)
  | finished (s : stream)
  | fault (r : Report Fault) (s : stream)

namespace Stream

/-- A stream of a text that is not a file. -/
def ofText (text : List Char) : Stream κ where
  top := { source := "<string>", path := none, cursor := .ofText "<string>" text }

/-- A stream of a file. -/
def ofFile (lib : Library) (path : Path) : Except (Report Fault) (Stream κ) :=
  match lib.files.readText lib.config path with
  | .error cause => .error { cause := Library.readFault (.unreadableRoot path) cause }
  | .ok text =>
    .ok { top := { source := path.toText, path := some path, cursor := .ofText path.toText text } }

/-- The open texts, innermost first. -/
def frames (s : Stream κ) : List (Frame κ) :=
  s.top :: s.below

/-- The number of open texts. -/
def depth (s : Stream κ) : Nat :=
  s.frames.length

/-- The name of the innermost text. -/
def source (s : Stream κ) : String :=
  s.top.source

/-- The names of the texts around the innermost one, outermost first. -/
def chain (s : Stream κ) : List String :=
  (s.below.map (·.source)).reverse

/-- The line of the token taken last, or of the directive behind which the stream has gone back to a text. -/
def lastLine (s : Stream κ) : Nat :=
  s.top.cursor.lastLine

def withCursor (s : Stream κ) (cursor : Cursor) : Stream κ :=
  { s with top := { s.top with cursor } }

/-- The paths of the open texts, innermost first. -/
def paths (s : Stream κ) : OpenPaths :=
  s.frames.map (·.path)

/-- The directory that relative paths are looked up in. -/
def baseDirectory (s : Stream κ) (config : Config) : Path :=
  s.paths.baseDirectory config

/-- The path that a text denotes inside the stream. -/
def resolve (s : Stream κ) (config : Config) (relative : String) : Path :=
  s.paths.resolve config relative

/-- Whether a file is open already. -/
def isOpen (s : Stream κ) (files : FileSystem) (path : Path) : Except ResolveFault Bool :=
  s.paths.isOpen files path

/-- Goes back from the innermost text, which has ended, to the one around it. -/
def backTo (inner outer : Frame κ) (below : List (Frame κ)) : Stream κ :=
  let lastLine := match inner.includeLine with
    | none | some 0 => inner.cursor.lastLine
    | some line => line
  { top := { outer with cursor := { outer.cursor with lastLine } }, below }

/-- Takes the next token; if there is none, goes back one text. -/
def advance (s : Stream κ) : Advance (Stream κ) (Frame κ) :=
  match Read.take s.top.cursor with
  | .error r cursor => .fault r (s.withCursor cursor)
  | .ok (some t) cursor => .token t (s.withCursor cursor)
  | .ok none _ =>
    match s.below with
    | [] => .finished s
    | outer :: below => .closed s.top (backTo s.top outer below)

private theorem length_below_of_closed {s t : Stream κ} {frame : Frame κ} (h : s.advance = .closed frame t) :
    t.below.length < s.below.length := by
  unfold advance at h
  split at h
  · exact nomatch h
  · exact nomatch h
  split at h
  · exact nomatch h
  · rename_i hbelow
    cases h
    simp [hbelow, backTo]

/-- The next token, across the ends of texts; `none` at the end of the outermost one.  What was handed out on
the way comes with the name of the text that the stream went back to. -/
def next (s : Stream κ) : Except (Report Fault) (Option Token) × List (κ × String) × Stream κ :=
  match _h : s.advance with
  | .token t s' => (.ok (some t), [], s')
  | .finished s' => (.ok none, [], s')
  | .fault r s' => (.error r, [], s')
  | .closed frame s' =>
    let (result, handed, s'') := s'.next
    (result, (frame.onClose.map (·, s'.source)).toList ++ handed, s'')
termination_by s.below.length
decreasing_by exact length_below_of_closed _h

/-- The fault of a file that cannot be opened, placed in the stream. -/
def openFault (s : Stream κ) (line : Option Nat) (f : Fault) : Report Fault :=
  { cause := f, line, source := some s.source, chain := s.chain ++ [s.source] }

/-- The path and the text of the file that a stream is to open, or what is wrong with it. -/
def fileFor (s : Stream κ) (lib : Library) (relative : String) : Except Fault (Path × List Char) :=
  s.paths.fileFor lib relative

/-- The stream with a file on top. -/
def push (s : Stream κ) (path : Path) (text : List Char) (line : Option Nat) (onClose : Option κ) : Stream κ where
  top := { source := path.toText, path := some path, includeLine := line, onClose,
           cursor := { Cursor.ofText path.toText text with lastLine := s.lastLine } }
  below := s.frames

/-- Opens a file on top of the stream. -/
def openFile (s : Stream κ) (lib : Library) (relative : String) (line : Option Nat) (onClose : Option κ) :
    Except (Report Fault) (Path × Stream κ) :=
  match s.fileFor lib relative with
  | .error f => .error (s.openFault line f)
  | .ok (path, text) => .ok (path, s.push path text line onClose)

/-- What opening a file puts on top of a stream. -/
theorem openFile_eq_ok_iff {s t : Stream κ} {lib : Library} {relative : String} {line : Option Nat}
    {onClose : Option κ} {path : Path} : s.openFile lib relative line onClose = .ok (path, t) ↔
      ∃ text, s.fileFor lib relative = .ok (path, text) ∧ t = s.push path text line onClose := by
  unfold openFile
  cases s.fileFor lib relative with
  | error f => simp
  | ok file =>
    obtain ⟨path', text⟩ := file
    constructor
    · intro h
      cases h
      exact ⟨text, rfl, rfl⟩
    · rintro ⟨text', h, rfl⟩
      cases h
      rfl

/-! ### The stream goes down in rank -/

/-- The rank of a stream under a limit on the number of open texts. -/
def nesting (s : Stream κ) (limit : Nat) : Nesting :=
  ⟨limit, .ofList limit (s.frames.reverse.map (·.weight))⟩

/-- Taking items from the innermost text lowers the rank. -/
theorem nesting_of_top_lt {s t : Stream κ} (limit : Nat) (hbelow : t.below = s.below)
    (h : t.top.cursor.items.length < s.top.cursor.items.length) : (t.nesting limit).Below (s.nesting limit) := by
  refine .mk limit ?_
  simp only [frames, hbelow, List.reverse_cons, List.map_append, List.map_cons, List.map_nil]
  exact Ranks.below_of_last_lt _ _ (by simpa [Frame.weight] using h)

/-- Going back from a text lowers the rank. -/
theorem nesting_backTo {s : Stream κ} {outer : Frame κ} {below : List (Frame κ)} (limit : Nat)
    (h : s.below = outer :: below) : ((backTo s.top outer below).nesting limit).Below (s.nesting limit) := by
  refine .mk limit ?_
  simp only [frames, h, backTo, List.reverse_cons, List.map_append, List.map_cons, List.map_nil, Frame.weight]
  exact Ranks.below_of_pop _ _ (Nat.succ_pos _)

/-- Opening a file behind items that have been taken lowers the rank, if the limit has not been reached. -/
theorem nesting_open {s t u : Stream κ} {lib : Library} {relative : String} {line : Option Nat} {onClose : Option κ}
    {path : Path} (hopen : t.openFile lib relative line onClose = .ok (path, u)) (hbelow : t.below = s.below)
    (h : t.top.cursor.items.length < s.top.cursor.items.length) :
    (u.nesting lib.config.maxIncludeDepth).Below (s.nesting lib.config.maxIncludeDepth) := by
  obtain ⟨text, hfile, rfl⟩ := openFile_eq_ok_iff.1 hopen
  have hdepth := (OpenPaths.fileFor_eq_ok.1 hfile).2.1
  refine .mk _ ?_
  simp only [push, frames, hbelow, List.reverse_cons, List.map_append, List.map_cons, List.map_nil, List.append_assoc,
    List.cons_append, List.nil_append]
  refine Ranks.below_of_lt_of_push _ _ (by simpa [Frame.weight] using h) ?_
  simp only [paths, frames, hbelow, List.map_cons, List.length_cons, List.length_map] at hdepth
  simp only [List.length_map, List.length_reverse]
  omega

end Stream

end SceneDescription
