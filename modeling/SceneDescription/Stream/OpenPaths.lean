import SceneDescription.Fault

/-!
# Finding the files of includes

Which file an include opens, and whether it may be opened, depends on the paths of the texts that are open.
-/

namespace SceneDescription

/-- The configuration and the files that includes are looked up in. -/
structure Library where
  config : Config
  files : FileSystem

/-- The fault of a file that cannot be read. -/
def Library.readFault (report : ReadFault → Fault) (cause : ReadFault) : Fault :=
  if cause.isReportable then report cause else .readingBrokeOff cause

/-- The paths of the open texts, innermost first; not every text is a file. -/
abbrev OpenPaths : Type :=
  List (Option Path)

namespace OpenPaths

/-- The directory that relative paths are looked up in: that of the innermost file, or the configured one. -/
def baseDirectory (paths : OpenPaths) (config : Config) : Path :=
  match paths.findSome? id with
  | some path => path.parent
  | none => config.baseDirectory

/-- The path that a text denotes inside the open texts. -/
def resolve (paths : OpenPaths) (config : Config) (relative : String) : Path :=
  (paths.baseDirectory config).join (.ofString relative)

/-- Whether an open text is the file at a path. -/
def isFile (files : FileSystem) (path : Path) : Option Path → Except ResolveFault Bool
  | none => return false
  | some other => return (← files.resolve other) = (← files.resolve path)

/-- Whether a file is open already.  The outermost text is asked first, and the asking ends with the first one that is
this file, or where a path does not lead anywhere. -/
def isOpen (paths : OpenPaths) (files : FileSystem) (path : Path) : Except ResolveFault Bool :=
  paths.reverse.anyM (isFile files path)

/-- The path and the text of the file that a text denotes, or what is wrong with it.  The number of open texts is
limited, and a file cannot be opened again before it has ended. -/
def fileFor (paths : OpenPaths) (lib : Library) (relative : String) : Except Fault (Path × List Char) :=
  let path := paths.resolve lib.config relative
  if lib.config.maxIncludeDepth ≤ paths.length then .error (.tooDeep lib.config.maxIncludeDepth path)
  else match paths.isOpen lib.files path with
    | .error cause => .error (.resolvingBrokeOff path cause)
    | .ok true => .error (.recursiveFile path)
    | .ok false => match lib.files.readText lib.config path with
      | .error cause => .error (Library.readFault (.unreadableFile path) cause)
      | .ok text => .ok (path, text)

/-- The checks that a file has passed which is to be opened. -/
theorem fileFor_eq_ok {paths : OpenPaths} {lib : Library} {relative : String} {path : Path} {text : List Char} :
    paths.fileFor lib relative = .ok (path, text) ↔
      path = paths.resolve lib.config relative ∧ paths.length < lib.config.maxIncludeDepth ∧
        paths.isOpen lib.files path = .ok false ∧ lib.files.readText lib.config path = .ok text := by
  unfold fileFor
  dsimp only
  constructor
  · intro h
    split at h
    · exact nomatch h
    rename_i hdepth
    split at h
    · exact nomatch h
    · exact nomatch h
    rename_i hclosed
    split at h
    · exact nomatch h
    rename_i htext
    cases h
    exact ⟨rfl, Nat.lt_of_not_le hdepth, hclosed, htext⟩
  · rintro ⟨rfl, hdepth, hclosed, htext⟩
    rw [if_neg (Nat.not_le_of_lt hdepth), hclosed, htext]

end OpenPaths

end SceneDescription
