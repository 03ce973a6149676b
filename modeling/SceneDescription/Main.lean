import SceneDescription.CommandLine.Command
import SceneDescription.Transform.Elimination

/-!
# The program

Carries out the command on the files of the system.  The command itself is a function of the files that have been
fetched so far; it is repeated each time it asks for one that has not been.
-/

namespace SceneDescription.CommandLine.Program

/-- What has been found out about a path: its bytes and the place that it leads to, or why there are none. -/
structure Found where
  bytes : Except OpenFault (List UInt8)
  place : Except ResolveFault (List String)

/-- What has been found out so far. -/
abbrev Fetched := List (Path × Found)

/-- What stands for a file that has not been fetched. -/
def notFetched : OpenFault := ⟨0, "not fetched"⟩

def Fetched.fileSystem (fetched : Fetched) (workingDirectory : List String) : FileSystem where
  workingDirectory := workingDirectory
  read path := ((fetched.lookup path).map (·.bytes)).getD (.error notFetched)
  resolve path := ((fetched.lookup path).map (·.place)).getD (.error (.system notFetched))

/-- The fault with the number of a system error, which may come negated; `text` describes one that has no
wording of its own. -/
def openFault (number : UInt32) (text : String) : OpenFault :=
  let code := (min number (-number)).toNat
  let known :=
    [OpenFault.noSuchFile, .notPermitted, .notDirectory, .isDirectory, .nameTooLong, .linkLoop].find? (·.code = code)
  known.getD ⟨code, text⟩

/-- The fault that a system error stands for. -/
def openFaultOf : IO.Error → OpenFault
  | .noFileOrDirectory _ number text | .interrupted _ number text => openFault number text
  | .alreadyExists _ number text | .invalidArgument _ number text | .permissionDenied _ number text
  | .resourceExhausted _ number text | .inappropriateType _ number text
  | .noSuchThing _ number text => openFault number text
  | .otherError number text | .resourceBusy number text | .resourceVanished number text
  | .unsupportedOperation number text | .hardwareFault number text | .unsatisfiedConstraints number text
  | .illegalOperation number text | .protocolError number text | .timeExpired number text => openFault number text
  | .unexpectedEof => ⟨5, "Input/output error"⟩
  | .userError text => ⟨5, text⟩

/-- Reads a file of the system. -/
def readBytes (path : Path) : IO (Except OpenFault (List UInt8)) := do
  try
    let bytes ← IO.FS.readBinFile path.toText
    return .ok bytes.toList
  catch e => return .error (openFaultOf e)

/-- Follows names from a place in the system, and links with them.  What does not exist is not a link.  Behind a link
that leads back to itself the names are taken as they stand. -/
def follow : List String → (place : List String) → IO (Except ResolveFault (List String))
  | [], place => return .ok place
  | name :: names, place => do
    if name = ".." then follow names place.dropLast
    else
      let next := place ++ [name]
      try
        let found ← IO.FS.realPath (Path.mk .slash next).toText
        follow names (Path.ofString found.toString).names
      catch _ =>
        if !(← loops next) then follow names next
        else
          let final := names.foldl Path.step next
          if ← loops final then return .error (.linkLoop (Quoted.text (Path.mk .slash final).toText))
          else return .ok final
where
  loops (place : List String) : IO Bool := do
    match ← readBytes (Path.mk .slash place) with
    | .error fault => return fault = .linkLoop
    | .ok _ => return false

/-- Finds out about a path. -/
def fetch (workingDirectory : List String) (path : Path) : IO Found := do
  if path.hasNul then return { bytes := .error .noSuchFile, place := .error .nulInPath }
  let start := if path.isAbsolute then [] else workingDirectory
  return { bytes := ← readBytes path, place := ← follow path.names start }

attribute [local instance] LinearAlgebra.stepwise

/-- Fetches files until the command has all that it asks for. -/
partial def carryOut (argv workingDirectory : List String) (stdin : List Char) (fetched : Fetched) : IO Reply := do
  let files := fetched.fileSystem workingDirectory
  match stoppedAt? argv files stdin notFetched with
  | some path => carryOut argv workingDirectory stdin ((path, ← fetch workingDirectory path) :: fetched)
  | none => return run argv files stdin

/-- The text of the standard input, if the scene is to be read from there. -/
def inputText (argv : List String) : IO (List Char) := do
  match Arguments.parse argv with
  | .ok { scene := "-", .. } => return (← (← IO.getStdin).readToEnd).toList
  | _ => return []

def usage : String :=
  "usage: scene-description [-h] [--json] [--indent N] [--max-include-depth N] [--verbose] scene"

/-- Carries out the command and prints its reply; gives the exit code. -/
def start (argv : List String) : IO UInt32 := do
  let here := Path.ofString (← IO.currentDir).toString
  match ← carryOut argv here.names (← inputText argv) [] with
  | .printed code out err =>
    IO.eprint err
    IO.print out
    return code.toUInt32
  | .refused refusal =>
    if refusal = .help then IO.println usage else IO.eprintln usage
    return refusal.code.toUInt32
  | .noDepth depth =>
    IO.eprintln (Config.depthMessage depth)
    return 1
  | .brokeOff cause =>
    IO.eprintln cause.message
    return 1

end SceneDescription.CommandLine.Program

def main (argv : List String) : IO UInt32 :=
  SceneDescription.CommandLine.Program.start argv
