import SceneDescription.CommandLine.Arguments
import SceneDescription.CommandLine.Summary
import SceneDescription.Dump.Json
import SceneDescription.Session

/-!
# The command

Reads a scene and prints a summary of it, or the whole scene as JSON.  What happened on the way is logged:
warnings always, the rest if the command is to be verbose.
-/

namespace SceneDescription.CommandLine

inductive LogLevel
  | debug
  | warning
  deriving DecidableEq

def LogLevel.name : LogLevel → String
  | debug => "DEBUG"
  | warning => "WARNING"

structure LogLine where
  level : LogLevel
  logger : String
  message : String

def LogLine.toText (l : LogLine) : String :=
  l.level.name ++ " " ++ l.logger ++ ": " ++ l.message ++ "\n"

def includeLogger : String := "src.pbrt.parser.include"

def directiveLogger : String := "src.pbrt.parser.dispatcher"

def sceneLogger : String := "src.pbrt.scene.builder"

/-- The line that the log has for a note. -/
def logLine : Note → LogLine
  | .opened path within line =>
    ⟨.debug, includeLogger, "reading " ++ path.toText ++ " (from " ++ within ++ ":" ++ Nat.repr line ++ ")"⟩
  | .included path => ⟨.debug, directiveLogger, "Include " ++ path.toText⟩
  | .imported path => ⟨.debug, directiveLogger, "Import " ++ path.toText⟩
  | .left source => ⟨.debug, includeLogger, "finished " ++ source⟩
  | .worldEnded location => ⟨.debug, directiveLogger, "WorldEnd at " ++ location.toText⟩
  | .warned warning => ⟨.warning, sceneLogger, warning.toText⟩

/-- The line that the log has for a finished scene. -/
def finishedLine (scene : Scene) : LogLine :=
  ⟨.debug, directiveLogger, "parsed " ++ Nat.repr scene.shapes.length ++ " shapes, "
    ++ Nat.repr scene.lights.length ++ " lights, " ++ Nat.repr scene.objects.length ++ " objects, "
    ++ Nat.repr scene.instances.length ++ " instances"⟩

/-- What comes of a command. -/
inductive Reply
  /-- The command was not carried out. -/
  | refused (refusal : Refusal)
  | printed (code : Nat) (stdout stderr : String)
  /-- The limit on open files leaves no room for the scene. -/
  | noDepth (depth : Int)
  /-- The reading of the scene broke off. -/
  | brokeOff (cause : Fault)

/-- The lines of the log that are shown. -/
def logText (verbose : Bool) (lines : List LogLine) : String :=
  String.join ((lines.filter fun l => verbose || l.level = .warning).map LogLine.toText)

/-- The reply to a scene that could not be read; findings are printed, anything else breaks off the command. -/
def failure (log : String) (r : Report Fault) : Reply :=
  if r.cause.isFinding then .printed 1 "" (log ++ "Error: " ++ r.render Fault.message ++ "\n")
  else .brokeOff r.cause

/-- The reply to a session that has ended. -/
def reply (arguments : Arguments) (outcome : Outcome) : Reply :=
  let lines := outcome.journal.map logLine
  match outcome.result with
  | .error r => failure (logText arguments.verbose lines) r
  | .ok scene =>
    let text := if arguments.json then Json.render arguments.indent (.ofScene scene) else summary scene
    .printed 0 (text ++ "\n") (logText arguments.verbose (lines ++ [finishedLine scene]))

/-- The session of a command: relative paths are looked up beside the scene, or in the working directory if the
scene is the standard input. -/
def session (arguments : Arguments) (config : Config) (files : FileSystem) (stdin : List Char) :
    Except (Report Fault) Session :=
  if arguments.scene = "-" then
    .ok (.ofText ⟨{ config with baseDirectory := ⟨.slash, files.workingDirectory⟩ }, files⟩ stdin)
  else
    let path := Path.ofString arguments.scene
    Session.ofFile ⟨{ config with baseDirectory := path.parent }, files⟩ path

/-- The settings and arguments of a command that can be carried out. -/
def prepare (argv : List String) : Except Reply (Arguments × Config) :=
  match Arguments.parse argv with
  | .error refusal => .error (.refused refusal)
  | .ok arguments =>
    match ({} : Config).withDepth? arguments.maxIncludeDepth with
    | none => .error (.noDepth arguments.maxIncludeDepth)
    | some config => .ok (arguments, config)

variable [LinearAlgebra]

/-- Carries out the command. -/
def run (argv : List String) (files : FileSystem) (stdin : List Char) : Reply :=
  match prepare argv with
  | .error refused => refused
  | .ok (arguments, config) =>
    match session arguments config files stdin with
    | .error r => failure "" r
    | .ok s => reply arguments s.finish

/-- The file that stops the command by a certain fault of the system. -/
def stoppedAt? (argv : List String) (files : FileSystem) (stdin : List Char) (fault : OpenFault) : Option Path :=
  match prepare argv with
  | .error _ => none
  | .ok (arguments, config) =>
    match session arguments config files stdin >>= fun s => s.finish.result with
    | .error { cause := .unreadableRoot path (.cannotOpen f), .. }
    | .error { cause := .unreadableFile path (.cannotOpen f), .. }
    | .error { cause := .resolvingBrokeOff path (.system f), .. } => if f = fault then some path else none
    | _ => none

end SceneDescription.CommandLine
