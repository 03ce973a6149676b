import SceneDescription.Text.Integer

/-!
# Command-line arguments

Options may be shortened to an unambiguous beginning, and the value of an option may follow it or be joined to
it by an equals sign.  After a double dash nothing is an option.
-/

namespace SceneDescription.CommandLine

/-- What the command is asked to do. -/
structure Arguments where
  /-- The path of the scene; a dash stands for the standard input. -/
  scene : String
  json : Bool := false
  indent : Int := 2
  maxIncludeDepth : Int := 64
  verbose : Bool := false

inductive OptionName
  | help
  | json
  | indent
  | maxIncludeDepth
  | verbose
  deriving DecidableEq

/-- The spellings of the options. -/
def spellings : List (String × OptionName) := [
  ("-h", .help), ("--help", .help), ("--json", .json), ("--indent", .indent),
  ("--max-include-depth", .maxIncludeDepth), ("--verbose", .verbose)]

/-- A word of the command line. -/
inductive Word
  | operand (text : String)
  /-- The first double dash. -/
  | separator
  /-- An option, with the value that an equals sign joins to it. -/
  | option (name : OptionName) (value : Option String)
  /-- The short option, with more characters right behind it or joined to it by an equals sign. -/
  | cluster (more : List Char)
  | unknownOption

/-- Why the command is not carried out. -/
inductive Refusal
  | help
  | usage
  deriving DecidableEq

/-- The exit code of a command that is not carried out. -/
def Refusal.code : Refusal → Nat
  | help => 0
  | usage => 2

/-- Drops a line feed at the end. -/
def dropFinalNewline (text : List Char) : List Char :=
  if text.getLast? = some '\n' then text.dropLast else text

/-- Whether a text is a dash and a number without exponent, which is an operand; a line feed may end it. -/
def isNegativeNumber (text : String) : Bool :=
  match dropFinalNewline text.toList with
  | '-' :: rest =>
    match rest.dropWhile isDecimalDigit with
    | [] => !rest.isEmpty
    | '.' :: digits => !digits.isEmpty && digits.all isDecimalDigit
    | _ => false
  | _ => false

/-- Divides a text at its first equals sign. -/
def splitAtEquals (text : String) : String × Option String :=
  let cs := text.toList
  match cs.dropWhile (· ≠ '=') with
  | [] => (text, none)
  | _ :: value => (String.ofList (cs.takeWhile (· ≠ '=')), some (String.ofList value))

/-- The options that a text may be short for. -/
def candidates (text : String) : List Word :=
  if text.startsWith "--" then
    let (front, value) := splitAtEquals text
    spellings.filterMap fun (spelling, name) =>
      if spelling.startsWith front then some (.option name value) else none
  else
    spellings.filterMap fun (spelling, name) =>
      if spelling.toList = text.toList.take 2 then some (.cluster (text.toList.drop 2))
      else if spelling.startsWith text then some (.option name none)
      else none

/-- The word that an argument is, in front of the first double dash. -/
def classify (text : String) : Except Refusal Word :=
  if !text.startsWith "-" || text = "-" then .ok (.operand text)
  else match spellings.lookup text with
    | some name => .ok (.option name none)
    | none =>
      let (front, value) := splitAtEquals text
      match value.bind fun _ => spellings.lookup front with
      | some name =>
        if front.startsWith "--" then .ok (.option name value) else .ok (.cluster (value.getD "").toList)
      | none => match candidates text with
        | [word] => .ok word
        | _ :: _ :: _ => .error .usage
        | [] =>
          if isNegativeNumber text || text.contains ' ' then .ok (.operand text) else .ok .unknownOption

/-- The words of a command line. -/
def wordsOf : List String → Except Refusal (List Word)
  | [] => .ok []
  | "--" :: rest => .ok (.separator :: rest.map .operand)
  | text :: rest => do
    let word ← classify text
    return word :: (← wordsOf rest)

/-- What has been gathered from the words so far. -/
structure Gathered where
  scene : Option String := none
  /-- Whether the word before was the scene. -/
  afterScene : Bool := false
  /-- Whether there was a word that has no place. -/
  surplus : Bool := false
  arguments : Arguments := { scene := "" }

namespace Gathered

/-- Sets an option that takes a number. -/
def setNumber (g : Gathered) (name : OptionName) (text : String) : Except Refusal Gathered :=
  match integer? text with
  | none => .error .usage
  | some n => match name with
    | .indent => .ok { g with arguments := { g.arguments with indent := n } }
    | _ => .ok { g with arguments := { g.arguments with maxIncludeDepth := n } }

/-- Sets an option that takes no value. -/
def setFlag (g : Gathered) : OptionName → Except Refusal Gathered
  | .json => .ok { g with arguments := { g.arguments with json := true } }
  | .verbose => .ok { g with arguments := { g.arguments with verbose := true } }
  | _ => .error .help

end Gathered

def OptionName.takesNumber : OptionName → Bool
  | indent | maxIncludeDepth => true
  | _ => false

/-- What becomes of the short option with more characters behind it: if they are all short options as well, help is
given. -/
def clusterRefusal (more : List Char) : Refusal :=
  if !more.isEmpty && more.all (· = 'h') then .help else .usage

/-- Gathers what the words say.  A value joined to an option that takes none is refused. -/
def gather (g : Gathered) : List Word → Except Refusal Gathered
  | [] => .ok g
  | .operand text :: rest =>
    if g.scene.isNone then gather { g with scene := some text, afterScene := true } rest
    else gather { g with surplus := true, afterScene := false } rest
  | .separator :: rest =>
    gather { g with surplus := g.surplus || (g.scene.isSome && !g.afterScene), afterScene := false } rest
  | .unknownOption :: rest => gather { g with surplus := true, afterScene := false } rest
  | .cluster more :: _ => .error (clusterRefusal more)
  | .option name (some value) :: rest =>
    if name.takesNumber then do gather { ← g.setNumber name value with afterScene := false } rest
    else .error .usage
  | .option name none :: rest =>
    if name.takesNumber then
      match rest with
      | .operand value :: rest => do gather { ← g.setNumber name value with afterScene := false } rest
      | _ => .error .usage
    else do gather { ← g.setFlag name with afterScene := false } rest

/-- Reads the arguments of the command. -/
def Arguments.parse (argv : List String) : Except Refusal Arguments := do
  let g ← gather {} (← wordsOf argv)
  match g.scene with
  | some scene => if g.surplus then .error .usage else return { g.arguments with scene }
  | none => .error .usage

end SceneDescription.CommandLine
