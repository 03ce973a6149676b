/-!
# Paths

A path is a root and the names after it.  Repeated slashes, single dots and a trailing slash are forgotten when
a text is read as a path; `..` is kept, because what it leads to depends on the files.  `Path.resolve` makes a
path absolute by its text alone, as if there were no symbolic links.
-/

namespace SceneDescription

/-- Where a path starts: at the working directory, or at the root, written with one slash or with exactly two. -/
inductive PathRoot
  | relative
  | slash
  | doubleSlash
  deriving DecidableEq

structure Path where
  root : PathRoot := .relative
  names : List String := []
  deriving DecidableEq

namespace Path

/-- The path that a text denotes. -/
def ofString (text : String) : Path where
  root := match (text.toList.takeWhile (· = '/')).length with
    | 0 => .relative
    | 2 => .doubleSlash
    | _ => .slash
  names := ((text.splitOn "/").filter fun name => name ≠ "" && name ≠ ".")

def isAbsolute (p : Path) : Bool :=
  p.root ≠ .relative

/-- Whether a path has a null character in it, and so cannot be passed to the system. -/
def hasNul (p : Path) : Bool :=
  p.names.any (·.contains '\x00')

/-- The text of a path; the empty relative path is written as a dot. -/
def toText (p : Path) : String :=
  let names := "/".intercalate p.names
  match p.root with
  | .relative => if p.names.isEmpty then "." else names
  | .slash => "/" ++ names
  | .doubleSlash => "//" ++ names

/-- The directory that holds a path, by its text alone. -/
def parent (p : Path) : Path :=
  { p with names := p.names.dropLast }

/-- A path as seen from a directory. -/
def join (directory p : Path) : Path :=
  if p.isAbsolute then p else { directory with names := directory.names ++ p.names }

/-- The last name from its last dot on, if that dot is neither the first nor the last character of the name. -/
def suffix (p : Path) : String :=
  match p.names.getLast? with
  | none => ""
  | some name =>
    let chars := name.toList
    let after := (chars.reverse.takeWhile (· ≠ '.')).reverse
    if after.isEmpty || chars.length ≤ after.length + 1 then "" else "." ++ String.ofList after

/-- Adds a name to an absolute list of names; `..` takes the last one away. -/
def step (names : List String) (name : String) : List String :=
  if name = ".." then names.dropLast else names ++ [name]

/-- The names of a path from the root on, without `..`, as seen from a working directory. -/
def resolve (workingDirectory : List String) (p : Path) : List String :=
  p.names.foldl step (if p.isAbsolute then [] else workingDirectory)

end Path

end SceneDescription
