import SceneDescription.Bytes.Encoding
import SceneDescription.Entries
import SceneDescription.Files.Path

/-!
# File systems

What reading scenes needs of the system that the files are on: a working directory, the content of the file at a path,
the place that a path leads to, and the decoders of texts.  All of these may fail.  A `FileTree` gives the files of a
small system without links as a value.
-/

namespace SceneDescription

/-- Why a file could not be opened: the number and the text of the system's error. -/
structure OpenFault where
  code : Nat
  text : String
  deriving DecidableEq

namespace OpenFault

def noSuchFile : OpenFault := ⟨2, "No such file or directory"⟩

def notPermitted : OpenFault := ⟨13, "Permission denied"⟩

def notDirectory : OpenFault := ⟨20, "Not a directory"⟩

def isDirectory : OpenFault := ⟨21, "Is a directory"⟩

def nameTooLong : OpenFault := ⟨36, "File name too long"⟩

def linkLoop : OpenFault := ⟨40, "Too many levels of symbolic links"⟩

end OpenFault

/-- Why the place that a path leads to could not be found. -/
inductive ResolveFault
  /-- A symbolic link leads back to itself; `shown` is the path as the system names it. -/
  | linkLoop (shown : String)
  /-- The system does not answer; so it is when the working directory is gone. -/
  | system (fault : OpenFault)
  | nulInPath
  deriving DecidableEq

def ResolveFault.message : ResolveFault → String
  | linkLoop shown => "Symlink loop from " ++ shown
  | system fault => "[Errno " ++ Nat.repr fault.code ++ "] " ++ fault.text
  | nulInPath => "embedded null byte"

/-- The files that a scene may refer to. -/
structure FileSystem where
  /-- The names from the root to the working directory. -/
  workingDirectory : List String
  /-- The bytes of the file at a path. -/
  read : Path → Except OpenFault (List UInt8)
  /-- The names from the root to the place that a path leads to, whether there is a file or not. -/
  resolve : Path → Except ResolveFault (List String)
  /-- The decoder of a name. -/
  decoder : String → Except LookupFault Decoder := Encoding.decoder

/-- A file, or a directory of named files and directories. -/
inductive FileTree
  | file (bytes : List UInt8)
  | directory (entries : List (String × FileTree))

namespace FileTree

/-- The entries of a directory; a file has none. -/
def entries : FileTree → List (String × FileTree)
  | file _ => []
  | directory entries => entries

/-- Puts a file or directory at the end of a list of names, with all the directories on the way to it.  A
directory that is there already stays when an empty one is put in its place. -/
def insert (new : FileTree) : List String → FileTree → FileTree
  | [], old => match new, old with
    | .directory [], .directory kept => .directory kept
    | new, _ => new
  | name :: names, tree =>
    let child := (tree.entries.lookup name).getD (.directory [])
    .directory (setEntry name (insert new names child) tree.entries)

/-- The longest name of a directory entry, in bytes. -/
def longestName : Nat := 255

/-- The longest path, in bytes. -/
def longestPath : Nat := 4095

/-- Follows names from a directory with the given ancestors, nearest first. -/
def walk : List String → (ancestors : List FileTree) → FileTree → Except OpenFault FileTree
  | [], _, here => .ok here
  | _ :: _, _, .file _ => .error .notDirectory
  | name :: names, ancestors, .directory entries =>
    if name = ".." then
      match ancestors with
      | [] => walk names [] (.directory entries)
      | up :: further => walk names further up
    else if longestName < name.utf8ByteSize then .error .nameTooLong
    else match entries.lookup name with
      | none => .error .noSuchFile
      | some child => walk names (.directory entries :: ancestors) child

/-- The bytes of the file at a path. -/
def readAt (root : FileTree) (workingDirectory : List String) (p : Path) : Except OpenFault (List UInt8) := do
  if longestPath < p.toText.utf8ByteSize then .error .nameTooLong
  match ← walk ((if p.isAbsolute then [] else workingDirectory) ++ p.names) [] root with
  | .file bytes => return bytes
  | .directory _ => .error .isDirectory

/-- Where a path leads if there are no links. -/
def placeOf (workingDirectory : List String) (p : Path) : Except ResolveFault (List String) :=
  if p.hasNul then .error .nulInPath else .ok (p.resolve workingDirectory)

/-- A file tree as seen from a working directory. -/
def fileSystem (root : FileTree) (workingDirectory : List String) : FileSystem where
  workingDirectory := workingDirectory
  read := root.readAt workingDirectory
  resolve := placeOf workingDirectory

end FileTree

end SceneDescription
