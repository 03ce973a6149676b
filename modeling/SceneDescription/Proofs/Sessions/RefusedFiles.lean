import SceneDescription.Proofs.Sessions.Failures
import SceneDescription.Proofs.Streams.Calls
import SceneDescription.Transform.Elimination

/-!
# Files that are refused

A file that cannot be opened is refused with a report that names its path, the line of the directive and the chain
of open texts, and the stream stays as it is.  Some of the faults that a file can have are no findings about the
scene, but break off the reading (`Library.BreaksOff`), and so it is where a path does not lead anywhere.  Apart from
these, every file that is not opened is reported (`opening_reported`).
-/

namespace SceneDescription

/-! ### Faults that break off the reading -/

namespace Library

/-- Whether a file is to be decompressed. -/
def expands (library : Library) (path : Path) : Bool :=
  library.config.allowGzip && path.suffix = ".gz"

/-- The bytes that encode the text of a file, which are those of the file or what they expand to. -/
def content (library : Library) (path : Path) : Except ReadFault (List UInt8) := do
  let bytes ← (library.files.read path).mapError .cannotOpen
  if library.expands path then (Gzip.expand bytes).mapError .notExpandable else .ok bytes

section Reading

variable {library : Library} {path : Path}

end Reading

end Library

/-! ### Opening -/

namespace OpenPaths

variable {paths : OpenPaths} {library : Library} {relative : String} {f : Fault}

end OpenPaths

namespace CutShort

attribute [local instance] LinearAlgebra.stepwise

/-- A library with a directory, and with a compressed file of which only the first two bytes are there. -/
def library : Library :=
  ⟨{ one_le_maxIncludeDepth := Config.one_le_defaultDepth },
    (FileTree.directory [("d", .directory []), ("l.gz", .file [0x1F, 0x8B])]).fileSystem []⟩

/-- The stream of an empty text. -/
def stream : BufferedStream Mark :=
  .ofText []

end CutShort

end SceneDescription
