import SceneDescription.Bytes.Gzip
import SceneDescription.Files.Config
import SceneDescription.Files.FileSystem

/-!
# Reading scene files as text

The bytes of a scene file are decompressed if its name asks for it, decoded, and their line ends unified.
-/

namespace SceneDescription

/-- Why a scene file could not be read as text. -/
inductive ReadFault
  | cannotOpen (fault : OpenFault)
  | notExpandable (fault : Gzip.Fault)
  | notDecodable (fault : DecodingFault)
  | nulInPath
  | nulInEncoding
  | noDecoder (fault : LookupFault)
  deriving DecidableEq

namespace ReadFault

def message : ReadFault → String
  | cannotOpen fault => fault.text
  | notExpandable fault => fault.message
  | notDecodable fault => fault.message
  | nulInPath => "embedded null byte"
  | nulInEncoding => "embedded null character"
  | noDecoder fault => fault.message

/-- The message with the number of a system error and the path in front. -/
def fullMessage (path : Path) : ReadFault → String
  | cannotOpen fault =>
    "[Errno " ++ Nat.repr fault.code ++ "] " ++ fault.text ++ ": " ++ Quoted.text path.toText
  | fault => fault.message

/-- Whether a fault is a finding about the file, and so belongs in a report on the scene.  The others break off
the reading: a name that cannot be passed to the system, an encoding nobody knows, a decoder that complains without
naming any bytes, and compressed data that stop in the middle or are no compressed data at all. -/
def isReportable : ReadFault → Bool
  | cannotOpen _ => true
  | notExpandable .cutShort => false
  | notExpandable (.damaged _) => false
  | notExpandable _ => true
  | notDecodable (.badBytes _) => true
  | notDecodable (.unmarked _) | notDecodable (.irregular _) => false
  | nulInPath | nulInEncoding | noDecoder _ => false

end ReadFault

/-- Adds a character to the text so far, which is held last character first: a carriage return becomes a line
feed, and a line feed right after one is dropped. -/
def unifyLineEnd (acc : List Char × Bool) (c : Char) : List Char × Bool :=
  if c = '\n' && acc.2 then (acc.1, false)
  else ((if c = '\r' then '\n' else c) :: acc.1, c = '\r')

/-- Writes every line end as a line feed. -/
def unifyLineEnds (text : List Char) : List Char :=
  (text.foldl unifyLineEnd ([], false)).1.reverse

/-- The decoder for the encoding that a configuration names. -/
def FileSystem.decoderFor (files : FileSystem) (config : Config) : Except ReadFault Decoder :=
  if config.encoding.contains '\x00' then .error .nulInEncoding
  else (files.decoder config.encoding).mapError .noDecoder

/-- The text of a scene file.  The file is opened before its encoding is looked up, but a name that cannot even be
passed to the system is found out first, unless the file is compressed. -/
def FileSystem.readText (files : FileSystem) (config : Config) (path : Path) : Except ReadFault (List Char) := do
  let compressed := config.allowGzip && path.suffix = ".gz"
  if !compressed && config.encoding.contains '\x00' then .error .nulInEncoding
  if path.hasNul then .error .nulInPath
  let bytes ← (files.read path).mapError .cannotOpen
  let decode ← files.decoderFor config
  let bytes ← if compressed then (Gzip.expand bytes).mapError .notExpandable else .ok bytes
  let text ← (decode bytes).mapError .notDecodable
  return unifyLineEnds text

end SceneDescription
