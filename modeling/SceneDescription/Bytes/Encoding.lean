import SceneDescription.Bytes.CodePage
import SceneDescription.Bytes.Utf8
import SceneDescription.Bytes.Wide

/-!
# Text encodings

A decoder turns bytes into text, or says why it cannot.  Given here are the encodings that a scene file is most likely
written in, with their many names.
-/

namespace SceneDescription

inductive Encoding
  | utf8
  /-- UTF-8 with an optional byte-order mark in front. -/
  | utf8Signed
  /-- UTF-16, in a given order of bytes or in the one that a byte-order mark tells. -/
  | utf16 (order : Option Wide.ByteOrder)
  /-- UTF-32, in a given order of bytes or in the one that a byte-order mark tells. -/
  | utf32 (order : Option Wide.ByteOrder)
  | latin1
  | latin9
  | windows1252
  | ascii
  deriving DecidableEq

/-- Why bytes could not be decoded. -/
inductive DecodingFault
  | badBytes (bytes : BadBytes)
  /-- A byte-order mark is missing. -/
  | unmarked (format : String)
  /-- What else a decoder may complain about, without naming any bytes. -/
  | irregular (complaint : String)
  deriving DecidableEq

def DecodingFault.message : DecodingFault → String
  | badBytes bytes => bytes.message
  | unmarked format => format ++ " stream does not start with BOM"
  | irregular complaint => complaint

/-- The text that a byte string encodes. -/
abbrev Decoder : Type :=
  List UInt8 → Except DecodingFault (List Char)

/-- Why there is no decoder of a name. -/
inductive LookupFault
  | unknown (name : String)
  /-- The name of a codec that does not turn bytes into text. -/
  | notText (name : String)
  deriving DecidableEq

def LookupFault.message : LookupFault → String
  | unknown name => "unknown encoding: " ++ name
  | notText name => "'" ++ name ++ "' is not a text encoding; use codecs.open() to handle arbitrary codecs"

/-! ### Names -/

/-- The names of a codec. -/
structure CodecName where
  proper : String
  others : List String := []

namespace CodecName

/-- The form under which names are compared: lower case, with one underscore for every run of punctuation
between letters, digits and dots. -/
def normalise (name : String) : String :=
  let plain (c : Char) : Bool := c.isAlphanum || c == '.'
  let rec go (pending : Bool) (acc : List Char) : List Char → List Char
    | [] => acc.reverse
    | c :: rest =>
      if plain c then go false (c.toLower :: (if pending && !acc.isEmpty then '_' :: acc else acc)) rest
      else go true acc rest
  String.ofList (go false [] name.toList)

/-- Whether a codec has a name, given in the form under which names are compared.  In all but the proper name,
dots may stand for underscores. -/
def answersTo (c : CodecName) (key : String) : Bool :=
  c.proper = key || c.others.contains key || c.others.contains (key.map fun c => if c = '.' then '_' else c)

/-- The codecs between byte strings, or between texts, which do not turn bytes into text. -/
def notForText : List CodecName := [
  ⟨"base64_codec", ["base64", "base_64"]⟩, ⟨"bz2_codec", ["bz2"]⟩, ⟨"hex_codec", ["hex"]⟩,
  ⟨"quopri_codec", ["quopri", "quoted_printable", "quotedprintable"]⟩, ⟨"rot_13", ["rot13"]⟩,
  ⟨"uu_codec", ["uu"]⟩, ⟨"zlib_codec", ["zip", "zlib"]⟩]

end CodecName

namespace Encoding

def codecName : Encoding → CodecName
  | utf8 => ⟨"utf_8", ["u8", "utf", "utf8", "utf8_ucs2", "utf8_ucs4", "cp65001"]⟩
  | utf8Signed => ⟨"utf_8_sig", []⟩
  | utf16 none => ⟨"utf_16", ["u16", "utf16"]⟩
  | utf16 (some .little) => ⟨"utf_16_le", ["unicodelittleunmarked", "utf_16le"]⟩
  | utf16 (some .big) => ⟨"utf_16_be", ["unicodebigunmarked", "utf_16be"]⟩
  | utf32 none => ⟨"utf_32", ["u32", "utf32"]⟩
  | utf32 (some .little) => ⟨"utf_32_le", ["utf_32le"]⟩
  | utf32 (some .big) => ⟨"utf_32_be", ["utf_32be"]⟩
  | latin1 => ⟨"latin_1", ["8859", "cp819", "csisolatin1", "ibm819", "iso8859", "iso8859_1", "iso_8859_1",
    "iso_8859_1_1987", "iso_ir_100", "l1", "latin", "latin1"]⟩
  | latin9 => ⟨"iso8859_15", ["iso_8859_15", "l9", "latin9"]⟩
  | windows1252 => ⟨"cp1252", ["1252", "windows_1252"]⟩
  | ascii => ⟨"ascii", ["646", "ansi_x3.4_1968", "ansi_x3_4_1968", "ansi_x3.4_1986", "cp367", "csascii", "ibm367",
    "iso646_us", "iso_646.irv_1991", "iso_ir_6", "us", "us_ascii"]⟩

def all : List Encoding := [
  utf8, utf8Signed, utf16 none, utf16 (some .little), utf16 (some .big), utf32 none, utf32 (some .little),
  utf32 (some .big), latin1, latin9, windows1252, ascii]

/-- The encoding of a name, in any spelling of it; `locale` is the one that the system is set to, UTF-8. -/
def named? (name : String) : Option Encoding :=
  if name = "locale" then some utf8 else all.find? (·.codecName.answersTo (CodecName.normalise name))

/-! ### Decoding -/

def byteOrderMark : List UInt8 := [0xEF, 0xBB, 0xBF]

/-- Decodes units of two or four bytes.  If the order of bytes is not given, there must be a byte-order mark; bytes
that are not text with the low byte first are reported before its absence. -/
def decodeWide (width : Nat) (format : String) (order : Option Wide.ByteOrder) (bytes : List UInt8) :
    Except DecodingFault (List Char) :=
  match order, Wide.markedOrder? width bytes with
  | some order, _ => (Wide.decodeFrom width order 0 bytes).mapError .badBytes
  | none, some order => (Wide.decodeFrom width order width (bytes.drop width)).mapError .badBytes
  | none, none =>
    match Wide.decodeFrom width .little 0 bytes with
    | .error bad => .error (.badBytes bad)
    | .ok text => if text.isEmpty then .ok [] else .error (.unmarked format)

/-- The decoder of an encoding.  In signed UTF-8 a byte-order mark is dropped, also when the data are no more than the
beginning of one, and positions are counted after it. -/
def decode (encoding : Encoding) : Decoder := fun bytes =>
  match encoding with
  | utf8 => (Utf8.decode bytes).mapError .badBytes
  | utf8Signed =>
    if bytes.length < 3 && bytes.isPrefixOf byteOrderMark then .ok []
    else
      let content := if byteOrderMark.isPrefixOf bytes then bytes.drop 3 else bytes
      (Utf8.decode content).mapError .badBytes
  | utf16 order => decodeWide 2 "UTF-16" order bytes
  | utf32 order => decodeWide 4 "UTF-32" order bytes
  | latin1 => (CodePage.latin1.decode bytes).mapError .badBytes
  | latin9 => (CodePage.latin9.decode bytes).mapError .badBytes
  | windows1252 => (CodePage.windows1252.decode bytes).mapError .badBytes
  | ascii =>
    match bytes.findIdx? fun b => 0x80 ≤ b with
    | some position =>
      .error (.badBytes ⟨"ascii", position, 1, bytes.getD position 0, "ordinal not in range(128)"⟩)
    | none => .ok (bytes.map fun b => Char.ofNat b.toNat)

/-- The decoder of a name, among the encodings given here. -/
def decoder (name : String) : Except LookupFault Decoder :=
  match named? name with
  | some encoding => .ok encoding.decode
  | none =>
    if CodecName.notForText.any (·.answersTo (CodecName.normalise name)) then .error (.notText name)
    else .error (.unknown name)

end Encoding

end SceneDescription
