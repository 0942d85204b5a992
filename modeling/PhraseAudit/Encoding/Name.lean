import PhraseAudit.Encoding.Basic
import PhraseAudit.Text.Bytes

/-!
# Names of encodings

An encoding may be named in many ways. Only the ASCII letters, the digits and the dots of a name
count, without regard to case; whatever else stands between them separates the parts of the name.
One word is no such name and asks for the encoding of the system. A host may know further names.
-/

namespace PhraseAudit

/-- Why a name names no encoding. -/
inductive EncodingNameError where
  | nullCharacter
  | unknown (name : Text)
  | notText (name : Text)
deriving Repr, DecidableEq

/-- How much of a name is shown when it names something else than an encoding of text, in bytes. -/
def EncodingNameError.shownBytes : Nat :=
  400

/-- The wording of a name error. An unknown name is shown as it is, however long. -/
def EncodingNameError.message : EncodingNameError → String
  | .nullCharacter => "embedded null character"
  | .unknown name => s!"unknown encoding: {String.ofList name}"
  | .notText name =>
    let shown := String.ofList (name.cutToBytes shownBytes)
    s!"'{shown}' is not a text encoding; use codecs.open() to handle arbitrary codecs"

namespace EncodingName

/-- What a name can stand for: an encoding of text, or a transformation that yields no text. -/
inductive Meaning where
  | encoding (encoding : Encoding)
  | transformation
deriving Repr, DecidableEq

/-- A character that counts in a name. -/
def counts (c : Char) : Bool :=
  c.isAlphanum || c == '.'

/-- The parts of a name in small letters, joined by underscores. -/
def normalize (name : Text) : Text :=
  ['_'].intercalate (((name.splitOnP fun c => !counts c).filter (· != [])).map (·.map Char.toLower))

/-- The principal names. -/
def principal : List (String × Meaning) := [
  ("utf_8", .encoding .utf8),
  ("utf_8_sig", .encoding .utf8Signed),
  ("utf_16", .encoding (.utf16 none)),
  ("utf_16_le", .encoding (.utf16 (some .little))),
  ("utf_16_be", .encoding (.utf16 (some .big))),
  ("utf_32", .encoding (.utf32 none)),
  ("utf_32_le", .encoding (.utf32 (some .little))),
  ("utf_32_be", .encoding (.utf32 (some .big))),
  ("latin_1", .encoding .latin1),
  ("ascii", .encoding .ascii),
  ("cp1252", .encoding .windows1252),
  ("base64_codec", .transformation),
  ("bz2_codec", .transformation),
  ("hex_codec", .transformation),
  ("quopri_codec", .transformation),
  ("rot_13", .transformation),
  ("uu_codec", .transformation),
  ("zlib_codec", .transformation)]

/-- The other names, each with the principal name it stands for. -/
def aliases : List (String × String) := [
  ("u8", "utf_8"), ("utf", "utf_8"), ("utf8", "utf_8"), ("utf8_ucs2", "utf_8"),
  ("utf8_ucs4", "utf_8"), ("cp65001", "utf_8"),
  ("u16", "utf_16"), ("utf16", "utf_16"),
  ("unicodebigunmarked", "utf_16_be"), ("utf_16be", "utf_16_be"),
  ("unicodelittleunmarked", "utf_16_le"), ("utf_16le", "utf_16_le"),
  ("u32", "utf_32"), ("utf32", "utf_32"), ("utf_32be", "utf_32_be"), ("utf_32le", "utf_32_le"),
  ("8859", "latin_1"), ("cp819", "latin_1"), ("csisolatin1", "latin_1"), ("ibm819", "latin_1"),
  ("iso8859", "latin_1"), ("iso8859_1", "latin_1"), ("iso_8859_1", "latin_1"),
  ("iso_8859_1_1987", "latin_1"), ("iso_ir_100", "latin_1"), ("l1", "latin_1"),
  ("latin", "latin_1"), ("latin1", "latin_1"),
  ("646", "ascii"), ("ansi_x3.4_1968", "ascii"), ("ansi_x3_4_1968", "ascii"),
  ("ansi_x3.4_1986", "ascii"), ("cp367", "ascii"), ("csascii", "ascii"), ("ibm367", "ascii"),
  ("iso646_us", "ascii"), ("iso_646.irv_1991", "ascii"), ("iso_ir_6", "ascii"), ("us", "ascii"),
  ("us_ascii", "ascii"),
  ("1252", "cp1252"), ("windows_1252", "cp1252"),
  ("base64", "base64_codec"), ("base_64", "base64_codec"), ("bz2", "bz2_codec"),
  ("hex", "hex_codec"), ("quopri", "quopri_codec"), ("quoted_printable", "quopri_codec"),
  ("quotedprintable", "quopri_codec"), ("rot13", "rot_13"), ("uu", "uu_codec"),
  ("zip", "zlib_codec"), ("zlib", "zlib_codec")]

/-- What a normalized name stands for. If it is no other name as it is, it may be one with
underscores for its dots. -/
def lookup? (name : Text) : Option Meaning :=
  let underscored := name.map fun c => if c = '.' then '_' else c
  match aliases.lookup (String.ofList name) <|> aliases.lookup (String.ofList underscored) with
  | some target => principal.lookup target
  | none => principal.lookup (String.ofList name)

end EncodingName

/-- The word that asks for the encoding of the system. Unlike a name, it has to be written just so. -/
def EncodingName.systemWord : Text :=
  "locale".toList

/-- What a host offers for decoding besides the encodings of this library: the codec that its system
uses for text, and the codecs that it knows by further names. -/
structure Codecs where
  system : Codec
  others : Text → Option Codec

namespace Codecs

/-- The codecs of a host that uses UTF-8 and knows no further names. -/
def plain : Codecs :=
  ⟨Encoding.utf8.decode, fun _ => none⟩

/-- The codec with the given name. -/
def find (codecs : Codecs) (name : Text) : Except EncodingNameError Codec :=
  if '\x00' ∈ name then .error .nullCharacter
  else if name = EncodingName.systemWord then .ok codecs.system
  else match EncodingName.lookup? (EncodingName.normalize name) with
    | some (.encoding encoding) => .ok encoding.decode
    | some .transformation => .error (.notText name)
    | none =>
      match codecs.others name with
      | some codec => .ok codec
      | none => .error (.unknown name)

end Codecs

end PhraseAudit
