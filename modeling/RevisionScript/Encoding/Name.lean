import RevisionScript.Encoding.Decode

namespace RevisionScript

inductive EncodingNameError
  | unknown (name : String)
  | notText (name : String)
  | nullInName
  deriving DecidableEq, Repr

def EncodingNameError.message : EncodingNameError → String
  | unknown name => s!"unknown encoding: {name}"
  | notText name =>
    s!"'{name}' is not a text encoding; use codecs.open() to handle arbitrary codecs"
  | nullInName => "embedded null character"

namespace Encoding

/-- Lower-case letters and digits; each run of other characters between them is one underscore,
except that a point is kept. -/
def plainName (name : List Char) : List Char :=
  go false [] name
where
  go (gap : Bool) (taken : List Char) : List Char → List Char
    | [] => taken.reverse
    | c :: cs =>
      if c.isAlphanum ∨ c = '.' then
        go false (c.toLower :: (if gap ∧ taken ≠ [] then '_' :: taken else taken)) cs
      else go true taken cs

structure Naming where
  own : String
  aliases : List String := []
  deriving DecidableEq, Repr

def naming : Encoding → Naming
  | utf8 => ⟨"utf_8", ["u8", "utf", "utf8", "utf8_ucs2", "utf8_ucs4", "cp65001"]⟩
  | utf8Signed => ⟨"utf_8_sig", []⟩
  | utf16 => ⟨"utf_16", ["u16", "utf16"]⟩
  | utf16Little => ⟨"utf_16_le", ["unicodelittleunmarked", "utf_16le"]⟩
  | utf16Big => ⟨"utf_16_be", ["unicodebigunmarked", "utf_16be"]⟩
  | ascii => ⟨"ascii", ["646", "ansi_x3.4_1968", "ansi_x3_4_1968", "ansi_x3.4_1986", "cp367",
      "csascii", "ibm367", "iso646_us", "iso_646.irv_1991", "iso_ir_6", "us", "us_ascii"]⟩
  | latin1 => ⟨"latin_1", ["8859", "cp819", "csisolatin1", "ibm819", "iso8859", "iso8859_1",
      "iso_8859_1", "iso_8859_1_1987", "iso_ir_100", "l1", "latin", "latin1"]⟩
  | windows1252 => ⟨"cp1252", ["1252", "windows_1252"]⟩

def all : List Encoding :=
  [utf8, utf8Signed, utf16, utf16Little, utf16Big, ascii, latin1, windows1252]

/-- Codecs that turn bytes or text into something other than text. -/
def otherCodecs : List Naming :=
  [⟨"hex_codec", ["hex"]⟩, ⟨"base64_codec", ["base64", "base_64"]⟩, ⟨"bz2_codec", ["bz2"]⟩,
    ⟨"quopri_codec", ["quopri", "quoted_printable", "quotedprintable"]⟩, ⟨"rot_13", ["rot13"]⟩,
    ⟨"uu_codec", ["uu"]⟩, ⟨"zlib_codec", ["zip", "zlib"]⟩]

/-- In an alias, points may stand for underscores. -/
def Naming.answersTo (n : Naming) (plain : List Char) : Bool :=
  let joined := plain.map fun c ↦ if c = '.' then '_' else c
  n.own == String.ofList plain || n.aliases.contains (String.ofList plain) ||
    n.aliases.contains (String.ofList joined)

def ofName (name : String) : Except EncodingNameError Encoding :=
  let plain := plainName name.toList
  if name.toList.contains '\x00' then .error .nullInName
  else match all.find? (·.naming.answersTo plain) with
    | some e => .ok e
    | none => .error (if otherCodecs.any (·.answersTo plain) then .notText name else .unknown name)

end Encoding

end RevisionScript
