import RevisionScript.Encoding.Name
import RevisionScript.Proofs.Encoding.SingleByte
import RevisionScript.Proofs.Encoding.Utf16

namespace RevisionScript

def Utf8.signature : List UInt8 := [0xef, 0xbb, 0xbf]

namespace Encoding

def label : Encoding → String
  | utf8 => "utf-8"
  | utf8Signed => "utf-8-sig"
  | utf16 => "utf-16"
  | utf16Little => "utf-16-le"
  | utf16Big => "utf-16-be"
  | ascii => "ascii"
  | latin1 => "latin-1"
  | windows1252 => "cp1252"

theorem ofName_label (e : Encoding) : ofName e.label = .ok e := by
  cases e <;> decide +kernel

/-- The bytes in which an encoding may hold a text. A signature and a byte order mark stand before
the text and are not of it. An encoding by single bytes holds only texts of the characters that it
has. -/
inductive Holds (text : String) : Encoding → List UInt8 → Prop
  | utf8 : Holds text .utf8 text.toUTF8.data.toList
  | utf8Signed : Holds text .utf8Signed (Utf8.signature ++ text.toUTF8.data.toList)
  | utf16 (order : Utf16.ByteOrder) :
      Holds text .utf16 (order.mark ++ Utf16.encode order text.toList)
  | utf16Little : Holds text .utf16Little (Utf16.encode .little text.toList)
  | utf16Big : Holds text .utf16Big (Utf16.encode .big text.toList)
  | ascii {bytes : List UInt8} (h : text.toList.mapM (SingleByte.codeByte? 0x80) = some bytes) :
      Holds text .ascii bytes
  | latin1 {bytes : List UInt8} (h : text.toList.mapM (SingleByte.codeByte? 0x100) = some bytes) :
      Holds text .latin1 bytes
  | windows1252 {bytes : List UInt8}
      (h : text.toList.mapM SingleByte.windows1252Byte? = some bytes) :
      Holds text .windows1252 bytes

theorem decodeMarked_mark (order : Utf16.ByteOrder) (bytes : List UInt8) :
    decodeMarked (order.mark ++ bytes) =
      (Utf16.decodeFrom order 2 bytes).mapError .undecodable := by
  cases order <;> rfl

theorem decodeSigned_signature (bytes : List UInt8) :
    Utf8.decodeSigned (Utf8.signature ++ bytes) = Utf8.decode bytes := rfl

/-- A text is read from the bytes that hold it. -/
theorem Holds.decode {text : String} {e : Encoding} {bytes : List UInt8} (h : Holds text e bytes) :
    e.decode bytes = .ok text.toList := by
  cases h with
  | utf8 =>
    rw [Encoding.decode, Utf8.toList_toUTF8, Utf8.decode_encode]
    rfl
  | utf8Signed =>
    rw [Encoding.decode, decodeSigned_signature, Utf8.toList_toUTF8, Utf8.decode_encode]
    rfl
  | utf16 order =>
    rw [Encoding.decode, decodeMarked_mark, Utf16.decodeFrom_encode]
    rfl
  | utf16Little =>
    rw [Encoding.decode, Utf16.decode, Utf16.decodeFrom_encode]
    rfl
  | utf16Big =>
    rw [Encoding.decode, Utf16.decode, Utf16.decodeFrom_encode]
    rfl
  | ascii hbytes =>
    rw [Encoding.decode, SingleByte.decodeFrom_of_mapM SingleByte.asciiChar?_eq_some_iff hbytes]
    rfl
  | latin1 hbytes =>
    rw [Encoding.decode, SingleByte.decodeFrom_of_mapM SingleByte.latin1Char?_eq_some_iff hbytes]
    rfl
  | windows1252 hbytes =>
    rw [Encoding.decode, SingleByte.decodeFrom_of_mapM
      SingleByte.windows1252Char?_eq_some_iff hbytes]
    rfl

end Encoding

end RevisionScript
