import RevisionScript.Text.Basic

namespace RevisionScript

inductive DecodeReason
  | invalidStart
  | invalidContinuation
  | endOfData
  | notAscii
  | unmapped
  | truncated
  | illegalSurrogate
  | illegalEncoding
  deriving DecidableEq, Repr

def DecodeReason.text : DecodeReason → String
  | invalidStart => "invalid start byte"
  | invalidContinuation => "invalid continuation byte"
  | endOfData => "unexpected end of data"
  | notAscii => "ordinal not in range(128)"
  | unmapped => "character maps to <undefined>"
  | truncated => "truncated data"
  | illegalSurrogate => "illegal UTF-16 surrogate"
  | illegalEncoding => "illegal encoding"

structure Undecodable where
  codec : String
  position : Nat
  bytes : List UInt8
  reason : DecodeReason
  deriving DecidableEq, Repr

def hexByte (b : UInt8) : String :=
  String.ofList (hexDigits 2 b.toNat)

def Undecodable.message (u : Undecodable) : String :=
  let range := match u.bytes with
    | [b] => s!"byte 0x{hexByte b} in position {u.position}"
    | bs => s!"bytes in position {u.position}-{u.position + bs.length - 1}"
  s!"'{u.codec}' codec can't decode {range}: {u.reason.text}"

namespace SingleByte

def decodeFrom (char? : UInt8 → Option Char) (codec : String) (reason : DecodeReason)
    (position : Nat) : List UInt8 → Except Undecodable (List Char)
  | [] => .ok []
  | b :: bs => match char? b with
    | some c => (c :: ·) <$> decodeFrom char? codec reason (position + 1) bs
    | none => .error ⟨codec, position, [b], reason⟩

def asciiChar? (b : UInt8) : Option Char :=
  if b.toNat < 0x80 then some (Char.ofNat b.toNat) else none

def latin1Char? (b : UInt8) : Option Char := some (Char.ofNat b.toNat)

/-- Windows code page 1252 from 0x80 to 0x9f; zero where it has no character. -/
def windows1252Block : List Nat :=
  [0x20ac, 0, 0x201a, 0x192, 0x201e, 0x2026, 0x2020, 0x2021, 0x2c6, 0x2030, 0x160, 0x2039, 0x152, 0,
    0x17d, 0, 0, 0x2018, 0x2019, 0x201c, 0x201d, 0x2022, 0x2013, 0x2014, 0x2dc, 0x2122, 0x161,
    0x203a, 0x153, 0, 0x17e, 0x178]

def windows1252Char? (b : UInt8) : Option Char :=
  if b.toNat < 0x80 ∨ 0xa0 ≤ b.toNat then some (Char.ofNat b.toNat)
  else match windows1252Block[b.toNat - 0x80]? with
    | none | some 0 => none
    | some n => some (Char.ofNat n)

end SingleByte

namespace Utf8

/-- A sequence of which some bytes have been read. The next byte must lie between `low` and `high`,
and `later` more continuation bytes follow it. -/
structure Pending where
  taken : List UInt8
  value : Nat
  low : Nat
  high : Nat
  later : Nat

inductive Lead
  | single (c : Char)
  | opens (p : Pending)
  | invalid

/-- The second byte is restricted where an overlong form, a surrogate or a number past U+10FFFF
could begin. -/
def lead (b : UInt8) : Lead :=
  let n := b.toNat
  if n < 0x80 then .single (Char.ofNat n)
  else if n < 0xc2 then .invalid
  else if n < 0xe0 then .opens ⟨[b], n - 0xc0, 0x80, 0xbf, 0⟩
  else if n = 0xe0 then .opens ⟨[b], n - 0xe0, 0xa0, 0xbf, 1⟩
  else if n = 0xed then .opens ⟨[b], n - 0xe0, 0x80, 0x9f, 1⟩
  else if n < 0xf0 then .opens ⟨[b], n - 0xe0, 0x80, 0xbf, 1⟩
  else if n = 0xf0 then .opens ⟨[b], n - 0xf0, 0x90, 0xbf, 2⟩
  else if n < 0xf4 then .opens ⟨[b], n - 0xf0, 0x80, 0xbf, 2⟩
  else if n = 0xf4 then .opens ⟨[b], n - 0xf0, 0x80, 0x8f, 2⟩
  else .invalid

def fault (position : Nat) (bytes : List UInt8) (reason : DecodeReason) : Undecodable :=
  ⟨"utf-8", position, bytes, reason⟩

/-- `position` is where the sequence being read starts. -/
def decodeFrom (position : Nat) : Option Pending → List UInt8 → Except Undecodable (List Char)
  | none, [] => .ok []
  | some p, [] => .error (fault position p.taken .endOfData)
  | none, b :: bs =>
    match lead b with
    | .single c => (c :: ·) <$> decodeFrom (position + 1) none bs
    | .opens p => decodeFrom position (some p) bs
    | .invalid => .error (fault position [b] .invalidStart)
  | some p, b :: bs =>
    if p.low ≤ b.toNat ∧ b.toNat ≤ p.high then
      let value := 64 * p.value + (b.toNat - 0x80)
      match p.later with
      | 0 => (Char.ofNat value :: ·) <$> decodeFrom (position + p.taken.length + 1) none bs
      | later + 1 => decodeFrom position (some ⟨p.taken ++ [b], value, 0x80, 0xbf, later⟩) bs
    else .error (fault position p.taken .invalidContinuation)

def decode (bytes : List UInt8) : Except Undecodable (List Char) := decodeFrom 0 none bytes

/-- A signature at the start is dropped, even an unfinished one that is the whole file. -/
def decodeSigned : List UInt8 → Except Undecodable (List Char)
  | 0xef :: 0xbb :: 0xbf :: bytes => decode bytes
  | [0xef, 0xbb] => .ok []
  | [0xef] => .ok []
  | bytes => decode bytes

end Utf8

namespace Utf16

inductive ByteOrder
  | little
  | big
  deriving DecidableEq, Repr

namespace ByteOrder

def codec : ByteOrder → String
  | little => "utf-16-le"
  | big => "utf-16-be"

def unit : ByteOrder → UInt8 → UInt8 → Nat
  | little, a, b => b.toNat * 256 + a.toNat
  | big, a, b => a.toNat * 256 + b.toNat

end ByteOrder

def isHigh (unit : Nat) : Bool := 0xd800 ≤ unit && unit < 0xdc00

def isLow (unit : Nat) : Bool := 0xdc00 ≤ unit && unit < 0xe000

def pairValue (high low : Nat) : Nat := 0x10000 + (high - 0xd800) * 1024 + (low - 0xdc00)

def fault (order : ByteOrder) (position : Nat) (bytes : List UInt8) (reason : DecodeReason) :
    Undecodable :=
  ⟨order.codec, position, bytes, reason⟩

def decodeFrom (order : ByteOrder) (position : Nat) :
    List UInt8 → Except Undecodable (List Char)
  | [] => .ok []
  | [b] => .error (fault order position [b] .truncated)
  | a :: b :: rest =>
    let n := order.unit a b
    if isHigh n then
      match rest with
      | c :: d :: rest =>
        if isLow (order.unit c d) then
          (Char.ofNat (pairValue n (order.unit c d)) :: ·) <$> decodeFrom order (position + 4) rest
        else .error (fault order position [a, b] .illegalSurrogate)
      | rest => .error (fault order position (a :: b :: rest) .endOfData)
    else if isLow n then .error (fault order position [a, b] .illegalEncoding)
    else (Char.ofNat n :: ·) <$> decodeFrom order (position + 2) rest

def decode (order : ByteOrder) (bytes : List UInt8) : Except Undecodable (List Char) :=
  decodeFrom order 0 bytes

end Utf16

inductive Encoding
  | utf8
  | utf8Signed
  | utf16
  | utf16Little
  | utf16Big
  | ascii
  | latin1
  | windows1252
  deriving DecidableEq, Repr

inductive DecodeError
  | undecodable (u : Undecodable)
  | noByteOrderMark
  deriving DecidableEq, Repr

namespace Encoding

/-- UTF-16 by its byte order mark, whose two bytes count in the positions of what follows. Bytes
without a mark are read before the missing mark is noticed. -/
def decodeMarked : List UInt8 → Except DecodeError (List Char)
  | 0xff :: 0xfe :: bytes => (Utf16.decodeFrom .little 2 bytes).mapError .undecodable
  | 0xfe :: 0xff :: bytes => (Utf16.decodeFrom .big 2 bytes).mapError .undecodable
  | bytes => match Utf16.decode .little bytes with
    | .error u => .error (.undecodable u)
    | .ok [] => .ok []
    | .ok _ => .error .noByteOrderMark

def decode (e : Encoding) (bytes : List UInt8) : Except DecodeError (List Char) :=
  match e with
  | utf8 => (Utf8.decode bytes).mapError .undecodable
  | utf8Signed => (Utf8.decodeSigned bytes).mapError .undecodable
  | utf16 => decodeMarked bytes
  | utf16Little => (Utf16.decode .little bytes).mapError .undecodable
  | utf16Big => (Utf16.decode .big bytes).mapError .undecodable
  | ascii =>
    (SingleByte.decodeFrom SingleByte.asciiChar? "ascii" .notAscii 0 bytes).mapError .undecodable
  | latin1 =>
    (SingleByte.decodeFrom SingleByte.latin1Char? "latin-1" .unmapped 0 bytes).mapError
      .undecodable
  | windows1252 =>
    (SingleByte.decodeFrom SingleByte.windows1252Char? "charmap" .unmapped 0 bytes).mapError
      .undecodable

end Encoding

end RevisionScript
