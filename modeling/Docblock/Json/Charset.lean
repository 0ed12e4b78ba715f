import Docblock.Json.Reader

/-! Bytes that hold JSON. Their encoding is told by a byte order mark or else by the zeros among the
first four bytes, since JSON starts with ASCII characters. -/

set_option autoImplicit false

namespace Docblock.Json

inductive Charset where
  | utf8
  | utf16 (bigEndian : Bool)
  | utf32 (bigEndian : Bool)
  deriving DecidableEq, Repr

namespace Charset

def ofZeros : List UInt8 → Charset
  | 0 :: 0 :: _ :: _ :: _ => utf32 true
  | 0 :: _ :: _ :: _ :: _ => utf16 true
  | _ :: 0 :: 0 :: 0 :: _ => utf32 false
  | _ :: 0 :: _ :: _ :: _ => utf16 false
  | [0, _] => utf16 true
  | [_, 0] => utf16 false
  | _ => utf8

/-- The encoding of bytes, and the bytes without the mark that told it. -/
def detect : List UInt8 → Charset × List UInt8
  | 0 :: 0 :: 0xFE :: 0xFF :: rest => (utf32 true, rest)
  | 0xFF :: 0xFE :: 0 :: 0 :: rest => (utf32 false, rest)
  | 0xFE :: 0xFF :: rest => (utf16 true, rest)
  | 0xFF :: 0xFE :: rest => (utf16 false, rest)
  | 0xEF :: 0xBB :: 0xBF :: rest => (utf8, rest)
  | bytes => (ofZeros bytes, bytes)

def spell (bytes : List UInt8) : Nat := bytes.foldl (fun number byte => 256 * number + byte.toNat) 0

def units16 (bigEndian : Bool) : List UInt8 → Option (List Nat)
  | [] => some []
  | a :: b :: rest =>
    (units16 bigEndian rest).map (spell (if bigEndian then [a, b] else [b, a]) :: ·)
  | _ => none

def units32 (bigEndian : Bool) : List UInt8 → Option (List Nat)
  | [] => some []
  | a :: b :: c :: d :: rest =>
    let code := spell (if bigEndian then [a, b, c, d] else [d, c, b, a])
    if code < 0x110000 then (units32 bigEndian rest).map (code :: ·) else none
  | _ => none

def decode : Charset → List UInt8 → Option Text
  | utf8, bytes => (String.fromUTF8? ⟨bytes.toArray⟩).map String.toList
  | utf16 bigEndian, bytes => (units16 bigEndian bytes).map fun units => (joinSurrogates units).toText
  | utf32 bigEndian, bytes =>
    (units32 bigEndian bytes).map fun codes => Points.toText (codes.map Point.ofCode)

end Charset

/-- The text that bytes hold; none if they do not fit their encoding. -/
def decodeBytes (bytes : ByteArray) : Option Text :=
  let (charset, rest) := Charset.detect bytes.toList
  charset.decode rest

end Docblock.Json
