import ErDiagram.Text.CodePoint
import ErDiagram.Text.Utf8

/-!
# Encodings of a document

A document that begins with an ASCII character, as JSON does, need not say how its characters are written
as bytes: the zeros among its first bytes tell. `Encoding.ofFront` looks at them, and `Encoding.decode?`
reads the code points. UTF-16 writes the characters beyond 0xFFFF as pairs of units.
-/

namespace ErDiagram.Text

/-- Which byte of a number comes first: the one of the highest weight, or the one of the lowest. -/
inductive ByteOrder where
  | highFirst
  | lowFirst
  deriving DecidableEq, Repr

inductive Encoding where
  | utf8
  /-- UTF-8 with a mark in front that is no part of the text. -/
  | markedUtf8
  | utf16 (order : ByteOrder)
  | utf32 (order : ByteOrder)
  deriving DecidableEq, Repr

namespace ByteOrder

def number : ByteOrder → List Nat → Nat
  | highFirst, bytes => bytes.foldl (fun n b => n * 256 + b) 0
  | lowFirst, bytes => bytes.foldr (fun b n => n * 256 + b) 0

/-- The numbers of two bytes each; none when a byte is left over. -/
def pairs? (order : ByteOrder) : List Nat → Option (List Nat)
  | [] => some []
  | a :: b :: rest => (order.pairs? rest).map (order.number [a, b] :: ·)
  | _ => none

/-- The numbers of four bytes each; none when bytes are left over. -/
def quads? (order : ByteOrder) : List Nat → Option (List Nat)
  | [] => some []
  | a :: b :: c :: d :: rest => (order.quads? rest).map (order.number [a, b, c, d] :: ·)
  | _ => none

end ByteOrder

namespace Encoding

/-- The encoding of a document, as its first bytes show it. -/
def ofFront : List Nat → Encoding
  | 0xEF :: 0xBB :: 0xBF :: _ => markedUtf8
  | a :: b :: c :: d :: _ =>
    if a = 0 then (if b = 0 then utf32 .highFirst else utf16 .highFirst)
    else if b = 0 then (if c = 0 ∧ d = 0 then utf32 .lowFirst else utf16 .lowFirst)
    else utf8
  | [a, b] => if a = 0 then utf16 .highFirst else if b = 0 then utf16 .lowFirst else utf8
  | _ => utf8

/-- The code points of bytes, if they are text in the encoding. Halves of pairs that stand alone are let
through where the encoding can write them. -/
def decode? : Encoding → List Nat → Option (List Nat)
  | utf8, bytes => (utf8Strict? bytes).map (·.map Char.toNat)
  | markedUtf8, bytes => (utf8Strict? (bytes.drop 3)).map (·.map Char.toNat)
  | utf16 order, bytes => (order.pairs? bytes).map joinPairs
  | utf32 order, bytes => (order.quads? bytes).filter fun codes => codes.all (· ≤ lastCode)

end Encoding

/-- The code points of a document in bytes, if it is text. -/
def decodeDocument? (bytes : List Nat) : Option (List Nat) :=
  (Encoding.ofFront bytes).decode? bytes

example : decodeDocument? [0x5B, 0x5D] = some [0x5B, 0x5D] := by decide +kernel
example : decodeDocument? [0x5B, 0, 0x98, 0xD8] = some [0x5B, 0xD898] := by decide +kernel
example : decodeDocument? [0, 0, 0, 0x35] = some [0x35] := by decide +kernel

end ErDiagram.Text
