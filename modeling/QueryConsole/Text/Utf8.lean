/-
# UTF-8

A byte sequence is read as a list of pieces: characters, and stretches of bytes that are no
character.  Such a stretch is as long as it could still begin a character, and at least one byte:

| first byte | bytes that follow | range of the first of them |
| --- | ---: | --- |
| `00 … 7F` | 0 | |
| `C2 … DF` | 1 | `80 … BF` |
| `E0`, `E1 … EC`, `ED`, `EE … EF` | 2 | `A0 … BF`, `80 … BF`, `80 … 9F`, `80 … BF` |
| `F0`, `F1 … F3`, `F4` | 3 | `90 … BF`, `80 … BF`, `80 … 8F` |
-/

namespace QueryConsole
namespace Utf8

/-- A part of a byte sequence: a character, or `size` bytes that are none. -/
inductive Piece where
  | char (c : Char)
  | stray (size : Nat)
  deriving DecidableEq, Repr

namespace Piece

/-- The number of bytes of a piece. -/
def size : Piece → Nat
  | char c => c.utf8Size
  | stray n => n

/-- The piece as shown: a stray stretch becomes one replacement character. -/
def shown : Piece → Char
  | char c => c
  | stray _ => '\uFFFD'

/-- The character of a piece, if it is one. -/
def char? : Piece → Option Char
  | char c => some c
  | stray _ => none

end Piece

/-- The number of bytes of pieces. -/
def size : List Piece → Nat
  | [] => 0
  | p :: ps => p.size + size ps

/-- What a first byte announces: how many bytes follow, the range of the first of them, and the
bits of the code point that the first byte holds. -/
structure Lead where
  more : Nat
  low : UInt8
  high : UInt8
  bits : Nat

/-- What the byte announces as a first byte, if it can be one. -/
def lead? (b : UInt8) : Option Lead :=
  if b < 0x80 then some ⟨0, 0x80, 0xBF, b.toNat⟩
  else if b < 0xC2 then none
  else if b < 0xE0 then some ⟨1, 0x80, 0xBF, b.toNat - 0xC0⟩
  else if b < 0xF0 then
    some ⟨2, if b = 0xE0 then 0xA0 else 0x80, if b = 0xED then 0x9F else 0xBF, b.toNat - 0xE0⟩
  else if b < 0xF5 then
    some ⟨3, if b = 0xF0 then 0x90 else 0x80, if b = 0xF4 then 0x8F else 0xBF, b.toNat - 0xF0⟩
  else none

/-- The leading continuation bytes, at most the given number; the first is in the given range. -/
def continuation : Nat → UInt8 → UInt8 → List UInt8 → List UInt8
  | n + 1, low, high, b :: rest =>
    if low ≤ b ∧ b ≤ high then b :: continuation n 0x80 0xBF rest else []
  | _, _, _, _ => []

/-- The pieces of a byte sequence. -/
def pieces : List UInt8 → List Piece
  | [] => []
  | b :: rest =>
    match lead? b with
    | none => .stray 1 :: pieces rest
    | some lead =>
      let tail := continuation lead.more lead.low lead.high rest
      let piece :=
        if tail.length = lead.more then
          .char (Char.ofNat (tail.foldl (fun n b => n * 64 + (b.toNat - 0x80)) lead.bits))
        else .stray (1 + tail.length)
      piece :: pieces (rest.drop tail.length)
termination_by bytes => bytes.length
decreasing_by
  · simp
  · simp only [List.length_drop, List.length_cons]; omega

/-- The pieces of a text: its characters. -/
def ofChars (cs : List Char) : List Piece := cs.map .char

/-- The bytes as text, every stray stretch as one replacement character. -/
def lossy (bytes : List UInt8) : List Char :=
  (pieces bytes).map Piece.shown

/-- The text that bytes write, if every byte belongs to a character. -/
def text? (bytes : List UInt8) : Option (List Char) :=
  (pieces bytes).mapM Piece.char?

/-- The bytes of a text. -/
def encode (cs : List Char) : List UInt8 :=
  cs.flatMap String.utf8EncodeChar

end Utf8
end QueryConsole
