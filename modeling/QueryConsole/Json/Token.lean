/-
# Tokens of JSON text

Blank characters, words, strings and numbers at the start of a list of pieces.  Every reader here
returns what it read and the rest of the pieces, or the first problem.

A string may be read or skipped.  Skipping checks less: half of a surrogate pair and stray bytes
pass, and a number may be out of range; a number that ends too early is malformed when it is
skipped.
-/

import QueryConsole.Json.Problem
import QueryConsole.Text.Hexadecimal
import QueryConsole.Text.Utf8

namespace QueryConsole
namespace Json

open Utf8 (Piece)

/-- The result of reading: a value and the rest of the pieces, or the first problem. -/
abbrev Read (α : Type) := Except Problem (α × List Piece)

/-- JSON's blank characters. -/
def isBlankPiece : Piece → Bool
  | .char c => c = ' ' || c = '\n' || c = '\t' || c = '\r'
  | .stray _ => false

/-- The pieces after the blank ones. -/
def skipBlank (s : List Piece) : List Piece := s.dropWhile isBlankPiece

/-- The rest of the pieces after a word. -/
def word : List Char → List Piece → Except Problem (List Piece)
  | [], s => .ok s
  | _ :: _, [] => .error .ended
  | c :: cs, p :: s => if p = .char c then word cs s else .error .malformed

/-- The number that four hexadecimal digits write. -/
def hex4 : List Piece → Option Nat
  | [.char a, .char b, .char c, .char d] => do
    let a ← Text.hexDigit? a
    let b ← Text.hexDigit? b
    let c ← Text.hexDigit? c
    let d ← Text.hexDigit? d
    return ((a * 16 + b) * 16 + c) * 16 + d
  | _ => none

/-- Four hexadecimal digits after `\u`; the text ends too early where fewer than four bytes are
left. -/
def codeUnit (s : List Piece) : Read Nat :=
  match hex4 (s.take 4) with
  | some n => .ok (n, s.drop 4)
  | none => if Utf8.size s < 4 then .error .ended else .error .malformed

/-- The second half of a surrogate pair, written as a second escape. -/
def lowSurrogate : List Piece → Read Nat
  | [] => .error .ended
  | .char '\\' :: [] => .error .ended
  | .char '\\' :: .char 'u' :: s =>
    match codeUnit s with
    | .error problem => .error problem
    | .ok (low, rest) =>
      if 0xDC00 ≤ low ∧ low ≤ 0xDFFF then .ok (low, rest) else .error .malformed
  | _ => .error .malformed

/-- The character of an escape, after its `\u`. -/
def unicodeEscape (s : List Piece) : Read Char :=
  match codeUnit s with
  | .error problem => .error problem
  | .ok (high, rest) =>
    if 0xDC00 ≤ high ∧ high ≤ 0xDFFF then .error .malformed
    else if 0xD800 ≤ high ∧ high ≤ 0xDBFF then
      match lowSurrogate rest with
      | .error problem => .error problem
      | .ok (low, rest) =>
        .ok (Char.ofNat (0x10000 + (high - 0xD800) * 0x400 + (low - 0xDC00)), rest)
    else .ok (Char.ofNat high, rest)

/-- The characters of the one-letter escapes. -/
def simpleEscape? (c : Char) : Option Char :=
  if c = '"' ∨ c = '\\' ∨ c = '/' then some c
  else if c = 'b' then some '\x08'
  else if c = 'f' then some '\x0c'
  else if c = 'n' then some '\n'
  else if c = 'r' then some '\r'
  else if c = 't' then some '\t'
  else none

/-- The character of an escape, after its backslash. -/
def escapeSequence : List Piece → Read Char
  | [] => .error .ended
  | .stray _ :: _ => .error .malformed
  | .char c :: rest =>
    if c = 'u' then unicodeEscape rest
    else
      match simpleEscape? c with
      | some e => .ok (e, rest)
      | none => .error .malformed

theorem length_le_of_codeUnit {s rest : List Piece} {n : Nat} (h : codeUnit s = .ok (n, rest)) :
    rest.length ≤ s.length := by
  unfold codeUnit at h
  split at h
  · obtain ⟨-, rfl⟩ := Prod.mk.inj (Except.ok.inj h)
    simp
  · split at h <;> cases h

theorem length_le_of_lowSurrogate {s rest : List Piece} {n : Nat}
    (h : lowSurrogate s = .ok (n, rest)) : rest.length ≤ s.length := by
  unfold lowSurrogate at h
  split at h
  · cases h
  · cases h
  · split at h
    · cases h
    · next hu =>
      split at h
      · obtain ⟨-, rfl⟩ := Prod.mk.inj (Except.ok.inj h)
        have := length_le_of_codeUnit hu
        simp only [List.length_cons]
        omega
      · cases h
  · cases h

theorem length_le_of_unicodeEscape {s rest : List Piece} {c : Char}
    (h : unicodeEscape s = .ok (c, rest)) : rest.length ≤ s.length := by
  unfold unicodeEscape at h
  split at h
  · cases h
  · next hu =>
    have hu := length_le_of_codeUnit hu
    split at h
    · cases h
    · split at h
      · split at h
        · cases h
        · next hl =>
          obtain ⟨-, rfl⟩ := Prod.mk.inj (Except.ok.inj h)
          exact Nat.le_trans (length_le_of_lowSurrogate hl) hu
      · obtain ⟨-, rfl⟩ := Prod.mk.inj (Except.ok.inj h)
        exact hu

/-- **An escape does not grow:** what follows it is no longer than what it was read from. -/
theorem length_le_of_escapeSequence {s rest : List Piece} {c : Char}
    (h : escapeSequence s = .ok (c, rest)) : rest.length ≤ s.length := by
  unfold escapeSequence at h
  split at h
  · cases h
  · cases h
  · split at h
    · have := length_le_of_unicodeEscape h
      simp only [List.length_cons]
      omega
    · split at h
      · obtain ⟨-, rfl⟩ := Prod.mk.inj (Except.ok.inj h)
        simp
      · cases h

/-- The characters of a string up to its closing quote.  `clean` tells whether all bytes so far were
characters; stray bytes are a problem only once the string is closed. -/
def stringBody (clean : Bool) (s : List Piece) : Read (List Char) :=
  match s with
  | [] => .error .ended
  | .stray _ :: rest => stringBody false rest
  | .char c :: rest =>
    if c = '"' then if clean then .ok ([], rest) else .error .malformed
    else if c = '\\' then
      match h : escapeSequence rest with
      | .error problem => .error problem
      | .ok (e, after) =>
        have := length_le_of_escapeSequence h
        (stringBody clean after).map fun (cs, rest) => (e :: cs, rest)
    else if c.toNat < 0x20 then .error .malformed
    else (stringBody clean rest).map fun (cs, rest) => (c :: cs, rest)
termination_by s.length

/-- The string after its opening quote. -/
def string (s : List Piece) : Read String :=
  (stringBody true s).map fun (cs, rest) => (String.ofList cs, rest)

/-- The pieces after an escape that is skipped, from behind its backslash. -/
def skipEscape : List Piece → Except Problem (List Piece)
  | [] => .error .ended
  | .stray _ :: _ => .error .malformed
  | .char c :: rest =>
    if c = 'u' then (codeUnit rest).map (·.2)
    else if (simpleEscape? c).isSome then .ok rest
    else .error .malformed

theorem length_le_of_skipEscape {s rest : List Piece} (h : skipEscape s = .ok rest) :
    rest.length ≤ s.length := by
  unfold skipEscape at h
  split at h
  · cases h
  · cases h
  · next after =>
    split at h
    · cases hu : codeUnit after with
      | error problem => rw [hu] at h; cases h
      | ok r =>
        rw [hu] at h
        obtain rfl := Except.ok.inj h
        have := length_le_of_codeUnit hu
        simp only [List.length_cons]
        omega
    · split at h
      · obtain rfl := Except.ok.inj h
        simp
      · cases h

/-- The pieces after a string that is skipped, from behind its opening quote. -/
def skipString (s : List Piece) : Except Problem (List Piece) :=
  match s with
  | [] => .error .ended
  | .stray _ :: rest => skipString rest
  | .char c :: rest =>
    if c = '"' then .ok rest
    else if c = '\\' then
      match h : skipEscape rest with
      | .error problem => .error problem
      | .ok after =>
        have := length_le_of_skipEscape h
        skipString after
    else if c.toNat < 0x20 then .error .malformed
    else skipString rest
termination_by s.length

/-- A decimal digit. -/
def digit? : Piece → Option Nat
  | .char c => if '0' ≤ c ∧ c ≤ '9' then some (c.toNat - 0x30) else none
  | .stray _ => none

/-- The leading decimal digits and the rest of the pieces. -/
def digits : List Piece → List Nat × List Piece
  | [] => ([], [])
  | p :: rest =>
    match digit? p with
    | some d =>
      let (ds, rest) := digits rest
      (d :: ds, rest)
    | none => ([], p :: rest)

/-- The largest unsigned 64-bit number. -/
def maxUnsigned : Nat := Nat.pow 2 64 - 1

/-- The first number above the signed 64-bit ones. -/
def signedLimit : Nat := Nat.pow 2 63

/-- The significand that the leading digits make, continuing a given one, as far as it fits 64 bits,
and the number of digits left over. -/
def significand (start : Nat) : List Nat → Nat × Nat
  | [] => (start, 0)
  | d :: ds =>
    if start * 10 + d ≤ maxUnsigned then significand (start * 10 + d) ds
    else (start, ds.length + 1)

/-- The exponent of a number from behind its `e`: whether it is negative, and its digits.  A skipped
number reports a missing digit as malformed, also at the end of the text. -/
def exponentPart (atEnd : Problem) (s : List Piece) : Read (Bool × List Nat) :=
  let (negative, s) :=
    match s with
    | .char '+' :: rest => (false, rest)
    | .char '-' :: rest => (true, rest)
    | _ => (false, s)
  match digits s with
  | ([], []) => .error atEnd
  | ([], _) => .error .malformed
  | (ds, rest) => .ok ((negative, ds), rest)

/-- A number as it is written: the digits before and after the point, and the exponent. -/
structure Numeral where
  whole : List Nat
  fraction : Option (List Nat)
  exponent : Option (Bool × List Nat)

/-- The parts of a number from behind its sign.  The digit that is missing at the end of the text is
reported as `atEnd`. -/
def numeral (atEnd : Problem) (s : List Piece) : Read Numeral :=
  let (whole, s) := digits s
  match whole, s with
  | [], [] => .error atEnd
  | [], _ => .error .malformed
  | 0 :: _ :: _, _ => .error .malformed
  | whole, s =>
    let afterFraction (fraction : Option (List Nat)) (s : List Piece) : Read Numeral :=
      match s with
      | .char c :: rest =>
        if c = 'e' ∨ c = 'E' then
          (exponentPart atEnd rest).map fun (e, rest) => (⟨whole, fraction, some e⟩, rest)
        else .ok (⟨whole, fraction, none⟩, s)
      | _ => .ok (⟨whole, fraction, none⟩, s)
    match s with
    | .char '.' :: rest =>
      match digits rest with
      | ([], []) => .error atEnd
      | ([], _) => .error .malformed
      | (ds, rest) => afterFraction (some ds) rest
    | _ => afterFraction none s

/-- The value of a number: an integer where it is written as one and fits 64 bits, else a double;
none where it is too large for a double. -/
def Numeral.value? (negative : Bool) (n : Numeral) : Option Json :=
  let (whole, dropped) := significand 0 n.whole
  match n.fraction, n.exponent, dropped with
  | none, none, 0 =>
    if !negative then some (.int whole)
    else if 0 < whole ∧ whole ≤ signedLimit then some (.int (-(whole : Int)))
    else some (.double (Double.ofMagnitude true (Double.nearest whole 1)))
  | fraction, exponent, dropped =>
    let fraction := fraction.getD []
    let (sig, unread) := significand whole fraction
    let places : Int := dropped - ((fraction.length - unread : Nat) : Int)
    let shift : Int :=
      match exponent with
      | none => 0
      | some (true, ds) => -(ds.foldl (fun n d => n * 10 + d) 0 : Nat)
      | some (false, ds) => (ds.foldl (fun n d => n * 10 + d) 0 : Nat)
    (Double.scaleDecimal? sig (places + shift)).map fun m => .double (Double.ofMagnitude negative m)

/-- The number from behind its sign. -/
def number (negative : Bool) (s : List Piece) : Read Json :=
  match numeral .ended s with
  | .error problem => .error problem
  | .ok (n, rest) =>
    match n.value? negative with
    | some v => .ok (v, rest)
    | none => .error .malformed

/-- The pieces after a number that is skipped, from behind its sign. -/
def skipNumber (s : List Piece) : Except Problem (List Piece) :=
  (numeral .malformed s).map (·.2)

end Json
end QueryConsole
