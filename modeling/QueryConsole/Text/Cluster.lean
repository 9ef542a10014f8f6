/-
# Grapheme clusters

What a reader takes for one character may be several code points: a letter and its accents, a
pictograph with modifiers and joiners, a Hangul syllable, a flag.  `clusters` cuts a text into
extended grapheme clusters; the clusters concatenate to the text.
-/

import QueryConsole.Text.Cluster.Table

namespace QueryConsole
namespace Cluster

/-- The part that a character takes in a cluster. -/
inductive Role where
  | carriageReturn
  | lineFeed
  | control
  | extend
  | joiner
  | regional
  | prepend
  | spacingMark
  | leading
  | vowel
  | trailing
  | openSyllable
  | closedSyllable
  | pictograph
  | other
  deriving DecidableEq

/-- A code point between two others. -/
def within (low n high : Nat) : Bool := low ≤ n && n ≤ high

/-- The part of a character in clusters. -/
def roleOf (c : Char) : Role :=
  let n := c.toNat
  if c = '\r' then .carriageReturn
  else if c = '\n' then .lineFeed
  else if n = 0x200D then .joiner
  else if within 0x20 n 0x7E then .other
  else if control.contains c then .control
  else if extend.contains c then .extend
  else if within 0x1F1E6 n 0x1F1FF then .regional
  else if prepend.contains c then .prepend
  else if spacingMark.contains c then .spacingMark
  else if within 0x1100 n 0x115F || within 0xA960 n 0xA97C then .leading
  else if within 0x1160 n 0x11A7 || within 0xD7B0 n 0xD7C6 || n = 0x16D63 ||
      within 0x16D67 n 0x16D6A then .vowel
  else if within 0x11A8 n 0x11FF || within 0xD7CB n 0xD7FB then .trailing
  else if within 0xAC00 n 0xD7A3 then
    if (n - 0xAC00) % 28 = 0 then .openSyllable else .closedSyllable
  else if pictograph.contains c then .pictograph
  else .other

/-- How far a chain of Indic consonants has come: no consonant, a consonant, or a consonant and a
virama. -/
inductive Chain where
  | none
  | consonant
  | linked
  deriving DecidableEq

/-- What a cluster shows at its end: the part of its last character, whether a pictograph and its
extensions end it, whether that pictograph is followed by a joiner, whether an odd number of
regional indicators ends it, and the chain of Indic consonants. -/
structure End where
  last : Role
  pictograph : Bool
  pictographJoined : Bool
  oddRegional : Bool
  chain : Chain

/-- The chain after one more character. -/
def Chain.after (chain : Chain) (c : Char) : Chain :=
  if conjunctConsonant.contains c then .consonant
  else match chain with
    | .none => .none
    | chain =>
      if conjunctLinker.contains c then .linked
      else if conjunctExtend.contains c then chain
      else .none

/-- The end of a cluster of one character. -/
def End.start (c : Char) : End :=
  let role := roleOf c
  ⟨role, role = .pictograph, false, role = .regional, Chain.none.after c⟩

/-- The end of a cluster that one more character joins. -/
def End.after (e : End) (c : Char) : End :=
  let role := roleOf c
  { last := role
    pictograph := role = .pictograph || (role = .extend && e.pictograph)
    pictographJoined := role = .joiner && e.pictograph
    oddRegional := role = .regional && !e.oddRegional
    chain := e.chain.after c }

/-- Whether a character joins the cluster before it. -/
def End.takes (e : End) (c : Char) : Bool :=
  match e.last, roleOf c with
  | .carriageReturn, .lineFeed => true
  | .carriageReturn, _ | .lineFeed, _ | .control, _ => false
  | _, .carriageReturn | _, .lineFeed | _, .control => false
  | .leading, .leading | .leading, .vowel | .leading, .openSyllable | .leading, .closedSyllable
  | .openSyllable, .vowel | .vowel, .vowel | .openSyllable, .trailing | .vowel, .trailing
  | .closedSyllable, .trailing | .trailing, .trailing => true
  | _, .extend | _, .joiner | _, .spacingMark => true
  | .prepend, _ => true
  | _, role =>
    (e.chain = .linked && conjunctConsonant.contains c) ||
      (e.pictographJoined && role = .pictograph) || (e.oddRegional && role = .regional)

/-- The cluster that goes on from its end, and the clusters after it. -/
def split (e : End) : List Char → List Char × List (List Char)
  | [] => ([], [])
  | c :: rest =>
    if e.takes c then
      let (cluster, others) := split (e.after c) rest
      (c :: cluster, others)
    else
      let (cluster, others) := split (.start c) rest
      ([], (c :: cluster) :: others)

/-- The clusters of a text. -/
def clusters : List Char → List (List Char)
  | [] => []
  | c :: rest =>
    let (cluster, others) := split (.start c) rest
    (c :: cluster) :: others

theorem split_flatten (e : End) (cs : List Char) :
    (split e cs).1 ++ (split e cs).2.flatten = cs := by
  induction cs generalizing e with
  | nil => rfl
  | cons c rest ih =>
    unfold split
    split
    · simp [ih]
    · simp [ih]

/-- **Nothing is lost:** the clusters concatenate to the text. -/
theorem flatten_clusters (cs : List Char) : (clusters cs).flatten = cs := by
  cases cs with
  | nil => rfl
  | cons c rest => simp [clusters, split_flatten]

end Cluster
end QueryConsole
