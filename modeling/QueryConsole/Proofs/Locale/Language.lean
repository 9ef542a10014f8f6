/-
# Locales are chosen by language

A requested locale is compared in steps: its separators are made dashes, its encoding is cut off, two
names stand for no locale at all, then the whole name is compared and after it the first part.  All of
this comes down to one question (`resolve_eq`): what stands before the first underscore, dash or dot, in
letters of either case?

| the requested locale begins with | answer |
| --- | --- |
| `pt`, then a separator or the end | Brazilian Portuguese |
| anything else | English |

So nothing behind the first separator counts, nor which separator it is, nor the case of any letter
(`resolve_by_language`).
-/

import Mathlib.Data.List.Forall2
import QueryConsole.Locale

namespace QueryConsole
namespace Locale

variable {c d : Char} {cs ds : List Char}

/-! ## Names in parts -/

/-- A character that ends a part of a name: an underscore, a dash or a dot. -/
def isSeparator (c : Char) : Bool := c = '_' || c = '-' || c = '.'

/-- The language of a requested locale: what stands before the first separator. -/
def language (cs : List Char) : List Char := cs.takeWhile fun c => !isSeparator c

/-- The same letter, in either case of ASCII, or the same character of another kind. -/
def SameLetter (c d : Char) : Prop := c.toLower = d.toLower

/-- The same text but for the case of its ASCII letters. -/
def SameText (cs ds : List Char) : Prop := List.Forall₂ SameLetter cs ds

/-- Characters that no locale tells apart: the same letter, or an underscore and a dash. -/
def Alike (c d : Char) : Prop := SameLetter c d ∨ c ∈ ['_', '-'] ∧ d ∈ ['_', '-']

/-- A dash for an underscore, and an underscore for a dash. -/
def exchange (c : Char) : Char := if c = '_' then '-' else if c = '-' then '_' else c

/-! ## Letters in lower case -/

/-- Characters outside ASCII have one case. -/
theorem toLower_of_le (h : 0x80 ≤ c.toNat) : c.toLower = c := by
  refine dif_neg ?_
  rintro ⟨-, hle⟩
  have hz : c.toNat ≤ 'Z'.toNat := hle
  have hvalue : 'Z'.toNat = 0x5A := rfl
  omega

/-- A separator is no letter, so none comes or goes with the case. -/
theorem isSeparator_toLower (c : Char) : isSeparator c.toLower = isSeparator c := by
  by_cases hc : c.toNat < 0x80
  · have hall : ∀ n < 0x80, isSeparator (Char.ofNat n).toLower = isSeparator (Char.ofNat n) := by
      decide
    have h := hall c.toNat hc
    rwa [Char.ofNat_toNat] at h
  · rw [toLower_of_le (Nat.le_of_not_lt hc)]

theorem toLower_eq_dash_iff : c.toLower = '-' ↔ c = '-' := by
  by_cases hc : c.toNat < 0x80
  · have hall : ∀ n < 0x80, (Char.ofNat n).toLower = '-' ↔ Char.ofNat n = '-' := by decide
    have h := hall c.toNat hc
    rwa [Char.ofNat_toNat] at h
  · rw [toLower_of_le (Nat.le_of_not_lt hc)]

/-- Texts are the same but for the case exactly if they are equal in lower case. -/
theorem sameText_iff : SameText cs ds ↔ lower cs = lower ds :=
  calc SameText cs ds
    _ ↔ List.Forall₂ Eq (lower cs) (lower ds) := by
      rw [lower, lower, List.forall₂_map_left_iff, List.forall₂_map_right_iff]
      rfl
    _ ↔ lower cs = lower ds := by rw [List.forall₂_eq_eq_eq]

theorem lower_before (cs : List Char) : lower (before '-' cs) = before '-' (lower cs) := by
  have hdash : ((fun c => decide (c ≠ '-')) ∘ Char.toLower) = fun c => decide (c ≠ '-') := by
    funext c
    exact decide_eq_decide.mpr (not_congr toLower_eq_dash_iff)
  rw [before, before, lower, lower, List.takeWhile_map, hdash]

/-! ## The language decides -/

/-- The first part of a name is the language that was requested. -/
theorem before_normalize (cs : List Char) : before '-' (normalize cs) = language cs := by
  have hstep (c : Char) (cs : List Char) : normalize (c :: cs) =
      if (if c = '_' then '-' else c) = '.' then []
      else (if c = '_' then '-' else c) :: normalize cs := by
    simp [normalize, before, List.takeWhile_cons]
  induction cs with
  | nil => rfl
  | cons c cs ih =>
    rw [hstep, language, List.takeWhile_cons]
    by_cases hunderscore : c = '_'
    · subst hunderscore
      rfl
    by_cases hdot : c = '.'
    · subst hdot
      rfl
    rw [if_neg hunderscore, if_neg hdot]
    by_cases hdash : c = '-'
    · subst hdash
      rfl
    have hkept : isSeparator c = false := by
      simp [isSeparator, hunderscore, hdash, hdot]
    rw [before, List.takeWhile_cons, if_pos (decide_eq_true hdash), hkept]
    exact congrArg (c :: ·) ih

theorem find?_available (p : Locale → Bool) :
    available.find? p =
      if p english then some english else if p portuguese then some portuguese else none := by
  rw [available, List.find?_cons, List.find?_cons, List.find?_nil]
  cases p english <;> cases p portuguese <;> rfl

/-- **The language alone decides** which locale is chosen. -/
theorem resolve_eq (requested : String) :
    resolve requested =
      if lower (language requested.toList) = "pt".toList then portuguese else english := by
  have hlanguage := before_normalize requested.toList
  have hlower := lower_before (normalize requested.toList)
  rw [hlanguage] at hlower
  rw [resolve]
  dsimp only
  split
  · -- Neither name for no locale at all begins with the language.
    rename_i hnone
    have hother : lower (language requested.toList) ∈ [['c'], "posix".toList] := by
      rcases hnone with hnone | hnone <;> rw [hlower, hnone] <;> decide
    refine (if_neg ?_).symm
    intro hpt
    rw [hpt] at hother
    revert hother
    decide
  · rw [find?_available, find?_available, hlanguage]
    by_cases henglish : lower english.tag.toList = lower (normalize requested.toList)
    · rw [if_pos (decide_eq_true henglish), hlower, ← henglish]
      rfl
    rw [if_neg (by simpa using henglish)]
    by_cases hportuguese : lower portuguese.tag.toList = lower (normalize requested.toList)
    · rw [if_pos (decide_eq_true hportuguese), hlower, ← hportuguese]
      rfl
    rw [if_neg (by simpa using hportuguese)]
    dsimp only
    generalize lower (language requested.toList) = name
    have hen : lower (before '-' english.tag.toList) = "en".toList := by decide
    have hpt : lower (before '-' portuguese.tag.toList) = "pt".toList := by decide
    rw [hen, hpt]
    by_cases hname : name = "pt".toList
    · rw [hname]
      rfl
    · rw [if_neg hname, if_neg (c := decide ("pt".toList = name) = true)]
      · split <;> rfl
      · simpa using fun h => hname h.symm

theorem resolve_eq_portuguese_iff (requested : String) :
    resolve requested = portuguese ↔ SameText (language requested.toList) "pt".toList := by
  have hlower : lower "pt".toList = "pt".toList := by decide
  rw [sameText_iff, hlower, resolve_eq]
  split
  · rename_i hpt
    exact iff_of_true rfl hpt
  · rename_i hother
    exact iff_of_false (by decide) hother

/-! ## What does not count -/

theorem isSeparator_of_mem (h : c ∈ ['_', '-']) : isSeparator c = true := by
  rcases List.mem_cons.mp h with rfl | h
  · rfl
  · obtain rfl := List.mem_singleton.mp h
    rfl

/-- Of characters that are alike, both separate or neither does. -/
theorem Alike.isSeparator_eq (h : Alike c d) : isSeparator c = isSeparator d := by
  rcases h with hletter | ⟨hc, hd⟩
  · have hlower : c.toLower = d.toLower := hletter
    rw [← isSeparator_toLower c, hlower, isSeparator_toLower]
  · rw [isSeparator_of_mem hc, isSeparator_of_mem hd]

/-- Alike names have the same language. -/
theorem sameText_language (h : List.Forall₂ Alike cs ds) :
    SameText (language cs) (language ds) := by
  induction h with
  | nil => exact .nil
  | @cons c d cs ds hcd _ ih =>
    rw [language, language, List.takeWhile_cons, List.takeWhile_cons, hcd.isSeparator_eq]
    cases hd : isSeparator d with
    | true => exact .nil
    | false =>
      refine .cons ?_ ih
      rcases hcd with hletter | ⟨-, hmem⟩
      · exact hletter
      · rw [isSeparator_of_mem hmem] at hd
        cases hd

theorem resolve_of_alike {requested other : String}
    (h : List.Forall₂ Alike other.toList requested.toList) : resolve other = resolve requested := by
  rw [resolve_eq, resolve_eq, sameText_iff.mp (sameText_language h)]

theorem alike_exchange (c : Char) : Alike (exchange c) c := by
  rw [exchange]
  split
  · rename_i hunderscore
    subst hunderscore
    exact .inr (by decide)
  · split
    · rename_i hdash
      subst hdash
      exact .inr (by decide)
    · exact .inl rfl

/-- An encoding behind a dot is no part of the language. -/
theorem language_append_dot (cs encoding : List Char) :
    language (cs ++ '.' :: encoding) = language cs := by
  induction cs with
  | nil => rfl
  | cons c cs ih =>
    rw [List.cons_append, language, language, List.takeWhile_cons, List.takeWhile_cons]
    split
    · exact congrArg (c :: ·) ih
    · rfl

/-- **The language subtag alone counts.**  Brazilian Portuguese is chosen exactly if what stands before
the first underscore, dash or dot is `pt` in letters of either case, and English everywhere else.  So
the choice is the same for every other spelling with letters of another case and with dashes for some
of the underscores or underscores for some of the dashes, such as that with all of them exchanged, and
with any encoding behind a dot. -/
theorem resolve_by_language (requested : String) :
    ((resolve requested).tag = "pt-BR" ↔ SameText (language requested.toList) "pt".toList) ∧
      ((resolve requested).tag = "en" ↔ ¬SameText (language requested.toList) "pt".toList) ∧
      (∀ other : String, List.Forall₂ Alike other.toList requested.toList →
        resolve other = resolve requested) ∧
      resolve (String.ofList (requested.toList.map exchange)) = resolve requested ∧
      ∀ encoding : String, resolve (requested ++ "." ++ encoding) = resolve requested := by
  have htag : ∀ l : Locale, (l.tag = "pt-BR" ↔ l = portuguese) ∧ (l.tag = "en" ↔ l ≠ portuguese) := by
    intro l
    cases l <;> decide
  refine ⟨?_, ?_, fun other => resolve_of_alike, ?_, ?_⟩
  · rw [(htag _).1, resolve_eq_portuguese_iff]
  · rw [(htag _).2, Ne, resolve_eq_portuguese_iff]
  · refine resolve_of_alike ?_
    rw [String.toList_ofList, List.forall₂_map_left_iff, List.forall₂_same]
    exact fun c _ => alike_exchange c
  · intro encoding
    have htext : (requested ++ "." ++ encoding).toList = requested.toList ++ '.' :: encoding.toList := by
      rw [String.toList_append, String.toList_append, List.append_assoc]
      rfl
    rw [resolve_eq, resolve_eq, htext, language_append_dot]

/-- Letters of other cases, a dash for an underscore, and an encoding behind the second dot. -/
theorem other_spelling_of_portuguese :
    List.Forall₂ Alike "Pt-bR.utf_8".toList "pT_br.UTF-8".toList ∧
      resolve "Pt-bR.utf_8" = resolve "pT_br.UTF-8" ∧
      resolve ("pT_br.UTF-8" ++ "." ++ "en") = resolve "pT_br.UTF-8" ∧
      (resolve "pT_br.UTF-8").tag = "pt-BR" := by
  obtain ⟨hportuguese, -, halike, -, hencoding⟩ := resolve_by_language "pT_br.UTF-8"
  have hspelling : List.Forall₂ Alike "Pt-bR.utf_8".toList "pT_br.UTF-8".toList := by
    simp [Alike, SameLetter]
  have hlanguage : SameText (language "pT_br.UTF-8".toList) "pt".toList := by
    simp [SameText, SameLetter, language, isSeparator]
  exact ⟨hspelling, halike _ hspelling, hencoding "en", hportuguese.mpr hlanguage⟩

end Locale
end QueryConsole
