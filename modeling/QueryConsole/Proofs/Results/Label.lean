/-
# Labels word by word

The label of a key is made in one pass over its characters, which remembers whether a word may start.
It is what one gets by taking the key apart:

* into its longest runs of blank characters and of others, underscores read as spaces: the first
  character of every word is capitalised and all else stays (`labelFrom_flatten`);
* at any underscore or blank character: what stands before it and what stands behind it are labelled on
  their own (`labelFrom_append_cons`).  With the labels of single words this determines all of them
  (`eq_labelFrom_of_splits`).
-/

import Mathlib.Data.List.SplitBy
import QueryConsole.Results.Header

namespace QueryConsole
namespace Header

open Text (isBlank)

variable {c s : Char} {cs ds word : List Char} {b : Bool}

/-! ## Words and what separates them -/

/-- A space for an underscore. -/
def space (c : Char) : Char := if c = '_' then ' ' else c

/-- An underscore or a blank character. -/
def isSeparator (c : Char) : Bool := c = '_' || isBlank c

/-- Whether both characters are blank or neither is. -/
def sameKind (c d : Char) : Bool := isBlank c == isBlank d

/-- The longest runs of blank characters and of others. -/
def runs (cs : List Char) : List (List Char) := cs.splitBy sameKind

/-- A run with its first character in its capital form, if it is a word; a blank run as it is. -/
def capitalized : List Char → List Char
  | [] => []
  | c :: rest => (if isBlank c then [c] else Capital.ofChar c) ++ rest

/-- What separates words is blank in the label, and nothing else is. -/
theorem isBlank_space (c : Char) : isBlank (space c) = isSeparator c := by
  rw [space, isSeparator]
  split
  · rename_i hunderscore
    rw [decide_eq_true hunderscore, Bool.true_or]
    rfl
  · rename_i hother
    rw [decide_eq_false hother, Bool.false_or]

theorem space_of_not_isSeparator (h : isSeparator c = false) : space c = c := by
  obtain ⟨hother, -⟩ := Bool.or_eq_false_iff.mp h
  exact if_neg (of_decide_eq_false hother)

theorem space_space (c : Char) : space (space c) = space c := by
  rw [space, if_neg]
  rw [space]
  split
  · decide
  · assumption

/-! ## One pass -/

theorem labelFrom_cons (b : Bool) (c : Char) (cs : List Char) :
    labelFrom b (c :: cs) =
      (if b && !isBlank (space c) then Capital.ofChar (space c) else [space c]) ++
        labelFrom (isBlank (space c)) cs := rfl

/-- The label does not depend on whether a space is written as an underscore. -/
theorem labelFrom_map_space (b : Bool) (cs : List Char) :
    labelFrom b (cs.map space) = labelFrom b cs := by
  induction cs generalizing b with
  | nil => rfl
  | cons c cs ih => rw [List.map_cons, labelFrom_cons, labelFrom_cons, space_space, ih]

/-- **At a separator a key may be taken apart:** behind it a word starts, whatever stood before it. -/
theorem labelFrom_append_cons (hs : isSeparator s = true) (b : Bool) (cs ds : List Char) :
    labelFrom b (cs ++ s :: ds) = labelFrom b cs ++ space s :: labelFrom true ds := by
  induction cs generalizing b with
  | nil =>
    have hblank : isBlank (space s) = true := by rw [isBlank_space, hs]
    rw [List.nil_append, labelFrom_cons, hblank, Bool.not_true, Bool.and_false]
    rfl
  | cons c cs ih => rw [List.cons_append, labelFrom_cons, labelFrom_cons, ih, List.append_assoc]

/-- Inside a word nothing changes. -/
theorem labelFrom_false_append (hcs : ∀ c ∈ cs, isSeparator c = false) (ds : List Char) :
    labelFrom false (cs ++ ds) = cs ++ labelFrom false ds := by
  induction cs with
  | nil => rfl
  | cons c cs ih =>
    obtain ⟨hc, hcs⟩ := List.forall_mem_cons.mp hcs
    have hblank : isBlank (space c) = false := by rw [isBlank_space, hc]
    rw [List.cons_append, labelFrom_cons, hblank, space_of_not_isSeparator hc, ih hcs]
    rfl

/-- A word starts with the capital form of its first character. -/
theorem labelFrom_word_append (hword : ∀ c ∈ word, isSeparator c = false) (hne : word ≠ [])
    (ds : List Char) : labelFrom true (word ++ ds) = capitalized word ++ labelFrom false ds := by
  obtain ⟨c, rest, rfl⟩ := List.exists_cons_of_ne_nil hne
  obtain ⟨hc, hrest⟩ := List.forall_mem_cons.mp hword
  have hsame := space_of_not_isSeparator hc
  have hblank : isBlank c = false := by rw [← hsame, isBlank_space, hc]
  rw [List.cons_append, labelFrom_cons, hsame, hblank, labelFrom_false_append hrest, capitalized,
    if_neg (ne_true_of_eq_false hblank), List.append_assoc]
  rfl

/-- The label of a word that stands alone. -/
theorem labelFrom_word (hword : ∀ c ∈ word, isSeparator c = false) :
    labelFrom true word = capitalized word := by
  cases word with
  | nil => rfl
  | cons c rest =>
    have h := labelFrom_word_append hword (List.cons_ne_nil c rest) []
    rwa [List.append_nil, labelFrom, List.append_nil] at h

/-- Blank characters stay, and behind them a word may start. -/
theorem labelFrom_blank_append (hcs : ∀ c ∈ cs, isBlank c = true) (hne : cs ≠ []) (b : Bool)
    (ds : List Char) : labelFrom b (cs ++ ds) = cs ++ labelFrom true ds := by
  induction cs generalizing b with
  | nil => exact absurd rfl hne
  | cons c cs ih =>
    obtain ⟨hc, hcs⟩ := List.forall_mem_cons.mp hcs
    have hsame : space c = c := by
      rw [space, if_neg]
      rintro rfl
      cases hc
    rw [List.cons_append, labelFrom_cons, hsame, hc, Bool.not_true, Bool.and_false]
    by_cases hempty : cs = []
    · rw [hempty]
      rfl
    · rw [ih hcs hempty]
      rfl

/-! ## Runs -/

/-- All characters of a run are blank, or none is. -/
theorem isBlank_of_mem_run (h : (c :: cs).IsChain fun c d => sameKind c d = true) :
    ∀ d ∈ c :: cs, isBlank d = isBlank c := by
  induction cs generalizing c with
  | nil =>
    intro d hd
    rw [List.mem_singleton.mp hd]
  | cons e cs ih =>
    obtain ⟨hfirst, hrest⟩ := List.isChain_cons_cons.mp h
    have hkind : isBlank c = isBlank e := beq_iff_eq.mp hfirst
    intro d hd
    rcases List.mem_cons.mp hd with rfl | hd
    · rfl
    · rw [hkind]
      exact ih hrest d hd

/-- **The pass treats every run on its own**, if neighbouring runs are of different kinds and a word may
start where the first run is one. -/
theorem labelFrom_flatten {gs : List (List Char)} (hne : [] ∉ gs)
    (hunderscore : ∀ g ∈ gs, '_' ∉ g)
    (hrun : ∀ g ∈ gs, g.IsChain fun c d => sameKind c d = true)
    (hnext : gs.IsChain fun g g' => ∃ hg hg', sameKind (g.getLast hg) (g'.head hg') = false)
    (hstart : ∀ c ∈ gs.flatten.head?, isBlank c = false → b = true) :
    labelFrom b gs.flatten = gs.flatMap capitalized := by
  induction gs generalizing b with
  | nil => rfl
  | cons g gs ih =>
    obtain ⟨hg, hgs⟩ := not_or.mp (mt List.mem_cons.mpr hne)
    obtain ⟨c, rest, rfl⟩ := List.exists_cons_of_ne_nil (Ne.symm hg)
    obtain ⟨hfirst, hunderscore⟩ := List.forall_mem_cons.mp hunderscore
    obtain ⟨hchain, hrun⟩ := List.forall_mem_cons.mp hrun
    have hsame := isBlank_of_mem_run hchain
    -- the next run is of the other kind than this one
    have hother : ∀ d ∈ gs.flatten.head?, isBlank d = !isBlank c := by
      intro d hd
      cases gs with
      | nil => cases hd
      | cons g' gs =>
        obtain ⟨⟨hrest, hne', hkinds⟩, -⟩ := List.isChain_cons_cons.mp hnext
        obtain ⟨e, rest', rfl⟩ := List.exists_cons_of_ne_nil hne'
        obtain rfl : e = d := Option.some.inj hd
        have hlast := hsame _ (List.getLast_mem hrest)
        have hdiffer : isBlank c ≠ isBlank e := by
          rw [← hlast]
          exact beq_eq_false_iff_ne.mp hkinds
        exact Bool.eq_not.mpr hdiffer.symm
    have hrest := fun b hb => ih (b := b) hgs hunderscore hrun hnext.tail hb
    rw [List.flatten_cons, List.flatMap_cons]
    cases hc : isBlank c with
    | true =>
      rw [labelFrom_blank_append (fun d hd => (hsame d hd).trans hc) (List.cons_ne_nil _ _),
        hrest true fun _ _ _ => rfl, capitalized, hc]
      rfl
    | false =>
      have hword : ∀ d ∈ c :: rest, isSeparator d = false := by
        intro d hd
        have hnot : d ≠ '_' := by
          rintro rfl
          exact hfirst hd
        rw [isSeparator, decide_eq_false hnot, Bool.false_or, hsame d hd, hc]
      obtain rfl : b = true := hstart c rfl hc
      rw [labelFrom_word_append hword (List.cons_ne_nil _ _), hrest false]
      intro d hd hblank
      rw [hother d hd, hc] at hblank
      cases hblank

/-- The pass over a key capitalises its words. -/
theorem labelFrom_eq_flatMap (cs : List Char) :
    labelFrom true cs = (runs (cs.map space)).flatMap capitalized := by
  have hflatten : (runs (cs.map space)).flatten = cs.map space := List.flatten_splitBy _ _
  have hunderscore : ∀ g ∈ runs (cs.map space), '_' ∉ g := by
    intro g hg hmem
    have hspaced : '_' ∈ cs.map space := hflatten ▸ List.mem_flatten.mpr ⟨g, hg, hmem⟩
    obtain ⟨c, -, hc⟩ := List.mem_map.mp hspaced
    have hblank := space_space c
    rw [hc] at hblank
    cases hblank
  calc labelFrom true cs
    _ = labelFrom true (cs.map space) := (labelFrom_map_space true cs).symm
    _ = labelFrom true (runs (cs.map space)).flatten := by rw [hflatten]
    _ = (runs (cs.map space)).flatMap capitalized :=
      labelFrom_flatten (List.nil_notMem_splitBy _ _) hunderscore
        (fun _ => List.isChain_of_mem_splitBy) (List.isChain_getLast_head_splitBy _ _)
        fun _ _ _ => rfl

/-! ## Splitting at separators -/

/-- **Labels are determined by their splitting:** what capitalises single words and may be taken apart at
separators labels as the pass does. -/
theorem eq_labelFrom_of_splits {f : List Char → List Char}
    (hword : ∀ word, (∀ c ∈ word, isSeparator c = false) → f word = capitalized word)
    (hsplit : ∀ cs s ds, isSeparator s = true → f (cs ++ s :: ds) = f cs ++ space s :: f ds)
    (cs : List Char) : f cs = labelFrom true cs := by
  induction hlength : cs.length using Nat.strong_induction_on generalizing cs with
  | _ n ih =>
    by_cases hseparated : ∃ s ∈ cs, isSeparator s = true
    · obtain ⟨s, hmem, hs⟩ := hseparated
      obtain ⟨front, back, rfl⟩ := List.append_of_mem hmem
      rw [List.length_append, List.length_cons] at hlength
      rw [hsplit _ _ _ hs, labelFrom_append_cons hs, ih front.length (by omega) front rfl,
        ih back.length (by omega) back rfl]
    · have hnone : ∀ c ∈ cs, isSeparator c = false :=
        fun c hc => eq_false_of_ne_true fun h => hseparated ⟨c, hc, h⟩
      rw [hword cs hnone, labelFrom_word hnone]

/-- A way to label keys that capitalises single words, and that labels what stands before a separator
and what stands behind it on their own. -/
structure LabelsWords (f : String → String) : Prop where
  word : ∀ word : String, (∀ c ∈ word.toList, isSeparator c = false) →
    (f word).toList = capitalized word.toList
  split : ∀ a b s, isSeparator s = true →
    f (a ++ String.singleton s ++ b) = f a ++ String.singleton (space s) ++ f b

theorem toList_append_singleton (a b : String) (s : Char) :
    (a ++ String.singleton s ++ b).toList = a.toList ++ s :: b.toList := by
  simp

theorem labelsWords_label : LabelsWords label where
  word word hplain := by rw [label, String.toList_ofList, labelFrom_word hplain]
  split a b s hs := by
    rw [← String.toList_inj, toList_append_singleton, label, label, label, String.toList_ofList,
      String.toList_ofList, String.toList_ofList, toList_append_singleton, labelFrom_append_cons hs]

/-- There is one way to label keys word by word. -/
theorem LabelsWords.eq_label {f : String → String} (h : LabelsWords f) : f = label := by
  funext key
  have hf := eq_labelFrom_of_splits (f := fun cs => (f (String.ofList cs)).toList) ?_ ?_ key.toList
  · rw [← String.toList_inj, label, String.toList_ofList, ← hf, String.ofList_toList]
  · intro word hplain
    have hword := h.word (String.ofList word)
    rw [String.toList_ofList] at hword
    exact hword hplain
  · intro cs s ds hs
    have hcs : String.ofList (cs ++ s :: ds) =
        String.ofList cs ++ String.singleton s ++ String.ofList ds := by
      rw [← String.toList_inj, toList_append_singleton]
      simp
    rw [hcs, h.split _ _ _ hs, toList_append_singleton]

/-- **Labels capitalise exactly the words of a key.**  A label is its key with spaces for underscores, in
which the first character of every longest run of characters that are not blank is replaced by its
capital form, and nothing else.  At every underscore or blank character a key may be taken apart, and
this, with the labels of single words, says the same. -/
theorem label_capitalizes_words :
    (∀ key : String, (label key).toList = (runs (key.toList.map space)).flatMap capitalized) ∧
      (∀ a b s, isSeparator s = true →
        label (a ++ String.singleton s ++ b) = label a ++ String.singleton (space s) ++ label b) ∧
      ∀ f : String → String, LabelsWords f ↔ f = label := by
  refine ⟨?_, labelsWords_label.split, ?_⟩
  · intro key
    rw [label, String.toList_ofList, labelFrom_eq_flatMap]
  · intro f
    constructor
    · exact LabelsWords.eq_label
    · rintro rfl
      exact labelsWords_label

/-- A key with separators at its ends and side by side, and a letter whose capital form is two. -/
theorem label_of_mixed_key :
    label "_ßa__bc\tǆd e_" = " SSa  Bc\tǄd E " ∧ isSeparator '\t' = true ∧
      label ("_ßa__bc" ++ String.singleton '\t' ++ "ǆd e_") =
        label "_ßa__bc" ++ String.singleton (space '\t') ++ label "ǆd e_" := by
  obtain ⟨hruns, hsplit, -⟩ := label_capitalizes_words
  have hseparator : isSeparator '\t' = true := by decide
  refine ⟨?_, hseparator, hsplit _ _ _ hseparator⟩
  rw [← String.toList_inj, hruns]
  decide +kernel

end Header
end QueryConsole
