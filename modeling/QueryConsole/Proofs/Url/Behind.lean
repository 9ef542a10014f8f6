/-
# A path behind an address

The URL of a call is read from one text: the address of the server with the path of the call behind it.
What becomes of the path depends on the part of the URL that the address ends in:

| the address has | the path ends up in | |
| --- | --- | --- |
| a fragment | the fragment | `parse?_append_of_fragment` |
| a query and no fragment | the query | `parse?_append_of_query` |
| neither | the path, in the directory that the address names | `parse?_append_of_path` |

Everything else stays as it is in the URL of the address: scheme, user, host and port are the same.

Control characters and spaces at the end of the address are not read where the address stands alone, but
are where the path follows, but for tabs and line ends (`exists_clean_append`).  In a path they are part of
its last name; at the end of a host or port there is no URL then.
-/

import QueryConsole.Proofs.Url.Parts
import QueryConsole.Proofs.Url.Path

namespace QueryConsole
namespace Url

variable {text path cs front : List Char} {names : List (List Char)} {scheme : List Char}
  {query fragment : Option (List Char)} {base : Url}

/-! ## The end of a text -/

/-- A control character or a space, which is taken away at the ends of a text. -/
def isEdge (c : Char) : Bool := c.toNat ≤ 0x20

/-- A character that is kept inside a text: no tab and no line end. -/
def isKept (c : Char) : Bool := c ≠ '\t' ∧ c ≠ '\n' ∧ c ≠ '\r'

/-- The character that a text ends in where something stands behind it. -/
def lastKept (text : List Char) : Option Char := (text.filter isKept).getLast?

theorem clean_eq (text : List Char) :
    clean text = (Text.dropEndWhile isEdge (text.dropWhile isEdge)).filter isKept := rfl

theorem isKept_of_not_isEdge {c : Char} (h : isEdge c = false) : isKept c = true := by
  have hlt : ¬c.toNat ≤ 0x20 := of_decide_eq_false h
  refine decide_eq_true ⟨?_, ?_, ?_⟩ <;>
  · rintro rfl
    exact hlt (by decide)

/-- **What stands at the end of a text is kept in front of a path:** the text is read with it, without the
tabs and line ends in it.  It is nothing exactly if the last character that is kept is neither a control
character nor a space. -/
theorem exists_clean_append (hclean : clean text ≠ []) (hne : path ≠ [])
    (hpath : ∀ c ∈ path, isEdge c = false) :
    ∃ trail, clean (text ++ path) = clean text ++ (trail ++ path) ∧
      (∀ c ∈ trail, c.toNat ≤ 0x20) ∧
      (clean text ++ trail).getLast? = lastKept text ∧
      (trail = [] ↔ ∀ c ∈ lastKept text, 0x20 < c.toNat) := by
  obtain ⟨back, hback, hedge⟩ := Text.exists_dropEndWhile_append isEdge (text.dropWhile isEdge)
  have hstart : text.dropWhile isEdge ≠ [] := by
    intro hempty
    rw [clean_eq, hempty] at hclean
    exact hclean rfl
  have hwhole : Text.dropEndWhile isEdge (text.dropWhile isEdge ++ path) =
      text.dropWhile isEdge ++ path := by
    rw [Text.dropEndWhile_eq_self_iff, ← Text.getLast?_of_isSuffix (List.suffix_append _ path) hne]
    exact fun c hc => hpath c (List.mem_of_getLast? hc)
  have hkept : path.filter isKept = path :=
    List.filter_eq_self.mpr fun c hc => isKept_of_not_isEdge (hpath c hc)
  have hlast : (clean text ++ back.filter isKept).getLast? = lastKept text := by
    have hsuffix : clean text ++ back.filter isKept <:+ text.filter isKept := by
      rw [clean_eq, ← List.filter_append, ← hback]
      exact (List.dropWhile_suffix isEdge).filter isKept
    exact Text.getLast?_of_isSuffix hsuffix (List.append_ne_nil_of_left_ne_nil hclean _)
  have hle : ∀ c ∈ back.filter isKept, c.toNat ≤ 0x20 :=
    fun c hc => of_decide_eq_true (hedge c (List.mem_filter.mp hc).1)
  refine ⟨back.filter isKept, ?_, hle, hlast, ?_, ?_⟩
  · rw [clean_eq, Text.dropWhile_append_of_ne_nil hstart, hwhole, List.filter_append, hkept]
    nth_rewrite 1 [hback]
    rw [List.filter_append, List.append_assoc, clean_eq]
  · -- Without such an end the text ends as it does when it is read alone.
    intro hempty c hc
    have hprinted := Text.getLast?_dropEndWhile isEdge (text.dropWhile isEdge)
    have hend := Text.getLast?_filter fun c hc => isKept_of_not_isEdge (hprinted c hc)
    rw [← hlast, hempty, List.append_nil, clean_eq, hend] at hc
    exact Nat.not_le.mp (of_decide_eq_false (hprinted c hc))
  · intro hprinted
    by_contra htrail
    obtain ⟨c, hc⟩ := Option.ne_none_iff_exists'.mp (mt List.getLast?_eq_none_iff.mp htrail)
    rw [← Text.getLast?_of_isSuffix (List.suffix_append _ _) htrail, hc] at hlast
    have hlt := hprinted c hlast.symm
    have hcle := hle c (List.mem_of_getLast? hc)
    omega

/-! ## The scheme -/

/-- The scheme of a text is the same with anything behind the text. -/
theorem splitScheme?_append {rest : List Char} (h : splitScheme? cs = some (scheme, rest))
    (tail : List Char) : splitScheme? (cs ++ tail) = some (scheme, rest ++ tail) := by
  unfold splitScheme? at h
  split at h
  · rename_i c behind
    split at h
    · rename_i halpha
      split at h
      · rename_i rest' hrest
        obtain ⟨rfl, rfl⟩ := Prod.mk.inj (Option.some.inj h)
        have hne : (c :: behind).dropWhile isSchemeChar ≠ [] := by
          rw [hrest]
          exact List.cons_ne_nil _ _
        rw [List.cons_append, splitScheme?, if_pos halpha, ← List.cons_append,
          Text.dropWhile_append_of_ne_nil hne, hrest, List.cons_append,
          Text.takeWhile_append_of_ne_nil hne]
        rfl
      · cases h
    · cases h
  · cases h

theorem isSuffix_of_splitScheme? {rest : List Char} (h : splitScheme? cs = some (scheme, rest)) :
    rest <:+ cs := by
  unfold splitScheme? at h
  split at h
  · rename_i c tail
    split at h
    · split at h
      · rename_i rest' hrest
        obtain ⟨-, rfl⟩ := Prod.mk.inj (Option.some.inj h)
        have hsuffix : ':' :: rest' <:+ c :: tail := hrest ▸ List.dropWhile_suffix _
        exact (List.suffix_cons _ _).trans hsuffix
      · cases h
    · cases h
  · cases h

/-! ## The whole text -/

/-- How a text is read under a special scheme that needs a host. -/
theorem parse?_of_special (hspecial : isSpecial scheme = true) (hfile : scheme ≠ "file".toList)
    {rest : List Char} (h : splitScheme? (clean text) = some (scheme, rest)) :
    parse? text =
      ofAuthority? scheme ((cut '?' (cut '#' rest).1).1.dropWhile (isSlash true))
        ((cut '?' (cut '#' rest).1).2.map (Percent.encode (Percent.inQuery true)))
        ((cut '#' rest).2.map (Percent.encode Percent.inFragment)) := by
  simp only [parse?, h, hspecial]
  refine if_pos ?_
  rw [Bool.true_and]
  exact decide_eq_true hfile

/-! ## The path of a call -/

namespace IsPath

theorem printed (h : IsPath path names) : ∀ c ∈ path, 0x20 < c.toNat := by
  intro c hc
  rw [h.eq_segmentsText, segmentsText, List.mem_flatMap] at hc
  obtain ⟨name, hname, hc⟩ := hc
  rcases List.mem_cons.mp hc with rfl | hc
  · decide
  · exact (h.plain name hname c hc).1

theorem not_mem (h : IsPath path names) {c : Char} (hc : Percent.inPath c = true) (hne : c ≠ '/') :
    c ∉ path := by
  intro hmem
  rw [h.eq_segmentsText, segmentsText, List.mem_flatMap] at hmem
  obtain ⟨name, hname, hmem⟩ := hmem
  rcases List.mem_cons.mp hmem with hslash | hmem
  · exact hne hslash
  · have hplain := (h.plain name hname c hmem).2.1
    rw [hc] at hplain
    cases hplain

theorem exists_eq_cons (h : IsPath path names) : ∃ tail, path = '/' :: tail := by
  obtain ⟨name, rest, rfl⟩ := List.exists_cons_of_ne_nil h.ne_nil
  exact ⟨name ++ segmentsText rest, h.eq_segmentsText⟩

end IsPath

/-- How a text is read with a path behind it: behind the scheme stands the rest of the text, then what is
read only because the path follows, and the path. -/
structure Followed (text path scheme rest trail : List Char) : Prop where
  alone : splitScheme? (clean text) = some (scheme, rest)
  followed : splitScheme? (clean (text ++ path)) = some (scheme, rest ++ (trail ++ path))
  le_space : ∀ c ∈ trail, c.toNat ≤ 0x20
  eq_nil_iff : trail = [] ↔ ∀ c ∈ lastKept text, 0x20 < c.toNat
  getLast?_eq : rest ≠ [] → trail = [] → rest.getLast? = lastKept text

theorem exists_followed (hbase : parse? text = some base) (hpath : IsPath path names) :
    ∃ rest trail, Followed text path base.scheme rest trail := by
  obtain ⟨rest, hrest, -⟩ := exists_parts hbase
  have hclean : clean text ≠ [] := by
    intro hempty
    rw [hempty] at hrest
    cases hrest
  obtain ⟨tail, htail⟩ := hpath.exists_eq_cons
  have hne : path ≠ [] := by
    rw [htail]
    exact List.cons_ne_nil _ _
  have hedge : ∀ c ∈ path, isEdge c = false :=
    fun c hc => decide_eq_false (Nat.not_le.mpr (hpath.printed c hc))
  obtain ⟨trail, hwhole, hle, hlast, hnil⟩ := exists_clean_append hclean hne hedge
  refine ⟨rest, trail, hrest, ?_, hle, hnil, ?_⟩
  · rw [hwhole]
    exact splitScheme?_append hrest _
  · rintro hrestNe rfl
    rw [Text.getLast?_of_isSuffix (isSuffix_of_splitScheme? hrest) hrestNe, ← hlast, List.append_nil]

/-- The front of a text is split off at the same place in front of more, unless it is the whole text and
more of it follows. -/
theorem split_append {p : Char → Bool} {trail tail : List Char} {c : Char} (hc : p c = false)
    (hpath : path = c :: tail) (h : ¬(trail ≠ [] ∧ cs.dropWhile p = [])) :
    (cs ++ (trail ++ path)).takeWhile p = cs.takeWhile p ∧
      (cs ++ (trail ++ path)).dropWhile p = cs.dropWhile p ++ (trail ++ path) := by
  by_cases htrail : trail = []
  · rw [htrail, List.nil_append, hpath]
    exact ⟨Text.takeWhile_append_cons hc _ _, Text.dropWhile_append_cons hc _ _⟩
  · have hne : cs.dropWhile p ≠ [] := fun hempty => h ⟨htrail, hempty⟩
    exact ⟨Text.takeWhile_append_of_ne_nil hne _, Text.dropWhile_append_of_ne_nil hne _⟩

section

variable {rest trail : List Char} (hspecial : isSpecial base.scheme = true)
  (hfile : base.scheme ≠ "file".toList) (hbase : parse? text = some base)
  (hpath : IsPath path names) (h : Followed text path base.scheme rest trail)

include hpath h in
/-- What follows the rest of the text has no separator of its own. -/
theorem Followed.not_mem {c : Char} (hencoded : Percent.inPath c = true) (hc : 0x20 < c.toNat)
    (hne : c ≠ '/') : c ∉ trail ++ path := by
  intro hmem
  rcases List.mem_append.mp hmem with hmem | hmem
  · exact Nat.not_le.mpr hc (h.le_space c hmem)
  · exact hpath.not_mem hencoded hne hmem

include hspecial hfile hbase hpath h

/-- **Behind a fragment**, a path belongs to the fragment. -/
theorem parse?_append_of_fragment {part : List Char} (hfragment : base.fragment = some part) :
    ∃ longer, parse? (text ++ path) = some { base with fragment := some longer } := by
  rw [parse?_of_special hspecial hfile h.alone] at hbase
  obtain ⟨hsegments, hquery, hpart⟩ := ofAuthority?_fields hspecial hbase
  rw [hfragment, eq_comm, Option.map_eq_some_iff] at hpart
  obtain ⟨behind, hbehind, -⟩ := hpart
  have hcut : cut '#' (rest ++ (trail ++ path)) =
      ((cut '#' rest).1, some (behind ++ (trail ++ path))) := by
    rw [cut_append (h.not_mem hpath (by decide) (by decide) (by decide)), hbehind]
  refine ⟨Percent.encode Percent.inFragment (behind ++ (trail ++ path)), ?_⟩
  rw [parse?_of_special hspecial hfile h.followed, hcut, ofAuthority?_append hspecial hbase rfl,
    ← hsegments, ← hquery]
  rfl

/-- **Behind a query**, a path belongs to the query. -/
theorem parse?_append_of_query {part : List Char} (hfragment : base.fragment = none)
    (hquery : base.query = some part) :
    ∃ longer, parse? (text ++ path) = some { base with query := some longer } := by
  rw [parse?_of_special hspecial hfile h.alone] at hbase
  obtain ⟨hsegments, hpart, hnone⟩ := ofAuthority?_fields hspecial hbase
  rw [hfragment, eq_comm, Option.map_eq_none_iff] at hnone
  rw [hquery, eq_comm, Option.map_eq_some_iff] at hpart
  obtain ⟨behind, hbehind, -⟩ := hpart
  have hwhole : cut '#' (rest ++ (trail ++ path)) = (rest ++ (trail ++ path), none) := by
    rw [cut_append (h.not_mem hpath (by decide) (by decide) (by decide)), hnone]
  rw [fst_cut_of_none hnone] at hbase hsegments hbehind
  have hcut : cut '?' (rest ++ (trail ++ path)) =
      ((cut '?' rest).1, some (behind ++ (trail ++ path))) := by
    rw [cut_append (h.not_mem hpath (by decide) (by decide) (by decide)), hbehind]
  refine ⟨Percent.encode (Percent.inQuery true) (behind ++ (trail ++ path)), ?_⟩
  rw [parse?_of_special hspecial hfile h.followed, hwhole, hcut,
    ofAuthority?_append hspecial hbase rfl, ← hsegments, Option.map_none, ← hfragment]
  rfl

/-- **Behind a path**, the names of another path are put into the directory that it names, with what is
read only because they follow.  There is no URL if that belongs to the host. -/
theorem parse?_append_of_path (hfragment : base.fragment = none) (hquery : base.query = none) :
    ∃ front, (∀ c ∈ front.head?, isSlash true c = true) ∧
      (trail = [] → ((∀ c ∈ front.getLast?, isSlash true c = false) ↔
        ∀ c ∈ lastKept text, isSlash true c = false)) ∧
      base.path = .segments (pathSegments true front) ∧
      parse? (text ++ path) =
        if trail ≠ [] ∧ front = [] then none
        else some { base with path := .segments (directory (front ++ trail) ++ names) } := by
  rw [parse?_of_special hspecial hfile h.alone] at hbase
  obtain ⟨hsegments, hnoQuery, hnoFragment⟩ := ofAuthority?_fields hspecial hbase
  rw [hfragment, eq_comm, Option.map_eq_none_iff] at hnoFragment
  rw [hquery, eq_comm, Option.map_eq_none_iff] at hnoQuery
  rw [fst_cut_of_none hnoFragment] at hbase hsegments hnoQuery
  rw [fst_cut_of_none hnoQuery] at hbase hsegments
  have hfragmentCut : cut '#' (rest ++ (trail ++ path)) = (rest ++ (trail ++ path), none) := by
    rw [cut_append (h.not_mem hpath (by decide) (by decide) (by decide)), hnoFragment]
  have hqueryCut : cut '?' (rest ++ (trail ++ path)) = (rest ++ (trail ++ path), none) := by
    rw [cut_append (h.not_mem hpath (by decide) (by decide) (by decide)), hnoQuery]
  have hauthority : rest.dropWhile (isSlash true) ≠ [] := by
    intro hempty
    rw [hempty, ofAuthority?_nil hspecial hfile] at hbase
    cases hbase
  have hlonger : parse? (text ++ path) =
      ofAuthority? base.scheme (rest.dropWhile (isSlash true) ++ (trail ++ path)) none none := by
    rw [parse?_of_special hspecial hfile h.followed, hfragmentCut, hqueryCut,
      Text.dropWhile_append_of_ne_nil hauthority]
    rfl
  obtain ⟨tail, htail⟩ := hpath.exists_eq_cons
  refine ⟨(rest.dropWhile (isSlash true)).dropWhile fun c => !isSlash true c, ?_, ?_, hsegments, ?_⟩
  · intro c hc
    have hstop := Text.head?_dropWhile _ _ c hc
    simpa using hstop
  · intro htrail
    have hrest : rest ≠ [] := by
      rintro rfl
      exact hauthority rfl
    rw [Text.getLast?_dropWhile_not_iff,
      Text.getLast?_of_isSuffix (List.dropWhile_suffix _) hauthority, h.getLast?_eq hrest htrail]
  · rw [hlonger]
    split
    · rename_i hhost
      obtain ⟨htrail, hempty⟩ := hhost
      have hall : ∀ c ∈ rest.dropWhile (isSlash true) ++ trail, (!isSlash true c) = true := by
        intro c hc
        rcases List.mem_append.mp hc with hc | hc
        · exact List.dropWhile_eq_nil_iff.mp hempty c hc
        · exact Text.forall_le_space (p := fun c => (!isSlash true c) = true) (by decide)
            (h.le_space c hc)
      obtain ⟨c, hc⟩ := Option.ne_none_iff_exists'.mp (mt List.getLast?_eq_none_iff.mp htrail)
      refine ofAuthority?_eq_none hspecial ?_ (h.le_space c (List.mem_of_getLast? hc))
      rw [htail, ← List.append_assoc, Text.takeWhile_append_cons (by rfl),
        List.takeWhile_eq_self_iff.mpr hall,
        ← Text.getLast?_of_isSuffix (List.suffix_append _ _) htrail, hc]
    · rename_i hhost
      obtain ⟨htake, hdrop⟩ := split_append (p := fun c => !isSlash true c) (by rfl) htail hhost
      rw [ofAuthority?_append hspecial hbase htake, hdrop, ← List.append_assoc,
        pathSegments_append hpath, hfragment, hquery]

end

end Url
end QueryConsole
