/-
# Scheme, path, query and fragment

The text of a URL is cut into its parts before any of them is read (`exists_parts`): the scheme up to the
first colon, the fragment from the first `#` on, the query from the first `?` on.  Whatever is encoded in a
path, it has no question mark (`question_not_mem_pathText`), so that what a request names for the URL is
cut at its first question mark into the path and the query (`cut_target`).
-/

import QueryConsole.Proofs.Url.Authority
import QueryConsole.Proofs.Url.Percent

namespace QueryConsole
namespace Url

variable {text cs : List Char} {base : Url}

/-! ## Question marks -/

/-- A resolved segment is one that was there, or a segment that is encoded, or it is empty. -/
theorem mem_resolve {name : List Char} {done segments : List (List Char)}
    (h : name ∈ resolve done segments) :
    name ∈ done ∨ name = [] ∨ ∃ segment ∈ segments, name = Percent.encode Percent.inPath segment := by
  fun_induction resolve done segments with
  | case1 done => exact .inl h
  | case2 done last hdouble =>
    rcases List.mem_append.mp h with h | h
    · exact .inl (List.dropLast_subset _ h)
    · exact .inr (.inl (List.mem_singleton.mp h))
  | case3 done last hdouble hsingle =>
    rcases List.mem_append.mp h with h | h
    · exact .inl h
    · exact .inr (.inl (List.mem_singleton.mp h))
  | case4 done last hdouble hsingle =>
    rcases List.mem_append.mp h with h | h
    · exact .inl h
    · exact .inr (.inr ⟨last, List.mem_cons_self, List.mem_singleton.mp h⟩)
  | case5 done segment rest hrest hdouble ih =>
    rcases ih h with h | h | ⟨other, hother, h⟩
    · exact .inl (List.dropLast_subset _ h)
    · exact .inr (.inl h)
    · exact .inr (.inr ⟨other, List.mem_cons_of_mem _ hother, h⟩)
  | case6 done segment rest hrest hdouble hsingle ih =>
    rcases ih h with h | h | ⟨other, hother, h⟩
    · exact .inl h
    · exact .inr (.inl h)
    · exact .inr (.inr ⟨other, List.mem_cons_of_mem _ hother, h⟩)
  | case7 done segment rest hrest hdouble hsingle ih =>
    rcases ih h with h | h | ⟨other, hother, h⟩
    · rcases List.mem_append.mp h with h | h
      · exact .inl h
      · exact .inr (.inr ⟨segment, List.mem_cons_self, List.mem_singleton.mp h⟩)
    · exact .inr (.inl h)
    · exact .inr (.inr ⟨other, List.mem_cons_of_mem _ hother, h⟩)

/-- Percent-encoding brings in no question mark. -/
theorem question_not_mem_encode {p : Char → Bool} (h : '?' ∈ cs → p '?' = true) :
    '?' ∉ Percent.encode p cs := by
  have hkept : ∀ c ∈ cs, p c = false → c ≠ '?' := by
    rintro c hc hkept rfl
    rw [h hc] at hkept
    cases hkept
  have hother := Percent.forall_mem_encode (q := fun c => c ≠ '?') (by decide) (by decide) hkept
  intro hmem
  exact hother '?' hmem rfl

/-- **No segment of a path has a question mark,** where one would be encoded. -/
theorem question_not_mem_pathSegments {special : Bool} {name : List Char}
    (h : name ∈ pathSegments special cs) : '?' ∉ name := by
  have hempty : '?' ∉ ([] : List Char) := List.not_mem_nil
  cases cs with
  | nil =>
    cases special with
    | true =>
      rw [List.mem_singleton.mp h]
      exact hempty
    | false => cases h
  | cons slash rest =>
    rcases mem_resolve h with h | rfl | ⟨segment, -, rfl⟩
    · cases h
    · exact hempty
    · exact question_not_mem_encode fun _ => rfl

/-- A path consists of segments, or of text without a question mark. -/
theorem question_not_mem_pathText {url : Url}
    (h : (∃ special cs, url.path = .segments (pathSegments special cs)) ∨
      ∃ cs, '?' ∉ cs ∧ url.path = .opaqueText (Percent.encode Percent.isControl cs)) :
    '?' ∉ url.pathText := by
  rcases h with ⟨special, cs, hpath⟩ | ⟨cs, hcs, hpath⟩
  · rw [pathText, hpath]
    intro hmem
    obtain ⟨name, hname, hmem⟩ := List.mem_flatMap.mp hmem
    rcases List.mem_cons.mp hmem with hslash | hmem
    · cases hslash
    · exact question_not_mem_pathSegments hname hmem
  · rw [pathText, hpath]
    exact question_not_mem_encode fun hmem => absurd hmem hcs

/-! ## Parts -/

theorem not_mem_fst_cut (separator : Char) (cs : List Char) : separator ∉ (cut separator cs).1 := by
  rcases cut_cases separator cs with ⟨hnot, hcut⟩ | ⟨front, behind, hfront, -, hcut⟩
  · rw [hcut]
    exact hnot
  · rw [hcut]
    exact hfront

theorem path_of_pathAlone (special : Bool) (cs : List Char) :
    (∃ path, pathAlone special cs = .segments (pathSegments special path)) ∨
      pathAlone special cs = .opaqueText (Percent.encode Percent.isControl cs) := by
  unfold pathAlone
  split
  · split
    · exact .inl ⟨cs, rfl⟩
    · split
      · exact .inl ⟨'/' :: cs, rfl⟩
      · exact .inr rfl
  · rename_i hhead
    rw [List.head?_eq_none_iff.mp hhead]
    cases special with
    | true => exact .inl ⟨[], rfl⟩
    | false => exact .inr rfl

/-- **A text is cut into the parts of its URL:** scheme, query and fragment stand in it, in this order, and
no question mark is in the path. -/
theorem exists_parts (h : parse? text = some base) :
    ∃ rest, splitScheme? (clean text) = some (base.scheme, rest) ∧
      base.query = (cut '?' (cut '#' rest).1).2.map
        (Percent.encode (Percent.inQuery (isSpecial base.scheme))) ∧
      base.fragment = (cut '#' rest).2.map (Percent.encode Percent.inFragment) ∧
      '?' ∉ base.pathText := by
  unfold parse? at h
  split at h
  · cases h
  · rename_i scheme rest hscheme
    dsimp only at h
    split at h
    · obtain ⟨rfl, hquery, hfragment, path, hpath⟩ := parts_of_ofAuthority? h
      exact ⟨rest, hscheme, hquery, hfragment, question_not_mem_pathText (.inl ⟨_, _, hpath⟩)⟩
    · split at h
      · split at h
        · obtain ⟨rfl, hquery, hfragment, path, hpath⟩ := parts_of_ofFileHost? h
          exact ⟨rest, hscheme, hquery, hfragment, question_not_mem_pathText (.inl ⟨_, _, hpath⟩)⟩
        · obtain ⟨rfl, hquery, hfragment, path, hpath⟩ := parts_of_ofAuthority? h
          exact ⟨rest, hscheme, hquery, hfragment, question_not_mem_pathText (.inl ⟨_, _, hpath⟩)⟩
      · obtain rfl := Option.some.inj h
        refine ⟨rest, hscheme, rfl, rfl, question_not_mem_pathText ?_⟩
        rcases path_of_pathAlone (isSpecial scheme) (cut '?' (cut '#' rest).1).1 with
          ⟨path, hpath⟩ | hpath
        · exact .inl ⟨_, path, hpath⟩
        · exact .inr ⟨_, not_mem_fst_cut _ _, hpath⟩

/-! ## Targets -/

/-- **What a request names is cut at its first question mark** into the path, which is never empty, and the
query. -/
theorem cut_target {url : Url} (h : '?' ∉ url.pathText) :
    cut '?' url.target = (if url.pathText = [] then ['/'] else url.pathText, url.query) := by
  have hpath : '?' ∉ (if url.pathText = [] then ['/'] else url.pathText) := by
    split
    · decide
    · exact h
  rw [target]
  cases url.query with
  | none => exact cut_of_not_mem hpath
  | some query => exact cut_append_cons hpath query

end Url
end QueryConsole
