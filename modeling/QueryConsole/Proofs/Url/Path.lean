/-
# Paths of URLs

A path is read in segments between slashes, of which those with dots are resolved.  Two places in it
are of interest to a text that is put behind it:

* its directory (`directory`): all its segments, the last one included, entered as directories.  Names
  that stand for themselves are put there (`pathSegments_append`);
* its end: without slashes at the end it is its directory, unless its text ends in a slash of either kind
  or the path itself in two (`dropEndWhile_pathText_eq_iff`).

A control character or a space behind the text of a path makes the directory longer
(`length_pathText_lt`), also where the last segment consisted of dots without it.
-/

import QueryConsole.Proofs.Url.Control
import QueryConsole.Proofs.Url.Percent
import QueryConsole.Url.Basic

namespace QueryConsole

namespace Url

variable {path : List Char} {names : List (List Char)}

/-! ## Segments -/

/-- The text of segments, each behind a slash. -/
def segmentsText (segments : List (List Char)) : List Char := segments.flatMap ('/' :: ·)

@[simp] theorem segmentsText_nil : segmentsText [] = [] := rfl

theorem segmentsText_append (xs ys : List (List Char)) :
    segmentsText (xs ++ ys) = segmentsText xs ++ segmentsText ys := List.flatMap_append

/-- A segment with dots, which names a directory and is no name of its own. -/
def isDots (segment : List Char) : Bool := isDoubleDot segment || isSingleDot segment

/-- The directory that a segment leads to from another one. -/
def enter (done : List (List Char)) (segment : List Char) : List (List Char) :=
  if isDoubleDot segment then done.dropLast
  else if isSingleDot segment then done
  else done ++ [Percent.encode Percent.inPath segment]

/-- A segment that is no dots adds one to its directory. -/
theorem enter_of_not_isDots {segment : List Char} (h : isDots segment = false)
    (done : List (List Char)) :
    enter done segment = done ++ [Percent.encode Percent.inPath segment] := by
  obtain ⟨hdouble, hsingle⟩ := Bool.or_eq_false_iff.mp h
  rw [enter, hdouble, hsingle]
  rfl

theorem resolve_singleton (done : List (List Char)) (last : List Char) :
    resolve done [last] = enter done last ++ if isDots last then [[]] else [] := by
  rw [resolve, enter, isDots]
  cases isDoubleDot last <;> cases isSingleDot last <;> simp

theorem resolve_cons {rest : List (List Char)} (hrest : rest ≠ []) (done : List (List Char))
    (segment : List Char) : resolve done (segment :: rest) = resolve (enter done segment) rest := by
  obtain ⟨next, rest, rfl⟩ := List.exists_cons_of_ne_nil hrest
  rw [resolve, enter]
  · split
    · rfl
    · split <;> rfl
  · exact nofun

/-- **Segments in front are resolved as directories**, whatever follows them. -/
theorem resolve_append {ys : List (List Char)} (hys : ys ≠ []) (done xs : List (List Char)) :
    resolve done (xs ++ ys) = resolve (xs.foldl enter done) ys := by
  induction xs generalizing done with
  | nil => rfl
  | cons segment xs ih =>
    rw [List.cons_append, resolve_cons (List.append_ne_nil_of_right_ne_nil xs hys), ih,
      List.foldl_cons]

/-- The last segment is resolved as one in front is, but for an empty segment behind dots. -/
theorem resolve_concat (done init : List (List Char)) (last : List Char) :
    resolve done (init ++ [last]) =
      (init ++ [last]).foldl enter done ++ if isDots last then [[]] else [] := by
  rw [resolve_append (List.cons_ne_nil _ _), resolve_singleton, List.foldl_append, List.foldl_cons,
    List.foldl_nil]

/-- Names that stand for themselves are resolved to themselves. -/
theorem resolve_of_plain (h : ∀ name ∈ names, isDots name = false ∧
    Percent.encode Percent.inPath name = name) (done : List (List Char)) :
    resolve done names = done ++ names := by
  have henter : names.foldl enter done = done ++ names := by
    induction names generalizing done with
    | nil => rw [List.foldl_nil, List.append_nil]
    | cons name names ih =>
      obtain ⟨⟨hdots, hplain⟩, hnames⟩ := List.forall_mem_cons.mp h
      rw [List.foldl_cons, enter_of_not_isDots hdots, hplain, ih hnames, List.append_assoc,
        List.singleton_append]
  cases names using List.reverseRecOn with
  | nil => rw [resolve, List.append_nil]
  | append_singleton init last =>
    have hdots : isDots last = false := (h last (List.mem_append_right _ List.mem_cons_self)).1
    rw [resolve_concat, henter, hdots]
    simp

/-! ## The path behind an authority -/

/-- The directory that the text of a path names, as a place for names behind it. -/
def directory : List Char → List (List Char)
  | [] => []
  | _ :: rest => (rawSegments true rest).foldl enter []

/-- A text that may stand behind an address: names behind slashes, without dots, of characters that
stand for themselves in a path. -/
structure IsPath (path : List Char) (names : List (List Char)) : Prop where
  eq_segmentsText : path = segmentsText names
  ne_nil : names ≠ []
  not_dots : ∀ name ∈ names, isDots name = false
  plain : ∀ name ∈ names, ∀ c ∈ name,
    0x20 < c.toNat ∧ Percent.inPath c = false ∧ isSlash true c = false

theorem encode_of_forall {p : Char → Bool} {cs : List Char} (h : ∀ c ∈ cs, p c = false) :
    Percent.encode p cs = cs := by
  induction cs with
  | nil => rfl
  | cons c cs ih =>
    obtain ⟨hc, hcs⟩ := List.forall_mem_cons.mp h
    have htail : cs.flatMap (fun c => if p c then Percent.char c else [c]) = cs := ih hcs
    rw [Percent.encode, List.flatMap_cons, htail, hc]
    rfl

/-- The text of names is split into the names again. -/
theorem rawSegments_segmentsText {name : List Char} (hname : ∀ c ∈ name, isSlash true c = false)
    (hnames : ∀ name ∈ names, ∀ c ∈ name, isSlash true c = false) :
    rawSegments true (name ++ segmentsText names) = name :: names := by
  induction names generalizing name with
  | nil =>
    rw [segmentsText_nil, List.append_nil]
    exact List.splitOnP_eq_singleton hname
  | cons next names ih =>
    obtain ⟨hnext, hnames⟩ := List.forall_mem_cons.mp hnames
    rw [segmentsText, List.flatMap_cons, List.cons_append, rawSegments,
      List.splitOnP_append_cons name _ rfl, List.splitOnP_eq_singleton hname]
    exact congrArg (name :: ·) (ih hnext hnames)

/-- **A path behind another one** is put into the directory that the other one names. -/
theorem pathSegments_append (hpath : IsPath path names) (front : List Char) :
    pathSegments true (front ++ path) = directory front ++ names := by
  have hplain : ∀ name ∈ names, isDots name = false ∧
      Percent.encode Percent.inPath name = name := by
    intro name hname
    have hchars := fun c hc => (hpath.plain name hname c hc).2.1
    exact ⟨hpath.not_dots name hname, encode_of_forall hchars⟩
  have hnoSlash : ∀ name ∈ names, ∀ c ∈ name, isSlash true c = false :=
    fun name hname c hc => (hpath.plain name hname c hc).2.2
  obtain ⟨name, rest, rfl⟩ := List.exists_cons_of_ne_nil hpath.ne_nil
  obtain ⟨hname, hrest⟩ := List.forall_mem_cons.mp hnoSlash
  have hsegments : rawSegments true (name ++ segmentsText rest) = name :: rest :=
    rawSegments_segmentsText hname hrest
  have htext : path = '/' :: (name ++ segmentsText rest) := hpath.eq_segmentsText
  rw [htext]
  cases front with
  | nil =>
    rw [List.nil_append, pathSegments, hsegments, resolve_of_plain hplain]
    rfl
  | cons slash front =>
    rw [List.cons_append, pathSegments, rawSegments, List.splitOnP_append_cons front _ rfl,
      ← rawSegments, ← rawSegments, hsegments, resolve_append (List.cons_ne_nil _ _),
      resolve_of_plain hplain, directory]

/-! ## The end of a path -/

/-- A text with a slash in it has a last one. -/
theorem exists_last_slash {front : List Char} (h : ∃ c ∈ front, isSlash true c = true) :
    ∃ before slash last, front = before ++ slash :: last ∧ isSlash true slash = true ∧
      ∀ c ∈ last, isSlash true c = false := by
  induction front using List.reverseRecOn with
  | nil =>
    obtain ⟨c, hc, -⟩ := h
    exact absurd hc List.not_mem_nil
  | append_singleton front d ih =>
    cases hd : isSlash true d with
    | true => exact ⟨front, d, [], rfl, hd, List.forall_mem_nil _⟩
    | false =>
      obtain ⟨before, slash, last, rfl, hslash, hlast⟩ := ih <| by
        obtain ⟨c, hc, hslash⟩ := h
        rcases List.mem_append.mp hc with hc | hc
        · exact ⟨c, hc, hslash⟩
        · rw [List.mem_singleton.mp hc, hd] at hslash
          cases hslash
      refine ⟨before, slash, last ++ [d], by simp, hslash, ?_⟩
      intro c hc
      rcases List.mem_append.mp hc with hc | hc
      · exact hlast c hc
      · rw [List.mem_singleton.mp hc, hd]

/-- A text that begins with a slash is what stands in front of its last slash, that slash and its last
segment. -/
theorem exists_last_segment {front : List Char} (hne : front ≠ [])
    (hfront : ∀ c ∈ front.head?, isSlash true c = true) :
    ∃ before slash last, front = before ++ slash :: last ∧ isSlash true slash = true ∧
      ∀ c ∈ last, isSlash true c = false := by
  obtain ⟨first, rest, rfl⟩ := List.exists_cons_of_ne_nil hne
  exact exists_last_slash ⟨first, List.mem_cons_self, hfront first rfl⟩

section

variable (before : List Char) {slash : Char} {last : List Char} (hslash : isSlash true slash = true)
  (hlast : ∀ c ∈ last, isSlash true c = false)

include hslash hlast

/-- **The last segment** of a path is entered from the directory in front of it. -/
theorem directory_append_cons :
    directory (before ++ slash :: last) = enter (directory before) last := by
  have hsingle : rawSegments true last = [last] := List.splitOnP_eq_singleton hlast
  cases before with
  | nil =>
    change (rawSegments true last).foldl enter [] = enter [] last
    rw [hsingle]
    rfl
  | cons first before =>
    rw [List.cons_append, directory, directory, rawSegments,
      List.splitOnP_append_cons before last hslash, ← rawSegments, ← rawSegments, hsingle,
      List.foldl_append]
    rfl

/-- The path itself is its directory, with an empty segment behind dots. -/
theorem pathSegments_append_cons :
    pathSegments true (before ++ slash :: last) =
      enter (directory before) last ++ if isDots last then [[]] else [] := by
  have hsingle : rawSegments true last = [last] := List.splitOnP_eq_singleton hlast
  cases before with
  | nil =>
    rw [List.nil_append, pathSegments, hsingle, resolve_singleton]
    rfl
  | cons first before =>
    rw [List.cons_append, pathSegments, directory, rawSegments,
      List.splitOnP_append_cons before last hslash, ← rawSegments, ← rawSegments, hsingle,
      resolve_concat, List.foldl_append]
    rfl

end

/-- Percent-encoding brings in no slash. -/
theorem slash_not_mem_encode {p : Char → Bool} {cs : List Char} (h : '/' ∉ cs) :
    '/' ∉ Percent.encode p cs := by
  have hother := Percent.forall_mem_encode (p := p) (q := fun c => c ≠ '/') (by decide) (by decide)
    fun c hc _ => ne_of_mem_of_not_mem hc h
  intro hmem
  exact hother '/' hmem rfl

/-- Percent-encoding leaves something of every character. -/
theorem encode_ne_nil {p : Char → Bool} {cs : List Char} (h : cs ≠ []) :
    Percent.encode p cs ≠ [] := by
  obtain ⟨c, cs, rfl⟩ := List.exists_cons_of_ne_nil h
  have hbytes : String.utf8EncodeChar c ≠ [] := by
    have hsize := c.utf8Size_pos
    rw [← String.length_utf8EncodeChar] at hsize
    exact List.ne_nil_of_length_pos hsize
  have hchar : Percent.char c ≠ [] := by
    obtain ⟨b, bytes, hb⟩ := List.exists_cons_of_ne_nil hbytes
    rw [Percent.char, hb, List.flatMap_cons]
    exact List.cons_ne_nil _ _
  rw [Percent.encode, List.flatMap_cons]
  refine List.append_ne_nil_of_left_ne_nil ?_ _
  split
  · exact hchar
  · exact List.cons_ne_nil _ _

/-- Only texts that end otherwise keep their end, whatever is removed of it. -/
theorem dropEndWhile_slash_eq_self_iff {cs : List Char} :
    Text.dropEndWhile (· = '/') cs = cs ↔ cs.getLast? ≠ some '/' := by
  rw [Text.dropEndWhile_eq_self_iff]
  constructor
  · intro h hlast
    have hslash := h '/' hlast
    exact of_decide_eq_false hslash rfl
  · intro h c hc
    refine decide_eq_false ?_
    rintro rfl
    exact h hc

theorem slashes_isSuffix_concat_iff {cs : List Char} :
    ['/', '/'] <:+ cs ++ ['/'] ↔ cs.getLast? = some '/' := by
  rw [List.getLast?_eq_some_iff]
  constructor
  · intro h
    have hboth : ['/'] ++ ['/'] <:+ cs ++ ['/'] := h
    obtain ⟨⟨front, hfront⟩, -⟩ := (List.suffix_append_inj_of_length_eq rfl).mp hboth
    exact ⟨front, hfront.symm⟩
  · rintro ⟨front, rfl⟩
    exact ⟨front, by simp⟩

/-- The text of segments ends as the last one does, if that is not empty. -/
theorem getLast?_segmentsText_concat {last : List Char} (hne : last ≠ [])
    (done : List (List Char)) : (segmentsText (done ++ [last])).getLast? = last.getLast? := by
  have hsuffix : last <:+ segmentsText (done ++ [last]) :=
    ⟨segmentsText done ++ ['/'], by simp [segmentsText]⟩
  exact (Text.getLast?_of_isSuffix hsuffix hne).symm

/-- **When a path without slashes at its end is its directory:** its text ends in no slash of either
kind, and the path itself in no two slashes. -/
theorem dropEndWhile_pathText_eq_iff {front : List Char}
    (hfront : ∀ c ∈ front.head?, isSlash true c = true) :
    Text.dropEndWhile (· = '/') (segmentsText (pathSegments true front)) =
        segmentsText (directory front) ↔
      (∀ c ∈ front.getLast?, isSlash true c = false) ∧
        ¬['/', '/'] <:+ segmentsText (pathSegments true front) := by
  by_cases hempty : front = []
  · subst hempty
    refine iff_of_true rfl ⟨nofun, fun hslashes => ?_⟩
    have hlength := hslashes.length_le
    simp [pathSegments, segmentsText] at hlength
  · obtain ⟨before, slash, last, rfl, hslash, hlast⟩ := exists_last_segment hempty hfront
    rw [directory_append_cons before hslash hlast, pathSegments_append_cons before hslash hlast]
    have hname : last ≠ [] → ∀ c ∈ (before ++ slash :: last).getLast?, isSlash true c = false := by
      intro hne c hc
      have hsuffix : last <:+ before ++ slash :: last := ⟨before ++ [slash], by simp⟩
      rw [← Text.getLast?_of_isSuffix hsuffix hne] at hc
      exact hlast c (List.mem_of_getLast? hc)
    cases hdots : isDots last with
    | true =>
      -- The path is its directory with one more slash.
      have hne : last ≠ [] := by
        rintro rfl
        cases hdots
      rw [if_pos rfl, segmentsText_append, show segmentsText [[]] = ['/'] from rfl,
        Text.dropEndWhile_concat rfl, dropEndWhile_slash_eq_self_iff, slashes_isSuffix_concat_iff]
      exact (and_iff_right (hname hne)).symm
    | false =>
      rw [if_neg Bool.false_ne_true, List.append_nil, dropEndWhile_slash_eq_self_iff,
        enter_of_not_isDots hdots]
      by_cases hne : last = []
      · -- The path ends in an empty segment, and its text in the slash in front of it.
        subst hne
        refine iff_of_false ?_ (fun h => ?_)
        · simp [segmentsText, Percent.encode]
        · have hno := h.1 slash (by rw [List.getLast?_append]; rfl)
          rw [hslash] at hno
          cases hno
      · have hslashNotMem : '/' ∉ last := by
          intro hmem
          have hno := hlast '/' hmem
          cases hno
        have hlastChar : (segmentsText (directory before ++
            [Percent.encode Percent.inPath last])).getLast? ≠ some '/' := by
          rw [getLast?_segmentsText_concat (encode_ne_nil hne)]
          exact fun h => slash_not_mem_encode hslashNotMem (List.mem_of_getLast? h)
        refine iff_of_true hlastChar ⟨hname hne, fun hslashes => hlastChar ?_⟩
        exact (Text.getLast?_of_isSuffix hslashes (List.cons_ne_nil _ _)).symm

/-- A segment with a control character or a space is a name. -/
theorem isDots_of_mem {segment : List Char} {c : Char} (h : c ∈ segment) (hc : c.toNat ≤ 0x20) :
    isDots segment = false := by
  have hlower : c.toLower = c := Text.forall_le_space (p := fun c => c.toLower = c) (by decide) hc
  have hother (s : List Char) (hs : (s.all fun d => 0x20 < d.toNat) = true) :
      segment ≠ s ∧ s ≠ segment.map Char.toLower := by
    have hnot : c ∉ s := by
      intro hmem
      have hlt : 0x20 < c.toNat := of_decide_eq_true (List.all_eq_true.mp hs c hmem)
      omega
    refine ⟨?_, ?_⟩
    · rintro rfl
      exact hnot h
    · rintro rfl
      exact hnot (List.mem_map.mpr ⟨c, h, hlower⟩)
  have hdouble : isDoubleDot segment = false := by
    have hspelled : ∀ s ∈ [".%2e", "%2e.", "%2e%2e"],
        (s.toList.all fun d => 0x20 < d.toNat) = true := by decide
    rw [isDoubleDot, decide_eq_false (hother ['.', '.'] (by decide)).1, Bool.false_or,
      List.any_eq_false]
    intro s hs heq
    exact (hother s.toList (hspelled s hs)).2 (of_decide_eq_true heq)
  have hsingle : isSingleDot segment = false := by
    rw [isSingleDot, decide_eq_false (hother ['.'] (by decide)).1, Bool.false_or]
    exact decide_eq_false (hother "%2e".toList (by decide)).2.symm
  rw [isDots, hdouble, hsingle]
  rfl

theorem length_segmentsText_singleton (name : List Char) :
    (segmentsText [name]).length = name.length + 1 := by
  simp [segmentsText]

/-- Dots lead to no longer directory. -/
theorem length_enter_le {segment : List Char} (h : isDots segment = true)
    (done : List (List Char)) :
    (segmentsText (enter done segment)).length ≤ (segmentsText done).length := by
  rw [enter]
  split
  · obtain ⟨tail, htail⟩ := done.dropLast_prefix
    nth_rewrite 2 [← htail]
    rw [segmentsText_append, List.length_append]
    exact Nat.le_add_right _ _
  · rename_i hdouble
    have hsingle : isSingleDot segment = true := by
      simpa [isDots, hdouble] using h
    rw [if_pos hsingle]

/-- **Behind a control character or a space** the directory is longer than the path without it. -/
theorem length_pathText_lt {front trail : List Char} (hne : front ≠ [])
    (hfront : ∀ c ∈ front.head?, isSlash true c = true) (htrail : trail ≠ [])
    (hcontrol : ∀ c ∈ trail, c.toNat ≤ 0x20) :
    (segmentsText (pathSegments true front)).length <
      (segmentsText (directory (front ++ trail))).length := by
  obtain ⟨before, slash, last, rfl, hslash, hlast⟩ := exists_last_segment hne hfront
  obtain ⟨c, rest, rfl⟩ := List.exists_cons_of_ne_nil htrail
  have hdots : isDots (last ++ c :: rest) = false :=
    isDots_of_mem (List.mem_append_right _ List.mem_cons_self) (hcontrol c List.mem_cons_self)
  have hlonger : ∀ d ∈ last ++ c :: rest, isSlash true d = false := by
    intro d hd
    rcases List.mem_append.mp hd with hd | hd
    · exact hlast d hd
    · exact Text.forall_le_space (p := fun d => isSlash true d = false) (by decide) (hcontrol d hd)
  rw [List.append_assoc, List.cons_append, directory_append_cons before hslash hlonger,
    enter_of_not_isDots hdots, pathSegments_append_cons before hslash hlast]
  have hencoded : Percent.encode Percent.inPath (last ++ c :: rest) =
      Percent.encode Percent.inPath last ++ Percent.encode Percent.inPath (c :: rest) :=
    List.flatMap_append
  have hpos : 0 < (Percent.encode Percent.inPath (c :: rest)).length :=
    List.length_pos_iff.mpr (encode_ne_nil (List.cons_ne_nil _ _))
  cases hlastDots : isDots last with
  | true =>
    have hle := length_enter_le hlastDots (directory before)
    simp only [segmentsText_append, List.length_append, length_segmentsText_singleton, hencoded,
      if_true, List.length_nil]
    omega
  | false =>
    rw [enter_of_not_isDots hlastDots]
    simp only [segmentsText_append, List.length_append, length_segmentsText_singleton, hencoded,
      Bool.false_eq_true, if_false, segmentsText_nil, List.length_nil]
    omega

end Url
end QueryConsole
