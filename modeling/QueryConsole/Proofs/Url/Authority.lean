/-
# Authorities

What stands between the slashes behind a scheme and the next slash of either kind decides user, host and
port of a URL, and what follows it the path (`ofAuthority?_eq_map`).  So the same authority is read whatever
path, query and fragment come behind it (`ofAuthority?_append`).

An authority that ends in a control character or a space is none (`ofAuthority?_eq_none`): the character is
the last one of its port, which consists of digits, or of its host.
-/

import QueryConsole.Proofs.Url.Control
import QueryConsole.Url.Basic

namespace QueryConsole
namespace Url

variable {cs path scheme : List Char} {query fragment : Option (List Char)} {base : Url}
  {c separator : Char}

/-! ## Cuts -/

theorem cut_of_not_mem (h : separator ∉ cs) : cut separator cs = (cs, none) := by
  have hdrop : cs.dropWhile (· ≠ separator) = [] := by
    rw [List.dropWhile_eq_nil_iff]
    intro c hc
    refine decide_eq_true ?_
    rintro rfl
    exact h hc
  rw [cut, hdrop]

theorem cut_append_cons {front : List Char} (h : separator ∉ front) (behind : List Char) :
    cut separator (front ++ separator :: behind) = (front, some behind) := by
  have hfront : ∀ c ∈ front, decide (c ≠ separator) = true := by
    intro c hc
    refine decide_eq_true ?_
    rintro rfl
    exact h hc
  have hstop : decide (separator ≠ separator) = false := decide_eq_false (not_not_intro rfl)
  rw [cut, Text.dropWhile_append_cons hstop, Text.takeWhile_append_cons hstop,
    List.dropWhile_eq_nil_iff.mpr hfront, List.takeWhile_eq_self_iff.mpr hfront]
  rfl

/-- A text is cut at the first separator, if it has one. -/
theorem cut_cases (separator : Char) (cs : List Char) :
    (separator ∉ cs ∧ cut separator cs = (cs, none)) ∨
      ∃ front behind, separator ∉ front ∧ cs = front ++ separator :: behind ∧
        cut separator cs = (front, some behind) := by
  by_cases h : separator ∈ cs
  · obtain ⟨front, behind, rfl, hfront⟩ := List.eq_append_cons_of_mem h
    exact .inr ⟨front, behind, hfront, rfl, cut_append_cons hfront behind⟩
  · exact .inl ⟨h, cut_of_not_mem h⟩

/-- **A text is cut at the same place**, whatever is behind it without a separator. -/
theorem cut_append (h : separator ∉ path) (cs : List Char) :
    cut separator (cs ++ path) =
      match (cut separator cs).2 with
      | none => (cs ++ path, none)
      | some behind => ((cut separator cs).1, some (behind ++ path)) := by
  rcases cut_cases separator cs with ⟨hnot, hcut⟩ | ⟨front, behind, hfront, rfl, hcut⟩
  · have hwhole : separator ∉ cs ++ path := by
      rw [List.mem_append]
      exact not_or.mpr ⟨hnot, h⟩
    rw [hcut, cut_of_not_mem hwhole]
  · rw [hcut, List.append_assoc, List.cons_append, cut_append_cons hfront]

theorem fst_cut_of_none (h : (cut separator cs).2 = none) : (cut separator cs).1 = cs := by
  rcases cut_cases separator cs with ⟨-, hcut⟩ | ⟨front, behind, -, -, hcut⟩
  · rw [hcut]
  · rw [hcut] at h
    cases h

/-! ## The parts of an authority -/

/-- The port is what stands behind a colon at the end, and where there is none all is the host. -/
theorem splitPort_cases (cs : List Char) :
    splitPort cs = (cs, none) ∨
      ∃ host port, splitPort cs = (host, some port) ∧ ':' :: port <:+ cs := by
  fun_induction splitPort cs with
  | case1 => exact .inl rfl
  | case2 rest => exact .inr ⟨[], rest, rfl, List.suffix_rfl⟩
  | case3 rest inside host port hcut =>
    have hrest : rest = inside ++ rest.dropWhile (· ≠ ']') := List.takeWhile_append_dropWhile.symm
    rcases cut_cases ':' (rest.dropWhile (· ≠ ']')) with ⟨-, hwhole⟩ | ⟨front, behind, -, hcolon, hpart⟩
    · obtain ⟨rfl, rfl⟩ := Prod.mk.inj (hcut.symm.trans hwhole)
      refine .inl ?_
      rw [List.cons_append, ← hrest]
    · obtain ⟨rfl, rfl⟩ := Prod.mk.inj (hcut.symm.trans hpart)
      refine .inr ⟨_, behind, rfl, ?_⟩
      have hsuffix : ':' :: behind <:+ rest.dropWhile (· ≠ ']') := ⟨_, hcolon.symm⟩
      exact (hsuffix.trans (List.dropWhile_suffix _)).trans (List.suffix_cons _ _)
  | case4 first rest hcolon hbracket host port hsplit ih =>
    rw [hsplit] at ih
    rcases ih with hwhole | ⟨host', port', hpart, hsuffix⟩
    · obtain ⟨rfl, rfl⟩ := Prod.mk.inj hwhole
      exact .inl rfl
    · obtain ⟨rfl, rfl⟩ := Prod.mk.inj hpart
      exact .inr ⟨_, _, rfl, hsuffix.trans (List.suffix_cons _ _)⟩

/-- What follows the user is the end of the authority. -/
theorem splitUserInfo_isSuffix (cs : List Char) : (splitUserInfo cs).2 <:+ cs := by
  rw [splitUserInfo]
  split
  · have hprefix := List.takeWhile_prefix (l := cs.reverse) (· ≠ '@')
    have hsuffix := List.reverse_suffix.mpr hprefix
    rwa [List.reverse_reverse] at hsuffix
  · exact List.suffix_rfl

theorem getLast?_splitUserInfo (hlast : cs.getLast? = some c) (hne : c ≠ '@') :
    (splitUserInfo cs).2.getLast? = some c := by
  have hnil : (splitUserInfo cs).2 ≠ [] := by
    rw [splitUserInfo]
    split
    · have hhead : cs.reverse.head? = some c := by rw [List.head?_reverse, hlast]
      obtain ⟨tail, htail⟩ := List.head?_eq_some_iff.mp hhead
      dsimp only
      rw [htail]
      simp [hne]
    · rintro rfl
      cases hlast
  rw [Text.getLast?_of_isSuffix (splitUserInfo_isSuffix cs) hnil, hlast]

/-- No backslash stands in the port under a special scheme, where the authority ends at a slash. -/
theorem cut_port (cs : List Char) {port : Option (List Char)}
    (h : (splitPort (splitUserInfo (cs.takeWhile fun c => !isSlash true c)).2).2 = port) :
    cut '\\' (port.getD []) = (port.getD [], none) := by
  refine cut_of_not_mem ?_
  intro hmem
  have hauthority : '\\' ∈ cs.takeWhile fun c => !isSlash true c := by
    refine (splitUserInfo_isSuffix _).subset ?_
    rcases splitPort_cases (splitUserInfo (cs.takeWhile fun c => !isSlash true c)).2 with
      hwhole | ⟨host, part, hpart, hsuffix⟩
    · rw [hwhole] at h
      rw [← h] at hmem
      cases hmem
    · rw [hpart] at h
      rw [← h] at hmem
      exact hsuffix.subset (List.mem_cons_of_mem _ hmem)
  have hno := List.mem_takeWhile_imp hauthority
  cases hno

/-! ## The whole authority -/

/-- How an authority is read under a special scheme, where it ends at the first slash of either kind. -/
theorem ofAuthority?_of_special (hspecial : isSpecial scheme = true) (cs : List Char)
    (query fragment : Option (List Char)) :
    ofAuthority? scheme cs query fragment =
      let user := splitUserInfo (cs.takeWhile fun c => !isSlash true c)
      let address := splitPort user.2
      if address.1.isEmpty ∧ (user.1.isSome ∨ address.2.isSome) then none
      else
        (host? scheme address.1).bind fun host =>
          (port? scheme (address.2.getD [])).map fun port =>
            { scheme, userInfo := user.1, host, port,
              path := .segments (pathSegments true (cs.dropWhile fun c => !isSlash true c))
              query, fragment } := by
  rw [ofAuthority?, hspecial]
  rcases huser : splitUserInfo (cs.takeWhile fun c => !isSlash true c) with ⟨userInfo, address⟩
  rcases hport : splitPort address with ⟨hostText, portText⟩
  have hcut : cut '\\' (portText.getD []) = (portText.getD [], none) :=
    cut_port cs (by rw [huser, hport])
  simp only [hport, hcut]
  split
  · rfl
  · cases host? scheme hostText with
    | none => rfl
    | some host => cases port? scheme (portText.getD []) <;> rfl

/-- **Where the authority ends:** what stands in front of the first slash decides user, host and port, and
what is behind it the path. -/
theorem ofAuthority?_eq_map (hspecial : isSpecial scheme = true) (cs : List Char)
    (query fragment : Option (List Char)) :
    ofAuthority? scheme cs query fragment =
      (ofAuthority? scheme (cs.takeWhile fun c => !isSlash true c) none none).map fun url =>
        { url with
          path := .segments (pathSegments true (cs.dropWhile fun c => !isSlash true c))
          query, fragment } := by
  have htake : (cs.takeWhile fun c => !isSlash true c).takeWhile (fun c => !isSlash true c) =
      cs.takeWhile fun c => !isSlash true c := by
    rw [List.takeWhile_takeWhile]
    simp
  rw [ofAuthority?_of_special hspecial, ofAuthority?_of_special hspecial, htake]
  dsimp only
  split
  · rfl
  · cases host? scheme _ <;> cases port? scheme _ <;> rfl

/-- **The same authority** in front of another path. -/
theorem ofAuthority?_append (hspecial : isSpecial scheme = true)
    (h : ofAuthority? scheme cs query fragment = some base) {cs' : List Char}
    (htake : cs'.takeWhile (fun c => !isSlash true c) = cs.takeWhile fun c => !isSlash true c)
    (query' fragment' : Option (List Char)) :
    ofAuthority? scheme cs' query' fragment' = some
      { base with
        path := .segments (pathSegments true (cs'.dropWhile fun c => !isSlash true c))
        query := query'
        fragment := fragment' } := by
  rw [ofAuthority?_eq_map hspecial, Option.map_eq_some_iff] at h
  obtain ⟨url, hurl, rfl⟩ := h
  rw [ofAuthority?_eq_map hspecial, htake, hurl]
  rfl

/-- The parts of a URL that are read behind its authority. -/
theorem ofAuthority?_fields (hspecial : isSpecial scheme = true)
    (h : ofAuthority? scheme cs query fragment = some base) :
    base.path = .segments (pathSegments true (cs.dropWhile fun c => !isSlash true c)) ∧
      base.query = query ∧ base.fragment = fragment := by
  rw [ofAuthority?_eq_map hspecial, Option.map_eq_some_iff] at h
  obtain ⟨url, -, rfl⟩ := h
  exact ⟨rfl, rfl, rfl⟩

/-- Under a special scheme that needs a host there has to be an authority. -/
theorem ofAuthority?_nil (hspecial : isSpecial scheme = true) (hfile : scheme ≠ "file".toList) :
    ofAuthority? scheme [] query fragment = none := by
  have hhost : host? scheme [] = none := by
    rw [host?, hspecial, Bool.true_and]
    exact if_pos (decide_eq_true hfile)
  rw [ofAuthority?_of_special hspecial]
  have huser : splitUserInfo [] = (none, []) := rfl
  have hport : splitPort [] = ([], none) := rfl
  simp [huser, hport, hhost]

theorem host?_eq_none (hspecial : isSpecial scheme = true) (hlast : cs.getLast? = some c)
    (hc : c.toNat ≤ 0x20) : host? scheme cs = none := by
  have hempty : ¬cs.isEmpty = true := by
    rw [List.isEmpty_iff]
    rintro rfl
    cases hlast
  rw [host?, if_neg hempty, if_pos hspecial, Host.ofSpecial?_eq_none hlast hc]
  rfl

theorem port?_eq_none (hlast : cs.getLast? = some c) (hdigit : c.isDigit = false) :
    port? scheme cs = none := by
  have hempty : ¬cs.isEmpty = true := by
    rw [List.isEmpty_iff]
    rintro rfl
    cases hlast
  have hall : ¬cs.all Char.isDigit = true := by
    intro hall
    have hc := List.all_eq_true.mp hall c (List.mem_of_getLast? hlast)
    rw [hdigit] at hc
    cases hc
  rw [port?, if_neg hempty, if_neg hall]

/-- **An authority that ends in a control character or a space is none.** -/
theorem ofAuthority?_eq_none (hspecial : isSpecial scheme = true)
    (hlast : (cs.takeWhile fun c => !isSlash true c).getLast? = some c) (hc : c.toNat ≤ 0x20) :
    ofAuthority? scheme cs query fragment = none := by
  have hat : c ≠ '@' := Text.forall_le_space (p := fun c => c ≠ '@') (by decide) hc
  have hcolon : c ≠ ':' := Text.forall_le_space (p := fun c => c ≠ ':') (by decide) hc
  have hdigit : c.isDigit = false :=
    Text.forall_le_space (p := fun c => c.isDigit = false) (by decide) hc
  have haddress := getLast?_splitUserInfo hlast hat
  rw [ofAuthority?_of_special hspecial]
  dsimp only
  split
  · rfl
  · rcases splitPort_cases (splitUserInfo (cs.takeWhile fun c => !isSlash true c)).2 with
      hwhole | ⟨host, port, hpart, hsuffix⟩
    · rw [hwhole, host?_eq_none hspecial haddress hc, Option.bind_none]
    · have hport : port.getLast? = some c := by
        rw [← Text.getLast?_of_isSuffix hsuffix (List.cons_ne_nil _ _)] at haddress
        cases port with
        | nil => exact absurd (Option.some.inj haddress).symm hcolon
        | cons d port => rwa [List.getLast?_cons_cons] at haddress
      rw [hpart]
      dsimp only
      rw [Option.getD_some, port?_eq_none hport hdigit]
      cases host? scheme host <;> rfl

/-- What is not read in an authority stays as it is given, and there are segments behind it. -/
theorem parts_of_ofAuthority? (h : ofAuthority? scheme cs query fragment = some base) :
    base.scheme = scheme ∧ base.query = query ∧ base.fragment = fragment ∧
      ∃ path, base.path = .segments (pathSegments (isSpecial scheme) path) := by
  simp only [ofAuthority?] at h
  split at h
  · cases h
  · split at h
    · obtain rfl := Option.some.inj h
      exact ⟨rfl, rfl, rfl, _, rfl⟩
    · cases h

theorem parts_of_ofFileHost? (h : ofFileHost? scheme cs query fragment = some base) :
    base.scheme = scheme ∧ base.query = query ∧ base.fragment = fragment ∧
      ∃ path, base.path = .segments (pathSegments true path) := by
  simp only [ofFileHost?] at h
  split at h
  · obtain rfl := Option.some.inj h
    exact ⟨rfl, rfl, rfl, _, rfl⟩
  · obtain ⟨host, -, rfl⟩ := Option.map_eq_some_iff.mp h
    exact ⟨rfl, rfl, rfl, _, rfl⟩

end Url
end QueryConsole
