/-
# Members of objects

What `lookup?` finds in members whose values are changed or of which some are left out, and what
`put` does to their keys and values.
-/

import Mathlib.Data.List.Nodup
import QueryConsole.Json.Basic

namespace QueryConsole
namespace Json

variable {members : List (String × Json)} {key : String} {value : Json}

/-! ## Looking up -/

@[simp] theorem lookup?_nil (key : String) : lookup? [] key = none := rfl

theorem lookup?_cons (k : String) (v : Json) (members : List (String × Json)) (key : String) :
    lookup? ((k, v) :: members) key = if k = key then some v else lookup? members key := by
  simp only [lookup?, List.find?_cons]
  by_cases h : k = key
  · simp only [h, decide_true, if_true, Option.map_some]
  · simp only [h, decide_false, if_false]

/-- What is found is a member. -/
theorem mem_of_lookup? (h : lookup? members key = some value) : (key, value) ∈ members := by
  induction members with
  | nil => cases h
  | cons m members ih =>
    obtain ⟨k, v⟩ := m
    rw [lookup?_cons] at h
    split at h
    · next hk =>
      obtain rfl := Option.some.inj h
      exact hk ▸ List.mem_cons_self
    · exact List.mem_cons_of_mem _ (ih h)

/-- Changing the values changes what is found. -/
theorem lookup?_map (f : String → Json → Json) (members : List (String × Json)) (key : String) :
    lookup? (members.map fun m => (m.1, f m.1 m.2)) key = (lookup? members key).map (f key) := by
  induction members with
  | nil => rfl
  | cons m members ih =>
    obtain ⟨k, v⟩ := m
    rw [List.map_cons, lookup?_cons, lookup?_cons, ih]
    split
    · next hk => rw [hk, Option.map_some]
    · rfl

/-- Leaving out members by their keys leaves the others where they are found. -/
theorem lookup?_filter (p : String → Bool) (members : List (String × Json)) (key : String) :
    lookup? (members.filter fun m => p m.1) key = if p key then lookup? members key else none := by
  induction members with
  | nil => rw [List.filter_nil, lookup?_nil, ite_self]
  | cons m members ih =>
    obtain ⟨k, v⟩ := m
    rw [List.filter_cons, lookup?_cons]
    by_cases hk : k = key
    · subst hk
      by_cases hp : p k
      · rw [if_pos hp, lookup?_cons, if_pos rfl, if_pos rfl, if_pos hp]
      · rw [if_neg hp, ih, if_neg hp, if_neg hp]
    · rw [if_neg hk, ← ih]
      split
      · rw [lookup?_cons, if_neg hk]
      · rfl

/-- A key is found exactly if a member has it. -/
theorem lookup?_isSome_iff (members : List (String × Json)) (key : String) :
    (lookup? members key).isSome ↔ key ∈ members.map Prod.fst := by
  induction members with
  | nil => exact iff_of_false Bool.false_ne_true List.not_mem_nil
  | cons m members ih =>
    obtain ⟨k, v⟩ := m
    rw [lookup?_cons, List.map_cons, List.mem_cons]
    by_cases hk : k = key
    · simp [hk]
    · rw [if_neg hk, ih]
      exact ⟨.inr, fun h => h.resolve_left (Ne.symm hk)⟩

/-- The value of a name in a list of names is the one at its place. -/
theorem lookup?_zip {names : List String} {name : String} (h : name ∈ names)
    (items : List Json) : lookup? (names.zip items) name = items[names.idxOf name]? := by
  induction names generalizing items with
  | nil => exact absurd h List.not_mem_nil
  | cons other names ih =>
    cases items with
    | nil => rfl
    | cons v items =>
      rw [List.zip_cons_cons, lookup?_cons, List.idxOf_cons]
      by_cases hname : other = name
      · rw [if_pos hname, hname, beq_self_eq_true, cond_true, List.getElem?_cons_zero]
      · rw [if_neg hname, beq_false_of_ne hname, cond_false, List.getElem?_cons_succ,
          ih ((List.mem_cons.mp h).resolve_left (Ne.symm hname))]

/-! ## Putting -/

/-- A key that is put is the last one if it is new. -/
theorem keys_put (members : List (String × Json)) (key : String) (value : Json) :
    (put members key value).map Prod.fst =
      if key ∈ members.map Prod.fst then members.map Prod.fst
      else members.map Prod.fst ++ [key] := by
  induction members with
  | nil => rfl
  | cons m members ih =>
    obtain ⟨k, v⟩ := m
    rw [put]
    by_cases hk : k = key
    · simp only [hk, if_true, List.map_cons, List.mem_cons, true_or]
    · have hne : key ≠ k := fun h => hk h.symm
      simp only [hk, if_false, List.map_cons, ih, List.mem_cons, hne, false_or]
      split <;> rfl

theorem nodup_keys_put (h : (members.map Prod.fst).Nodup) (key : String) (value : Json) :
    ((put members key value).map Prod.fst).Nodup := by
  rw [keys_put]
  split
  · exact h
  · next hnew => exact List.nodup_append_comm.mp (List.nodup_cons.mpr ⟨hnew, h⟩)

/-- A member after `put` is one from before or has the value that was put. -/
theorem mem_put {m : String × Json} (h : m ∈ put members key value) :
    m ∈ members ∨ m = (key, value) := by
  induction members with
  | nil => exact .inr (List.mem_singleton.mp h)
  | cons m' members ih =>
    obtain ⟨k, v⟩ := m'
    rw [put] at h
    split at h
    · next hk =>
      obtain rfl | hm := List.mem_cons.mp h
      · exact .inr (hk ▸ rfl)
      · exact .inl (List.mem_cons_of_mem _ hm)
    · obtain rfl | hm := List.mem_cons.mp h
      · exact .inl List.mem_cons_self
      · exact (ih hm).imp_left (List.mem_cons_of_mem _)

/-- A new key is put behind the others. -/
theorem put_of_not_mem (h : key ∉ members.map Prod.fst) (value : Json) :
    put members key value = members ++ [(key, value)] := by
  induction members with
  | nil => rfl
  | cons m members ih =>
    obtain ⟨k, v⟩ := m
    obtain ⟨hk, hkeys⟩ := not_or.mp (mt List.mem_cons.mpr h)
    rw [put, if_neg (Ne.symm hk), ih hkeys, List.cons_append]

/-- Members of keys that differ are put one behind the other. -/
theorem foldl_put_of_nodup {ms before : List (String × Json)}
    (h : ((before ++ ms).map Prod.fst).Nodup) :
    ms.foldl (fun ms (k, v) => put ms k v) before = before ++ ms := by
  induction ms generalizing before with
  | nil => rw [List.foldl_nil, List.append_nil]
  | cons m ms ih =>
    obtain ⟨k, v⟩ := m
    have hassoc : before ++ (k, v) :: ms = before ++ [(k, v)] ++ ms := List.append_cons ..
    have hnew : k ∉ before.map Prod.fst := by
      rw [List.map_append, List.nodup_append] at h
      exact fun hk => h.2.2 k hk k List.mem_cons_self rfl
    rw [hassoc] at h ⊢
    rw [List.foldl_cons]
    dsimp only
    rw [put_of_not_mem hnew, ih h]

/-- Members of keys that differ make an object of just these members. -/
theorem ofMembers_of_nodup {ms : List (String × Json)} (h : (ms.map Prod.fst).Nodup) :
    ofMembers ms = .obj ms := congrArg Json.obj (foldl_put_of_nodup h)

end Json
end QueryConsole
