/-
# Layouts of JSON text

A value is written in a layout: what stands in front of each element and member, and what stands behind
the colon of a member.  Compact and indented text are two layouts (`compactLayout`, `indentedLayout`).
-/

import QueryConsole.Json.Reader
import QueryConsole.Proofs.Json.Nesting

namespace QueryConsole
namespace Json

/-- Characters that may stand between the tokens of a text. -/
def Blank (cs : List Char) : Prop := ∀ c ∈ cs, isBlankPiece (.char c) = true

/-- Further parts between brackets, and the closing bracket. -/
def furtherChars (close : Char) (line lastLine : List Char) : List (List Char) → List Char
  | [] => lastLine ++ [close]
  | part :: parts => ',' :: (line ++ part) ++ furtherChars close line lastLine parts

/-- Parts between brackets: a comma between two of them, something in front of each and of the
closing bracket, and nothing at all if there is no part. -/
def bracketed (opening close : Char) (line lastLine : List Char) : List (List Char) → List Char
  | [] => [opening, close]
  | part :: parts => opening :: (line ++ part) ++ furtherChars close line lastLine parts

/-- A member: the key, and the value behind the colon. -/
def memberText (gap : List Char) (key : String) (value : List Char) : List Char :=
  stringChars key ++ ':' :: gap ++ value

/-- A way to write values, by the number of brackets around them: what stands in front of each element
and member, and behind a colon.  Scalars are written in the same way in all layouts. -/
structure Layout where
  line : Nat → List Char
  gap : List Char
  print : Nat → Json → List Char
  blank_line : ∀ depth, Blank (line depth)
  blank_gap : Blank gap
  print_scalar : ∀ depth v, v.isScalar = true → print depth v = v.chars
  print_arr : ∀ depth items, print depth (.arr items) =
    bracketed '[' ']' (line (depth + 1)) (line depth) (items.map (print (depth + 1)))
  print_obj : ∀ depth members, print depth (.obj members) =
    bracketed '\x7b' '\x7d' (line (depth + 1)) (line depth)
      (members.map fun m => memberText gap m.1 (print (depth + 1) m.2))

theorem itemChars_eq (items : List Json) :
    itemChars items = furtherChars ']' [] [] (items.map chars) := by
  induction items with
  | nil => rfl
  | cons item items ih =>
    rw [itemChars, ih]
    rfl

theorem memberChars_eq (members : List (String × Json)) :
    memberChars members =
      furtherChars '\x7d' [] [] (members.map fun m => memberText [] m.1 m.2.chars) := by
  induction members with
  | nil => rfl
  | cons m members ih =>
    obtain ⟨key, v⟩ := m
    rw [memberChars, ih, List.map_cons, furtherChars, memberText]
    simp only [List.nil_append, List.append_assoc, List.cons_append]

theorem indentedItems_eq (depth : Nat) (items : List Json) :
    indentedItems depth items =
      furtherChars ']' (newLine (depth + 1)) (newLine depth)
        (items.map (indentedChars (depth + 1))) := by
  induction items with
  | nil => rfl
  | cons item items ih => rw [indentedItems, ih, List.map_cons, furtherChars, List.cons_append]

theorem indentedMembers_eq (depth : Nat) (members : List (String × Json)) :
    indentedMembers depth members =
      furtherChars '\x7d' (newLine (depth + 1)) (newLine depth)
        (members.map fun m => memberText [' '] m.1 (m.2.indentedChars (depth + 1))) := by
  induction members with
  | nil => rfl
  | cons m members ih =>
    obtain ⟨key, v⟩ := m
    rw [indentedMembers, ih, List.map_cons, furtherChars, memberText]
    simp only [List.append_assoc, List.cons_append, List.nil_append]

/-- Compact text. -/
def compactLayout : Layout where
  line _ := []
  gap := []
  print _ := chars
  blank_line _ := List.forall_mem_nil _
  blank_gap := List.forall_mem_nil _
  print_scalar _ _ _ := rfl
  print_arr _ items := by
    cases items with
    | nil => rfl
    | cons item items =>
      rw [chars, itemChars_eq]
      rfl
  print_obj _ members := by
    cases members with
    | nil => rfl
    | cons m members =>
      obtain ⟨key, v⟩ := m
      rw [chars, memberChars_eq, List.map_cons, bracketed, memberText]
      simp only [List.append_assoc, List.cons_append, List.nil_append]

theorem blank_newLine (depth : Nat) : Blank (newLine depth) :=
  List.forall_mem_cons.mpr ⟨rfl, fun c hc => by rw [List.eq_of_mem_replicate hc]; rfl⟩

/-- Indented text. -/
def indentedLayout : Layout where
  line := newLine
  gap := [' ']
  print := indentedChars
  blank_line := blank_newLine
  blank_gap := List.forall_mem_singleton.mpr rfl
  print_scalar depth v hv := by
    cases v with
    | bool b => cases b <;> rfl
    | arr _ | obj _ => cases hv
    | _ => rfl
  print_arr depth items := by
    cases items with
    | nil => rfl
    | cons item items =>
      rw [indentedChars, indentedItems_eq]
      rfl
  print_obj depth members := by
    cases members with
    | nil => rfl
    | cons m members =>
      obtain ⟨key, v⟩ := m
      rw [indentedChars, indentedMembers_eq, List.map_cons, bracketed, memberText]
      simp only [List.append_assoc, List.cons_append, List.nil_append]

end Json
end QueryConsole
