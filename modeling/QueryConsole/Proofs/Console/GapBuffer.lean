/-
# The question box as a gap buffer

A gap buffer keeps the characters before the cursor apart from those after it.  Inserting puts a
character at the end of the first list, Backspace takes the last of it, Delete takes the first of the
second list, and moving shifts characters from one list to the other, so that the text stays what it
was (`text_run_of_isMove`).

The question box counts lines and columns instead and keeps its cursor as a number.  It is a gap
buffer all the same: cutting its text at the cursor turns every operation of the box into that of the
gap buffer (`gap_apply`).
-/

import QueryConsole.Proofs.Console.Cursor
import QueryConsole.Proofs.Text.Lines

namespace QueryConsole

/-- What is done to the question box: it gets a text, or a command is run. -/
inductive Editor.Operation where
  | setText (text : String)
  | run (command : Command)

/-- Whether a command only moves the cursor. -/
def Editor.Command.isMove : Command → Bool
  | left | right | up | down | home | toLineEnd => true
  | _ => false

/-- The characters before the cursor and those after it. -/
structure GapBuffer where
  before : List Char
  after : List Char
  deriving DecidableEq

namespace GapBuffer

/-- No text. -/
def empty : GapBuffer := ⟨[], []⟩

/-- The text. -/
def text (g : GapBuffer) : List Char := g.before ++ g.after

/-- The characters of the cursor's line before the cursor. -/
def lineBefore (g : GapBuffer) : List Char := g.before.rtakeWhile (· ≠ '\n')

/-- The characters of the cursor's line after the cursor. -/
def lineAfter (g : GapBuffer) : List Char := g.after.takeWhile (· ≠ '\n')

def insert (g : GapBuffer) (c : Char) : GapBuffer := ⟨g.before ++ [c], g.after⟩

def backspace (g : GapBuffer) : GapBuffer := ⟨g.before.dropLast, g.after⟩

def delete (g : GapBuffer) : GapBuffer := ⟨g.before, g.after.tail⟩

def left (g : GapBuffer) : GapBuffer :=
  match g.before.getLast? with
  | some c => ⟨g.before.dropLast, c :: g.after⟩
  | none => g

def right (g : GapBuffer) : GapBuffer :=
  match g.after with
  | c :: rest => ⟨g.before ++ [c], rest⟩
  | [] => g

/-- The cursor at the start of its line. -/
def home (g : GapBuffer) : GapBuffer :=
  ⟨g.before.rdropWhile (· ≠ '\n'), g.lineBefore ++ g.after⟩

/-- The cursor some characters further, but not behind the end of its line. -/
def forward (g : GapBuffer) (count : Nat) : GapBuffer :=
  ⟨g.before ++ g.lineAfter.take count, g.after.drop (g.lineAfter.take count).length⟩

/-- The cursor at the end of its line. -/
def toLineEnd (g : GapBuffer) : GapBuffer := g.forward g.lineAfter.length

/-- The cursor in the line before, as far from its start as it was. -/
def up (g : GapBuffer) : GapBuffer :=
  if g.home.before = [] then g else g.home.left.home.forward g.lineBefore.length

/-- The cursor in the line after, as far from its start as it was. -/
def down (g : GapBuffer) : GapBuffer :=
  if g.toLineEnd.after = [] then g else g.toLineEnd.right.forward g.lineBefore.length

/-- The gap buffer after a command; submitting leaves it as it is. -/
def run (g : GapBuffer) : Editor.Command → GapBuffer
  | .submit => g
  | .newline => g.insert '\n'
  | .insert c => g.insert c
  | .backspace => g.backspace
  | .delete => g.delete
  | .left => g.left
  | .right => g.right
  | .up => g.up
  | .down => g.down
  | .home => g.home
  | .toLineEnd => g.toLineEnd
  | .clear => empty

/-- The gap buffer after an operation. -/
def apply (g : GapBuffer) : Editor.Operation → GapBuffer
  | .setText text => ⟨text.toList, []⟩
  | .run command => g.run command

/-! ## Moving leaves the text -/

@[simp] theorem text_left (g : GapBuffer) : g.left.text = g.text := by
  unfold left
  split
  · rename_i c hc
    obtain ⟨front, hfront⟩ := List.getLast?_eq_some_iff.1 hc
    simp [text, hfront]
  · rfl

@[simp] theorem text_right (g : GapBuffer) : g.right.text = g.text := by
  unfold right
  split
  · rename_i c rest hafter
    simp [text, hafter]
  · rfl

@[simp] theorem text_home (g : GapBuffer) : g.home.text = g.text := by
  rw [text, home, lineBefore, ← List.append_assoc, List.rdropWhile_append_rtakeWhile, text]

@[simp] theorem text_forward (g : GapBuffer) (count : Nat) : (g.forward count).text = g.text := by
  have hprefix : g.lineAfter.take count <+: g.after :=
    (List.take_prefix count _).trans (List.takeWhile_prefix _)
  obtain ⟨rest, hrest⟩ := hprefix
  have hdrop : g.after.drop (g.lineAfter.take count).length = rest := by
    conv_lhs => rw [← hrest]
    exact List.drop_left
  rw [text, forward, hdrop, List.append_assoc, hrest, text]

/-- **Moving the cursor leaves the text as it is.** -/
theorem text_run_of_isMove (g : GapBuffer) {command : Editor.Command} (h : command.isMove = true) :
    (g.run command).text = g.text := by
  cases command with
  | left => exact text_left g
  | right => exact text_right g
  | home => exact text_home g
  | toLineEnd => exact text_forward g _
  | up =>
    rw [run, up]
    split
    · rfl
    · rw [text_forward, text_home, text_left, text_home]
  | down =>
    rw [run, down]
    split
    · rfl
    · rw [text_forward, text_right, toLineEnd, text_forward]
  | _ => cases h

/-! ## Moving by lines -/

variable {line back : List Char} {g : GapBuffer}

/-- A line end is where the text ends or a line feed stands. -/
theorem forward_eq (front : List Char) (hline : '\n' ∉ line)
    (hback : back = [] ∨ ∃ rest, back = '\n' :: rest) (count : Nat) :
    forward ⟨front, line ++ back⟩ count = ⟨front ++ line.take count, line.drop count ++ back⟩ := by
  have hafter : lineAfter ⟨front, line ++ back⟩ = line :=
    Text.takeWhile_append_of_feed_not_mem hline hback
  rw [forward, hafter, mk.injEq]
  refine ⟨rfl, ?_⟩
  rw [List.length_take, List.drop_append_of_le_length (Nat.min_le_right _ _)]
  by_cases hle : count ≤ line.length
  · rw [Nat.min_eq_left hle]
  · rw [Nat.min_eq_right (by omega), List.drop_of_length_le (Nat.le_refl _),
      List.drop_of_length_le (by omega)]

/-- The end of the line is behind what is left of the line. -/
theorem toLineEnd_eq (g : GapBuffer) :
    g.toLineEnd = ⟨g.before ++ g.lineAfter, g.after.dropWhile (· ≠ '\n')⟩ := by
  have hg : g = ⟨g.before, g.lineAfter ++ g.after.dropWhile (· ≠ '\n')⟩ := by
    rw [lineAfter, List.takeWhile_append_dropWhile]
  have h := forward_eq g.before (Text.feed_not_mem_takeWhile g.after)
    (Text.dropWhile_eq_nil_or_feed g.after) g.lineAfter.length
  rw [← lineAfter, ← hg, List.take_length, List.drop_length, List.nil_append] at h
  exact h

theorem left_concat (front after : List Char) (c : Char) :
    left ⟨front ++ [c], after⟩ = ⟨front, c :: after⟩ := by
  simp [left]

/-- The line before the one that starts behind a line feed. -/
theorem up_eq {front after : List Char} (hbefore : g.before.rdropWhile (· ≠ '\n') = front ++ ['\n'])
    (hafter : g.lineBefore ++ g.after = after) :
    g.up =
      ⟨front.rdropWhile (· ≠ '\n') ++ (front.rtakeWhile (· ≠ '\n')).take g.lineBefore.length,
        (front.rtakeWhile (· ≠ '\n')).drop g.lineBefore.length ++ '\n' :: after⟩ := by
  have hhome : g.home = ⟨front ++ ['\n'], after⟩ := by rw [home, hbefore, hafter]
  have hne : front ++ ['\n'] ≠ [] := by simp
  rw [up, hhome, if_neg hne, left_concat, home, lineBefore]
  exact forward_eq _ (Text.feed_not_mem_rtakeWhile front) (.inr ⟨after, rfl⟩) _

/-- The line behind the line feed that ends the cursor's line. -/
theorem down_eq {rest : List Char} (hafter : g.after.dropWhile (· ≠ '\n') = '\n' :: rest) :
    g.down =
      ⟨g.before ++ g.lineAfter ++ ['\n'] ++ (rest.takeWhile (· ≠ '\n')).take g.lineBefore.length,
        (rest.takeWhile (· ≠ '\n')).drop g.lineBefore.length ++ rest.dropWhile (· ≠ '\n')⟩ := by
  have hend : g.toLineEnd = ⟨g.before ++ g.lineAfter, '\n' :: rest⟩ := by rw [toLineEnd_eq, hafter]
  have hforward := forward_eq (g.before ++ g.lineAfter ++ ['\n'])
    (Text.feed_not_mem_takeWhile rest) (Text.dropWhile_eq_nil_or_feed rest) g.lineBefore.length
  rw [List.takeWhile_append_dropWhile] at hforward
  rw [down, hend, if_neg (List.cons_ne_nil _ _)]
  exact hforward

end GapBuffer

namespace Editor

/-- The text of the box cut at the cursor. -/
def gap (e : Editor) : GapBuffer := ⟨e.chars.take e.cursor, e.chars.drop e.cursor⟩

/-- The box after an operation. -/
def apply (e : Editor) : Operation → Editor
  | .setText text => .ofText text
  | .run command => e.run command

variable {e : Editor} {front line back : List Char}

theorem text_gap (e : Editor) : e.gap.text = e.chars := List.take_append_drop ..

theorem length_before_gap (e : Editor) : e.gap.before.length = e.cursor :=
  List.length_take_of_le e.cursor_le

/-- A box whose text and cursor come from two lists is cut into these lists. -/
theorem gap_eq {before after : List Char} (hchars : e.chars = before ++ after)
    (hcursor : e.cursor = before.length) : e.gap = ⟨before, after⟩ := by
  rw [gap, hchars, hcursor, List.take_left, List.drop_left]

theorem gap_place (e : Editor) (cursor : Nat) :
    (e.place cursor).gap = ⟨e.chars.take cursor, e.chars.drop cursor⟩ := by
  rw [List.take_eq_take_min, List.drop_eq_drop_min]
  rfl

/-! ## Lines of the box -/

theorem lengthWithFeeds_append (xs ys : List (List Char)) :
    lengthWithFeeds (xs ++ ys) = lengthWithFeeds xs + lengthWithFeeds ys := by
  induction xs with
  | nil => rw [List.nil_append, lengthWithFeeds, Nat.zero_add]
  | cons x xs ih =>
    rw [List.cons_append, lengthWithFeeds, ih, lengthWithFeeds]
    omega

/-- With a line feed behind each line there is one more than in the text. -/
theorem lengthWithFeeds_lines (cs : List Char) :
    lengthWithFeeds (Text.lines cs) = cs.length + 1 := by
  induction cs with
  | nil => rfl
  | cons c cs ih =>
    rw [Text.lines, List.length_cons]
    split
    · rw [lengthWithFeeds, List.length_nil, ih]
      omega
    · cases h : Text.lines cs with
      | nil => exact absurd h (Text.lines_ne_nil cs)
      | cons line rest =>
        rw [h, lengthWithFeeds] at ih
        rw [lengthWithFeeds, List.length_cons]
        omega

/-- The closed lines with their line feeds are all that is before the next line. -/
theorem lengthWithFeeds_closedLines (h : Text.EndsLine front) :
    lengthWithFeeds (Text.closedLines front) = front.length := by
  obtain rfl | ⟨front, rfl⟩ := h
  · rfl
  · rw [Text.closedLines_concat_feed, lengthWithFeeds_lines, List.length_append,
      List.length_singleton]

theorem lineColumn_concat_feed (cs : List Char) :
    lineColumn (cs ++ ['\n']) = ((lineColumn cs).1 + 1, 0) := by
  rw [lineColumn, List.foldl_append]
  rfl

/-- Characters without a line feed count in the column. -/
theorem lineColumn_append_of_feed_not_mem (cs : List Char) (h : '\n' ∉ line) :
    lineColumn (cs ++ line) = ((lineColumn cs).1, (lineColumn cs).2 + line.length) := by
  induction line generalizing cs with
  | nil => rw [List.append_nil, List.length_nil, Nat.add_zero]
  | cons c line ih =>
    obtain ⟨hc, hline⟩ := not_or.1 (mt List.mem_cons.2 h)
    have hone : lineColumn (cs ++ [c]) = ((lineColumn cs).1, (lineColumn cs).2 + 1) := by
      rw [lineColumn, List.foldl_append, List.foldl_cons, List.foldl_nil]
      exact if_neg (Ne.symm hc)
    rw [← List.singleton_append, ← List.append_assoc, ih _ hline, hone, List.length_append,
      List.length_singleton]
    exact Prod.ext rfl (Nat.add_assoc ..)

/-- The number of the line is the number of line feeds. -/
theorem lineColumn_fst (cs : List Char) : (lineColumn cs).1 = cs.count '\n' := by
  induction cs using List.reverseRecOn with
  | nil => rfl
  | append_singleton cs c ih =>
    rw [List.count_append, List.count_singleton, ← ih]
    by_cases hc : c = '\n'
    · rw [hc, lineColumn_concat_feed]
      rfl
    · rw [lineColumn_append_of_feed_not_mem cs (by simpa using Ne.symm hc)]
      simp [hc]

/-- Behind closed lines the line is their number, and the column what follows them. -/
theorem lineColumn_of_endsLine (h : Text.EndsLine front) (hline : '\n' ∉ line) :
    lineColumn (front ++ line) = ((Text.closedLines front).length, line.length) := by
  rw [lineColumn_append_of_feed_not_mem front hline]
  obtain rfl | ⟨front, rfl⟩ := h
  · exact Prod.ext rfl (Nat.zero_add _)
  · rw [lineColumn_concat_feed, lineColumn_fst, Text.closedLines_concat_feed, Text.length_lines,
      Nat.zero_add]

/-- The text of a box has a line between what is before it and what is after it. -/
structure HasLine (e : Editor) (front line back : List Char) : Prop where
  chars : e.chars = front ++ (line ++ back)
  front : Text.EndsLine front
  line : '\n' ∉ line
  back : back = [] ∨ ∃ rest, back = '\n' :: rest

namespace HasLine

/-- The lines of the box, with the given one behind the closed lines. -/
theorem exists_lines (h : e.HasLine front line back) :
    ∃ rest, Text.lines e.chars = Text.closedLines front ++ line :: rest ∧
      (rest = [] ↔ back = []) := by
  rw [h.chars, Text.lines_append_of_endsLine h.front]
  obtain rfl | ⟨rest, rfl⟩ := h.back
  · exact ⟨[], by rw [List.append_nil, Text.lines_of_feed_not_mem h.line], iff_of_true rfl rfl⟩
  · refine ⟨Text.lines rest, ?_, iff_of_false (Text.lines_ne_nil rest) (List.cons_ne_nil _ _)⟩
    rw [Text.lines_append_feed, Text.lines_of_feed_not_mem h.line, List.singleton_append]

theorem lineStart (h : e.HasLine front line back) :
    e.lineStart (Text.closedLines front).length = front.length := by
  obtain ⟨rest, hlines, -⟩ := h.exists_lines
  rw [Editor.lineStart, hlines, List.take_left, lengthWithFeeds_closedLines h.front]

theorem lineLength (h : e.HasLine front line back) :
    e.lineLength (Text.closedLines front).length = line.length := by
  obtain ⟨rest, hlines, -⟩ := h.exists_lines
  rw [Editor.lineLength, hlines, List.getElem?_append_right (Nat.le_refl _), Nat.sub_self,
    List.getElem?_cons_zero, Option.getD_some]

/-- There is a next line exactly if something follows. -/
theorem succ_lt_lineCount_iff (h : e.HasLine front line back) :
    (Text.closedLines front).length + 1 < e.lineCount ↔ back ≠ [] := by
  obtain ⟨rest, hlines, hrest⟩ := h.exists_lines
  refine Iff.trans ?_ (List.length_pos_iff.trans hrest.not)
  rw [lineCount, hlines, List.length_append, List.length_cons]
  omega

/-- **Going to a column of a line** puts the cursor behind that many characters of it, or behind all. -/
theorem gap_goTo (h : e.HasLine front line back) (column : Nat) :
    (e.goTo (Text.closedLines front).length column).gap =
      ⟨front ++ line.take column, line.drop column ++ back⟩ := by
  rw [goTo, h.lineStart, h.lineLength, gap_place, h.chars, GapBuffer.mk.injEq]
  have hle : min column line.length ≤ line.length := Nat.min_le_right _ _
  rw [List.take_length_add_append, List.drop_length_add_append, List.take_append_of_le_length hle,
    List.drop_append_of_le_length hle, ← List.take_eq_take_min, ← List.drop_eq_drop_min]
  exact ⟨rfl, rfl⟩

end HasLine

/-- The cursor's line stands in the box, between what is before it and what is after it. -/
theorem hasLine_cursor (e : Editor) :
    e.HasLine (e.gap.before.rdropWhile (· ≠ '\n')) (e.gap.lineBefore ++ e.gap.lineAfter)
      (e.gap.after.dropWhile (· ≠ '\n')) where
  chars := by
    rw [List.append_assoc, GapBuffer.lineAfter, List.takeWhile_append_dropWhile, ← List.append_assoc,
      GapBuffer.lineBefore, List.rdropWhile_append_rtakeWhile]
    exact (text_gap e).symm
  front := Text.endsLine_rdropWhile _
  line h := (List.mem_append.1 h).elim (Text.feed_not_mem_rtakeWhile _)
    (Text.feed_not_mem_takeWhile _)
  back := Text.dropWhile_eq_nil_or_feed _

/-- The cursor is in the line behind the closed ones, in the column behind its part of the line. -/
theorem position_eq (e : Editor) :
    e.position =
      ((Text.closedLines (e.gap.before.rdropWhile (· ≠ '\n'))).length,
        e.gap.lineBefore.length) := by
  have h := lineColumn_of_endsLine (Text.endsLine_rdropWhile e.gap.before)
    (Text.feed_not_mem_rtakeWhile e.gap.before)
  rw [List.rdropWhile_append_rtakeWhile] at h
  exact h

/-! ## Operations -/

theorem gap_insert (e : Editor) (c : Char) : (e.insert c).gap = e.gap.insert c := by
  refine gap_eq ?_ ?_
  · exact (List.append_cons ..)
  · rw [List.length_append, length_before_gap]
    rfl

theorem gap_backspace (e : Editor) : e.backspace.gap = e.gap.backspace := by
  have hle := e.cursor_le
  by_cases hpos : 0 < e.cursor
  · rw [backspace, dif_pos hpos]
    have hbefore : e.gap.before.dropLast = e.chars.take (e.cursor - 1) := by
      rw [List.dropLast_eq_take, length_before_gap, gap, List.take_take,
        Nat.min_eq_left (Nat.sub_le _ _)]
    refine gap_eq ?_ ?_
    · dsimp only
      rw [hbefore, List.eraseIdx_eq_take_drop_succ, Nat.sub_add_cancel hpos]
      rfl
    · dsimp only
      rw [List.length_dropLast, length_before_gap]
  · have hzero : e.cursor = 0 := by omega
    rw [backspace, dif_neg hpos, GapBuffer.backspace, gap, hzero]
    rfl

theorem gap_delete (e : Editor) : e.delete.gap = e.gap.delete := by
  by_cases hlt : e.cursor < e.chars.length
  · rw [delete, dif_pos hlt]
    refine gap_eq ?_ (length_before_gap e).symm
    dsimp only
    rw [List.eraseIdx_eq_take_drop_succ, gap, List.tail_drop]
  · rw [delete, dif_neg hlt, GapBuffer.delete, gap, List.drop_of_length_le (by omega)]
    rfl

theorem gap_left (e : Editor) : e.left.gap = e.gap.left := by
  have hlength := length_before_gap e
  have htext := text_gap e
  rw [left, gap_place, GapBuffer.left]
  rcases e.gap.before.eq_nil_or_concat with h | ⟨front, c, h⟩
  · have hzero : e.cursor = 0 := by rw [← hlength, h, List.length_nil]
    rw [h, gap, hzero]
    rfl
  · rw [List.concat_eq_append] at h
    have hcursor : e.cursor - 1 = front.length := by
      rw [← hlength, h, List.length_append, List.length_singleton, Nat.add_sub_cancel]
    rw [GapBuffer.text, h, List.append_assoc] at htext
    rw [h, List.getLast?_concat, List.dropLast_concat, ← htext, hcursor, List.take_left,
      List.drop_left]
    rfl

theorem gap_right (e : Editor) : e.right.gap = e.gap.right := by
  have hlength := length_before_gap e
  have htext := text_gap e
  rw [right, gap_place, GapBuffer.right, ← htext, GapBuffer.text, ← hlength]
  cases h : e.gap.after with
  | nil =>
    have hgap : e.gap = ⟨e.gap.before, []⟩ := by rw [← h]
    rw [List.append_nil, List.take_of_length_le (by omega), List.drop_of_length_le (by omega)]
    exact hgap.symm
  | cons c rest =>
    rw [List.take_length_add_append, List.drop_length_add_append]
    rfl

theorem gap_home (e : Editor) : e.home.gap = e.gap.home := by
  have hposition := e.position_bounds.2.2
  have hfront := e.hasLine_cursor.lineStart
  have hchars := e.hasLine_cursor.chars
  rw [e.position_eq, hfront] at hposition
  rw [home, e.position_eq, gap_place, ← hposition, Nat.add_sub_cancel, hchars, List.take_left,
    List.drop_left, GapBuffer.home, List.append_assoc, GapBuffer.lineAfter,
    List.takeWhile_append_dropWhile]

theorem gap_toLineEnd (e : Editor) : e.toLineEnd.gap = e.gap.toLineEnd := by
  have htext := text_gap e
  have hcursor : e.cursor + ((e.gap.lineBefore ++ e.gap.lineAfter).length -
      e.gap.lineBefore.length) = (e.gap.before ++ e.gap.lineAfter).length := by
    rw [List.length_append, List.length_append, length_before_gap]
    omega
  have hchars : e.chars =
      e.gap.before ++ e.gap.lineAfter ++ e.gap.after.dropWhile (· ≠ '\n') := by
    rw [List.append_assoc, GapBuffer.lineAfter, List.takeWhile_append_dropWhile, ← htext]
    rfl
  rw [toLineEnd, e.position_eq]
  dsimp only
  rw [e.hasLine_cursor.lineLength, hcursor, gap_place, hchars, List.take_left, List.drop_left,
    GapBuffer.toLineEnd_eq]

theorem gap_up (e : Editor) : e.up.gap = e.gap.up := by
  rw [up, e.position_eq]
  dsimp only
  have hchars := e.hasLine_cursor.chars
  obtain hfront | ⟨front, hfront⟩ := e.hasLine_cursor.front
  · rw [hfront, Text.closedLines_nil, List.length_nil, if_neg (Nat.lt_irrefl 0), GapBuffer.up]
    exact (if_pos hfront).symm
  · rw [List.append_assoc, GapBuffer.lineAfter, List.takeWhile_append_dropWhile] at hchars
    have hsplit : front.rdropWhile (· ≠ '\n') ++ front.rtakeWhile (· ≠ '\n') = front :=
      List.rdropWhile_append_rtakeWhile
    have hline := Text.feed_not_mem_rtakeWhile front
    have habove : e.HasLine (front.rdropWhile (· ≠ '\n')) (front.rtakeWhile (· ≠ '\n'))
        ('\n' :: (e.gap.lineBefore ++ e.gap.after)) :=
      ⟨by
        rw [← List.append_assoc (front.rdropWhile _), hsplit, hchars, hfront]
        simp only [List.append_assoc, List.singleton_append],
        Text.endsLine_rdropWhile front, hline, .inr ⟨_, rfl⟩⟩
    have hclosed := Text.closedLines_append_line (Text.endsLine_rdropWhile front) hline
    rw [hsplit] at hclosed
    rw [hfront, hclosed, List.length_append, List.length_singleton, if_pos (Nat.succ_pos _),
      Nat.add_sub_cancel, habove.gap_goTo, GapBuffer.up_eq hfront rfl]

theorem gap_down (e : Editor) : e.down.gap = e.gap.down := by
  have hcursor := e.hasLine_cursor
  rw [down, e.position_eq]
  dsimp only
  rw [if_congr hcursor.succ_lt_lineCount_iff rfl rfl]
  obtain hback | ⟨rest, hback⟩ := hcursor.back
  · rw [hback, if_neg (by simp), GapBuffer.down, GapBuffer.toLineEnd_eq]
    exact (if_pos hback).symm
  · have hbelow : e.HasLine (e.gap.before.rdropWhile (· ≠ '\n') ++
        (e.gap.lineBefore ++ e.gap.lineAfter) ++ ['\n']) (rest.takeWhile (· ≠ '\n'))
        (rest.dropWhile (· ≠ '\n')) :=
      ⟨by
        rw [List.takeWhile_append_dropWhile, hcursor.chars, hback]
        simp only [List.append_assoc, List.singleton_append],
        Text.endsLine_concat_feed _, Text.feed_not_mem_takeWhile rest,
        Text.dropWhile_eq_nil_or_feed rest⟩
    have hgoTo := hbelow.gap_goTo e.gap.lineBefore.length
    rw [Text.closedLines_append_line hcursor.front hcursor.line, List.length_append,
      List.length_singleton, ← List.append_assoc (e.gap.before.rdropWhile _), GapBuffer.lineBefore,
      List.rdropWhile_append_rtakeWhile, ← GapBuffer.lineBefore] at hgoTo
    rw [hback, if_pos (List.cons_ne_nil _ _), hgoTo, GapBuffer.down_eq hback]

/-- **Every operation of the box is that of the gap buffer.** -/
theorem gap_apply (e : Editor) (operation : Operation) :
    (e.apply operation).gap = e.gap.apply operation := by
  cases operation with
  | setText text => exact gap_eq (List.append_nil _).symm rfl
  | run command =>
    cases command with
    | submit | clear => rfl
    | newline => exact gap_insert e '\n'
    | insert c => exact gap_insert e c
    | backspace => exact gap_backspace e
    | delete => exact gap_delete e
    | left => exact gap_left e
    | right => exact gap_right e
    | up => exact gap_up e
    | down => exact gap_down e
    | home => exact gap_home e
    | toLineEnd => exact gap_toLineEnd e

end Editor
end QueryConsole
