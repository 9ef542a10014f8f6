/-
# One way to submit

A question is submitted by several keys, and all of them come down to one action:

| key | where | what it submits |
| --- | --- | --- |
| Ctrl+E | every panel | the box |
| Enter | the question box | the box |
| Alt and a digit | every panel | a suggestion |
| Enter, space bar | the panel of suggestions | the selected suggestion |

A suggestion is submitted by putting it into the box and submitting the box
(`applySuggestion_eq_submit`).  The panel that the key was pressed in and the suggestion that was
selected before do not matter (`applySuggestion_congr`, `submit_panel`), so no key knows more than
another one (`submission_keys_agree`).
-/

import QueryConsole.Proofs.Workbench.BlankQuestion
import QueryConsole.Proofs.Workbench.ConsoleRun

namespace QueryConsole
namespace Workbench

variable {phrases : Phrases} {outside : Outside} {b : Workbench} {p : KeyPress} {index : Nat}
  {text : String}

/-! ## What is submitted -/

/-- The workbench with a text typed into the box, in a panel. -/
def typed (b : Workbench) (text : String) (panel : Panel) : Workbench :=
  { b with panel, console := { b.console with input := .ofText text } }

/-- A suggestion that exists is put into the box, and the box becomes active. -/
theorem applySuggestion_eq (h : b.suggestions[index]? = some text) :
    b.applySuggestion phrases index =
      dispatch phrases { b.clearStatus with suggestion := index, panel := .question }
        (.applySuggestion text) := by
  rw [applySuggestion, h]

/-- Neither the active panel nor the suggestion selected before matters to a suggestion. -/
theorem applySuggestion_congr (h : b.suggestions[index]? = some text) (panel : Panel)
    (suggestion : Nat) :
    applySuggestion phrases { b with panel, suggestion } index =
      b.applySuggestion phrases index := by
  rw [applySuggestion_eq h, applySuggestion_eq (b := { b with panel, suggestion }) h]
  simp only [clearStatus]

/-- **Submitting a suggestion is submitting the box with the suggestion in it:** the console gets
into the same state, and the same calls are made. -/
theorem applySuggestion_eq_submit (phrases : Phrases) (h : b.suggestions[index]? = some text)
    (panel : Panel) :
    (b.applySuggestion phrases index).bench.console =
        ((b.typed text panel).submit phrases).bench.console ∧
      (b.applySuggestion phrases index).effects =
        ((b.typed text panel).submit phrases).effects := by
  have hreduce : b.console.reduce phrases (.applySuggestion text) =
      (b.typed text panel).console.reduce phrases .submit := rfl
  rw [applySuggestion_eq h, submit, dispatch, dispatch]
  refine ⟨?_, ?_⟩
  · rw [console_settle, console_settle]
    exact congrArg Prod.fst hreduce
  · exact congrArg Prod.snd hreduce

/-- Submitting the box leaves the active panel as it is, and does not depend on it. -/
theorem submit_panel (b : Workbench) (panel : Panel) :
    submit phrases { b with panel } =
      { b.submit phrases with bench := { (b.submit phrases).bench with panel } } := by
  simp only [submit, dispatch, settle_eq, clearStatus]

/-! ## Keys -/

/-- Alt and the digit of a suggestion; the digit of the first suggestion is 1. -/
structure IsDigitOf (p : KeyPress) (index : Nat) : Prop where
  alt : p.modifiers.alt = true
  key : p.key = .char (Char.ofNat ('1'.toNat + index))
  lt_nine : index < 9

/-- The digit is asked for as that of the suggestion. -/
theorem IsDigitOf.exists_digit (h : IsDigitOf p index) :
    ∃ digit, suggestionDigit? p = some digit ∧ digit.toNat - '1'.toNat = index := by
  have hdigit : ∀ i < 9, '1' ≤ Char.ofNat ('1'.toNat + i) ∧ Char.ofNat ('1'.toNat + i) ≤ '9' ∧
      (Char.ofNat ('1'.toNat + i)).toNat - '1'.toNat = i := by
    decide
  obtain ⟨hlow, hhigh, hvalue⟩ := hdigit index h.lt_nine
  refine ⟨_, ?_, hvalue⟩
  simp only [suggestionDigit?, h.key]
  rw [if_pos ⟨h.alt, hlow, hhigh⟩]

/-- Digits belong to no shortcut with the control key. -/
theorem isCtrl_of_suggestionDigit? {digit : Char} (h : suggestionDigit? p = some digit) {c : Char}
    (hc : '9' < c) : p.isCtrl c = false := by
  obtain ⟨key, modifiers⟩ := p
  cases key with
  | char d =>
    simp only [suggestionDigit?, Option.ite_none_right_eq_some] at h
    have hne : d ≠ c := by
      rintro rfl
      exact absurd h.1.2.2 (Char.not_le.mpr hc)
    simp [KeyPress.isCtrl, hne]
  | _ => simp [KeyPress.isCtrl]

/-- **Alt and a digit submit a suggestion** in every panel. -/
theorem handleKey_of_isDigitOf (phrases : Phrases) (outside : Outside)
    (hhelp : b.help = false) (h : IsDigitOf p index) :
    b.handleKey phrases outside p = b.applySuggestion phrases index := by
  obtain ⟨digit, hdigit, rfl⟩ := h.exists_digit
  have hctrl : ∀ c, '9' < c → p.isCtrl c = false := fun c hc => isCtrl_of_suggestionDigit? hdigit hc
  have hcommand : b.command? p = some (.suggestion digit) := by
    simp [command?, shortcut?, hctrl, h.key, hhelp, hdigit]
  exact handleKey_of_command? hcommand

/-- **Enter and the space bar submit the selected suggestion** in the panel of suggestions. -/
theorem handleKey_in_suggestions (phrases : Phrases) (outside : Outside)
    (hhelp : b.help = false) (hpanel : b.panel = .suggestions)
    (hkey : p.key = .enter ∨ p.key = .char ' ') :
    b.handleKey phrases outside p = b.applySuggestion phrases b.suggestion := by
  have happly : suggestionsCommand? p = some .apply := by
    rcases hkey with hkey | hkey
    · simp only [suggestionsCommand?, hkey]
    · simp only [suggestionsCommand?, hkey]
  have hcommand : b.command? p = some (.suggestions .apply) := by
    rw [command?_eq_panel hhelp hkey, hpanel, Panel.command?, happly, Option.map_some]
  exact handleKey_of_command? hcommand

/-! ## The way to a suggestion -/

/-- A press of a key without modifiers. -/
def press (outside : Outside) (key : Key) : Move := .event outside (.key ⟨key, .none⟩)

/-- Whether a move is a press of the Tab key or of an arrow up or down. -/
def IsWalk (outside : Outside) (m : Move) : Prop :=
  m = press outside .tab ∨ m = press outside .up ∨ m = press outside .down

/-- An arrow belongs to no shortcut, and the help popup takes it while it is open. -/
theorem command?_arrow {key : Key} (hkey : key = .up ∨ key = .down) :
    b.command? ⟨key, .none⟩ = if b.help then none else b.panel.command? ⟨key, .none⟩ := by
  rcases hkey with rfl | rfl
  · simp [command?, shortcut?, KeyPress.isCtrl, suggestionDigit?]
  · simp [command?, shortcut?, KeyPress.isCtrl, suggestionDigit?]

/-- An arrow makes no call, in whichever panel. -/
theorem effects_run_arrow {key : Key} (hkey : key = .up ∨ key = .down) {panel : Panel}
    {command : Command} (h : panel.command? ⟨key, .none⟩ = some command) :
    (b.run phrases outside command).effects = [] := by
  have hstay {c : Prop} [Decidable c] (x y : Workbench) :
      (if c then stay x else stay y).effects = [] := by
    split <;> rfl
  rcases hkey with rfl | rfl
  · cases panel <;> obtain rfl := Option.some.inj h <;> rfl
  · cases panel with
    | question | results =>
      obtain rfl := Option.some.inj h
      rfl
    | schema | suggestions =>
      obtain rfl := Option.some.inj h
      exact hstay _ b

/-- **Such a press makes no call.** -/
theorem effects_of_isWalk {m : Move} (h : IsWalk outside m) :
    (b.advance phrases m).effects = [] := by
  have harrow (key : Key) (hkey : key = .up ∨ key = .down) :
      (b.handleKey phrases outside ⟨key, .none⟩).effects = [] := by
    rw [handleKey, command?_arrow hkey]
    split
    · rename_i command hcommand
      rw [Option.ite_none_left_eq_some] at hcommand
      exact effects_run_arrow hkey hcommand.2
    · rfl
  rcases h with rfl | rfl | rfl
  · simp only [press, advance, handleEvent, handleKey, command?, shortcut?, KeyPress.isCtrl]
    cases b.help <;> rfl
  · exact harrow .up (.inl rfl)
  · exact harrow .down (.inr rfl)

theorem effects_steps_of_isWalk {moves : List Move} (h : ∀ m ∈ moves, IsWalk outside m) :
    ∀ step ∈ b.steps phrases moves, step.effects = [] := by
  induction moves generalizing b with
  | nil => exact List.forall_mem_nil _
  | cons m moves ih =>
    obtain ⟨hm, hmoves⟩ := List.forall_mem_cons.mp h
    exact List.forall_mem_cons.mpr ⟨effects_of_isWalk hm, ih hmoves⟩

theorem advance_tab (hhelp : b.help = false) :
    b.advance phrases (press outside .tab) = stay { b with panel := b.panel.next } := by
  have hcommand : b.command? ⟨.tab, .none⟩ = some .nextPanel := by
    simp [command?, shortcut?, KeyPress.isCtrl, hhelp]
  exact handleKey_of_command? hcommand

theorem advance_up (hhelp : b.help = false) (hpanel : b.panel = .suggestions) :
    b.advance phrases (press outside .up) = stay { b with suggestion := b.suggestion - 1 } := by
  have hcommand : b.command? ⟨.up, .none⟩ = some (.suggestions .up) := by
    rw [command?_arrow (.inl rfl), if_neg (Bool.eq_false_iff.mp hhelp), hpanel]
    rfl
  exact handleKey_of_command? hcommand

theorem advance_down (hhelp : b.help = false) (hpanel : b.panel = .suggestions)
    (hlt : b.suggestion + 1 < b.suggestions.length) :
    b.advance phrases (press outside .down) = stay { b with suggestion := b.suggestion + 1 } := by
  have hcommand : b.command? ⟨.down, .none⟩ = some (.suggestions .down) := by
    rw [command?_arrow (.inr rfl), if_neg (Bool.eq_false_iff.mp hhelp), hpanel]
    rfl
  exact (handleKey_of_command? hcommand).trans (if_pos hlt)

/-- The Tab key goes from every panel to the suggestions. -/
theorem after_tabs (phrases : Phrases) (outside : Outside) (hhelp : b.help = false) :
    ∃ n, b.after phrases (List.replicate n (press outside .tab)) =
      { b with panel := .suggestions } := by
  have hnext (c : Workbench) (hc : c.help = false) :
      (c.advance phrases (press outside .tab)).bench = { c with panel := c.panel.next } :=
    congrArg Step.bench (advance_tab hc)
  cases hpanel : b.panel with
  | question =>
    refine ⟨3, ?_⟩
    simp [List.replicate, hnext, hhelp, hpanel, Panel.next]
  | results =>
    refine ⟨2, ?_⟩
    simp [List.replicate, hnext, hhelp, hpanel, Panel.next]
  | schema =>
    refine ⟨1, ?_⟩
    simp [List.replicate, hnext, hhelp, hpanel, Panel.next]
  | suggestions =>
    refine ⟨0, ?_⟩
    rw [List.replicate_zero, after_nil, ← hpanel]

/-- The arrow up goes to the first suggestion. -/
theorem after_ups (phrases : Phrases) (outside : Outside) (hhelp : b.help = false)
    (hpanel : b.panel = .suggestions) (n : Nat) :
    b.after phrases (List.replicate n (press outside .up)) =
      { b with suggestion := b.suggestion - n } := by
  induction n generalizing b with
  | zero => rfl
  | succ n ih =>
    rw [List.replicate_succ, after_cons, advance_up hhelp hpanel, stay]
    dsimp only
    rw [ih (b := { b with suggestion := b.suggestion - 1 }) hhelp hpanel]
    simp only [Nat.sub_sub, Nat.add_comm 1]

/-- The arrow down goes from one suggestion to the next. -/
theorem after_downs (phrases : Phrases) (outside : Outside) (hhelp : b.help = false)
    (hpanel : b.panel = .suggestions) {n : Nat}
    (hlt : b.suggestion + n < b.suggestions.length) :
    b.after phrases (List.replicate n (press outside .down)) =
      { b with suggestion := b.suggestion + n } := by
  induction n generalizing b with
  | zero => rfl
  | succ n ih =>
    rw [List.replicate_succ, after_cons, advance_down hhelp hpanel (by omega), stay]
    dsimp only
    have hrest : b.suggestion + 1 + n < b.suggestions.length := by omega
    rw [ih (b := { b with suggestion := b.suggestion + 1 }) hhelp hpanel hrest]
    simp only [Nat.add_assoc, Nat.add_comm 1]

/-- **Every suggestion can be selected by keys** that change nothing but the panel and the
selection. -/
theorem exists_walk (phrases : Phrases) (outside : Outside) (hhelp : b.help = false)
    (h : index < b.suggestions.length) :
    ∃ moves, (∀ m ∈ moves, IsWalk outside m) ∧
      b.after phrases moves = { b with panel := .suggestions, suggestion := index } ∧
      ∀ step ∈ b.steps phrases moves, step.effects = [] := by
  obtain ⟨n, htabs⟩ := after_tabs phrases outside hhelp
  have hups := after_ups phrases outside (b := { b with panel := .suggestions }) hhelp rfl
    b.suggestion
  have hzero : 0 + index < b.suggestions.length := by omega
  have hdowns := after_downs phrases outside
    (b := { b with panel := .suggestions, suggestion := 0 }) hhelp rfl hzero
  let moves := List.replicate n (press outside .tab) ++
    (List.replicate b.suggestion (press outside .up) ++
      List.replicate index (press outside .down))
  have hwalk : ∀ m ∈ moves, IsWalk outside m := by
    intro m hm
    rcases List.mem_append.mp hm with hm | hm
    · exact .inl (List.eq_of_mem_replicate hm)
    · rcases List.mem_append.mp hm with hm | hm
      · exact .inr (.inl (List.eq_of_mem_replicate hm))
      · exact .inr (.inr (List.eq_of_mem_replicate hm))
  refine ⟨moves, hwalk, ?_, effects_steps_of_isWalk hwalk⟩
  rw [after_append, after_append, htabs, hups, Nat.sub_self, hdowns, Nat.zero_add]

/-! ## All keys -/

/-- **All keys that submit are one.**  While the help popup is closed, each of the first nine
suggestions can be selected by keys that do nothing else.  Enter or the space bar on it, and Alt with
its digit in any panel, lead to the same step: the same workbench with the same calls.  The console and
the calls are those of Ctrl+E in any panel, or Enter in the question box, with the suggestion typed into
the box.  And Ctrl+E in any panel does what Enter in the question box does,
whatever the box holds, without leaving the panel. -/
theorem submission_keys_agree (phrases : Phrases) (outside : Outside) (hhelp : b.help = false) :
    (∀ index text, index < 9 → b.suggestions[index]? = some text →
      (∃ moves, (∀ m ∈ moves, IsWalk outside m) ∧
        b.after phrases moves = { b with panel := .suggestions, suggestion := index } ∧
        ∀ step ∈ b.steps phrases moves, step.effects = []) ∧
      ∀ panel digit, IsDigitOf digit index →
        (∀ p : KeyPress, p.key = .enter ∨ p.key = .char ' ' →
          handleKey phrases outside { b with panel := .suggestions, suggestion := index } p =
            handleKey phrases outside { b with panel } digit) ∧
        ∀ panel' p, (b.typed text panel').SubmitsBox p →
          ((b.typed text panel').handleKey phrases outside p).bench.console =
              (handleKey phrases outside { b with panel } digit).bench.console ∧
            ((b.typed text panel').handleKey phrases outside p).effects =
              (handleKey phrases outside { b with panel } digit).effects) ∧
      ∀ panel (everywhere enter : KeyPress), everywhere.isCtrl 'e' = true →
        enter.key = .enter → enter.modifiers.shift = false → enter.modifiers.alt = false →
        let step := handleKey phrases outside { b with panel := .question } enter
        handleKey phrases outside { b with panel } everywhere =
          { step with bench := { step.bench with panel } } := by
  refine ⟨?_, ?_⟩
  · intro index text hindex htext
    have hlt : index < b.suggestions.length := (List.getElem?_eq_some_iff.mp htext).1
    refine ⟨exists_walk phrases outside hhelp hlt, ?_⟩
    intro panel digit hdigit
    have hstep : handleKey phrases outside { b with panel } digit =
        b.applySuggestion phrases index := by
      have hkey := handleKey_of_isDigitOf phrases outside (b := { b with panel }) hhelp hdigit
      exact hkey.trans (applySuggestion_congr htext panel b.suggestion)
    rw [hstep]
    refine ⟨?_, ?_⟩
    · intro p hkey
      have hchosen := handleKey_in_suggestions phrases outside
        (b := { b with panel := .suggestions, suggestion := index }) hhelp rfl hkey
      exact hchosen.trans (applySuggestion_congr htext .suggestions index)
    · intro panel' p hp
      have hbox : (b.typed text panel').handleKey phrases outside p =
          (b.typed text panel').submit phrases := handleKey_of_submitsBox hhelp hp
      obtain ⟨hconsole, heffects⟩ := applySuggestion_eq_submit phrases htext panel'
      rw [hbox]
      exact ⟨hconsole.symm, heffects.symm⟩
  · intro panel everywhere enter heverywhere henter hshift halt
    have hleft : handleKey phrases outside { b with panel } everywhere =
        submit phrases { b with panel } := handleKey_of_submitsBox hhelp (.inl heverywhere)
    have hright : handleKey phrases outside { b with panel := .question } enter =
        submit phrases { b with panel := .question } :=
      handleKey_of_submitsBox hhelp (.inr ⟨rfl, henter, hshift, halt⟩)
    dsimp only
    rw [hleft, hright, submit_panel b panel, submit_panel b .question]

/-- The second suggestion, sent from the schema panel and from its own line. -/
theorem second_suggestion_sent :
    let b := start "sales" false ["list orders", "how many plants?"] "http://localhost"
    let digit : KeyPress := ⟨.char '2', ⟨false, true, false⟩⟩
    b.help = false ∧ b.suggestions[1]? = some "how many plants?" ∧
      handleKey .english willing { b with panel := .suggestions, suggestion := 1 } ⟨.enter, .none⟩ =
        handleKey .english willing { b with panel := .schema } digit ∧
      (handleKey .english willing { b with panel := .schema } digit).effects =
        [.submitQuery 1 ⟨"how many plants?", none⟩] := by
  intro b digit
  have hhelp : b.help = false := rfl
  have htext : b.suggestions[1]? = some "how many plants?" := rfl
  have hdigit : IsDigitOf digit 1 := ⟨rfl, rfl, by decide⟩
  have hsame := ((submission_keys_agree .english willing hhelp).1 1 _ (by decide) htext).2 .schema
    digit hdigit
  exact ⟨hhelp, htext, hsame.1 ⟨.enter, .none⟩ (.inl rfl), by decide⟩

end Workbench
end QueryConsole
