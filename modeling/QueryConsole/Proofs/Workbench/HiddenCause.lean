/-
# Causes of failures stay hidden

Why a call failed may hold anything that a server sends.  It goes into the detail of a notification and
nowhere else: runs that differ only in why their calls fail (`Move.SameButCause`) lead to the same
workbenches and the same frames, step by step, with effects that differ only in such details
(`causes_stay_hidden`).  What a failed call does bring to the screen is the text that belongs to its
kind:

| failed call | text | where it is shown |
| --- | --- | --- |
| list of databases | `databasesFailed` | nowhere |
| schema | `schemaFailed` | in place of the schema tree |
| question | `connectionFailed` | in place of the answer |
-/

import Mathlib.Data.List.Forall2
import QueryConsole.Proofs.Workbench.Run

namespace QueryConsole

/-! ## Actions and effects -/

/-- Actions that are the same but for why a call failed. -/
inductive Action.SameButCause : Action → Action → Prop where
  | refl (action : Action) : SameButCause action action
  | databases (e e' : CallError) :
      SameButCause (.databasesLoaded (.error e)) (.databasesLoaded (.error e'))
  | schema (generation : Nat) (e e' : CallError) :
      SameButCause (.schemaLoaded generation (.error e)) (.schemaLoaded generation (.error e'))
  | query (generation : Nat) (e e' : CallError) :
      SameButCause (.querySettled generation (.error e)) (.querySettled generation (.error e'))

/-- Effects that are the same but for the detail of a notification. -/
inductive Effect.SameButDetail : Effect → Effect → Prop where
  | refl (effect : Effect) : SameButDetail effect effect
  | notify (kind : FailureKind) (message : String) (detail detail' : Option String) :
      SameButDetail (.notify ⟨kind, message, detail⟩) (.notify ⟨kind, message, detail'⟩)

theorem Effect.forall₂_sameButDetail_refl (effects : List Effect) :
    List.Forall₂ SameButDetail effects effects :=
  List.forall₂_same.mpr fun effect _ => .refl effect

/-- The kind and the cause of the failure that an action reports, if its call failed. -/
def Action.failure? : Action → Option (FailureKind × CallError)
  | databasesLoaded (.error e) => some (.databaseList, e)
  | schemaLoaded _ (.error e) => some (.schemaLoad, e)
  | querySettled _ (.error e) => some (.queryTransport, e)
  | _ => none

/-- The text of the failed calls of a kind; a question that is rejected has the text of the service. -/
def FailureKind.text? (phrases : Phrases) : FailureKind → Option String
  | databaseList => some phrases.databasesFailed
  | schemaLoad => some phrases.schemaFailed
  | queryTransport => some phrases.connectionFailed
  | queryRejected => none

namespace Console

/-- **The cause of a failure makes no difference to the console**, and to its effects only in the detail
of a notification. -/
theorem reduce_of_sameButCause (phrases : Phrases) (s : Console) {x y : Action}
    (h : x.SameButCause y) :
    (s.reduce phrases x).1 = (s.reduce phrases y).1 ∧
      List.Forall₂ Effect.SameButDetail (s.reduce phrases x).2 (s.reduce phrases y).2 := by
  cases h with
  | refl => exact ⟨rfl, Effect.forall₂_sameButDetail_refl _⟩
  | databases e e' => exact ⟨rfl, .cons (.notify ..) (.cons (.refl _) .nil)⟩
  | schema generation e e' =>
    simp only [reduce]
    split
    · exact ⟨rfl, .cons (.notify ..) .nil⟩
    · exact ⟨rfl, .nil⟩
  | query generation e e' =>
    simp only [reduce]
    split
    · exact ⟨rfl, .cons (.notify ..) .nil⟩
    · exact ⟨rfl, .nil⟩

/-- What a failed call may change of what the console shows: a list that fails leaves no databases, a
schema that fails leaves a note in its panel, and a question that fails leaves its text. -/
structure ShowsAtMost (phrases : Phrases) (kind : FailureKind) (text : String) (s t : Console) :
    Prop where
  input : t.input = s.input
  view : t.view = s.view ∨ kind.surface = .queryErrorView ∧ t.view = .error text
  databases : t.databases = s.databases ∨ t.databases = .empty
  schema : t.schema = s.schema ∨ t.schema = .loading ∨
    kind.surface = .schemaPanel ∧ t.schema = .failed ∧
      t.schema.note? phrases = some ⟨text, .error⟩

/-- **A failed call shows the text of its kind at most**, and notifies of that text and the cause. -/
theorem showsAtMost_of_failure? (phrases : Phrases) (s : Console) {action : Action}
    {kind : FailureKind} {e : CallError} (h : action.failure? = some (kind, e)) :
    ∃ text, kind.text? phrases = some text ∧
      s.ShowsAtMost phrases kind text (s.reduce phrases action).1 ∧
      ∀ n, .notify n ∈ (s.reduce phrases action).2 → n = ⟨kind, text, some e.message⟩ := by
  -- what fails too late to count leaves the console as it is
  have hstays (text : String) : s.ShowsAtMost phrases kind text s :=
    ⟨rfl, .inl rfl, .inl rfl, .inl rfl⟩
  cases action with
  | databasesLoaded result =>
    cases result with
    | ok names => cases h
    | error cause =>
      obtain ⟨rfl, rfl⟩ := Prod.mk.inj (Option.some.inj h)
      refine ⟨_, rfl, ⟨rfl, .inl rfl, .inr rfl, .inr (.inl rfl)⟩, fun n hn => ?_⟩
      obtain hn | hn := List.mem_pair.mp hn
      · exact Effect.notify.inj hn
      · cases hn
  | schemaLoaded generation result =>
    cases result with
    | ok schema => cases h
    | error cause =>
      obtain ⟨rfl, rfl⟩ := Prod.mk.inj (Option.some.inj h)
      refine ⟨_, rfl, ?_⟩
      simp only [reduce]
      split
      · refine ⟨⟨rfl, .inl rfl, .inl rfl, .inr (.inr ⟨rfl, rfl, rfl⟩)⟩, fun n hn => ?_⟩
        exact Effect.notify.inj (List.mem_singleton.mp hn)
      · exact ⟨hstays _, fun n hn => absurd hn List.not_mem_nil⟩
  | querySettled generation result =>
    cases result with
    | ok outcome => cases h
    | error cause =>
      obtain ⟨rfl, rfl⟩ := Prod.mk.inj (Option.some.inj h)
      refine ⟨_, rfl, ?_⟩
      simp only [reduce]
      split
      · refine ⟨⟨rfl, .inr ⟨rfl, rfl⟩, .inl rfl, .inl rfl⟩, fun n hn => ?_⟩
        exact Effect.notify.inj (List.mem_singleton.mp hn)
      · exact ⟨hstays _, fun n hn => absurd hn List.not_mem_nil⟩
  | _ => cases h

end Console

/-! ## Moves and runs -/

/-- Steps that are the same but for the details of notifications. -/
structure Step.SameButDetail (x y : Step) : Prop where
  bench : x.bench = y.bench
  effects : List.Forall₂ Effect.SameButDetail x.effects y.effects
  file : x.file = y.file

namespace Workbench

variable {phrases : Phrases} {b : Workbench}

/-- Moves that are the same but for why a call failed. -/
inductive Move.SameButCause : Move → Move → Prop where
  | refl (m : Move) : SameButCause m m
  | act {x y : Action} (h : x.SameButCause y) : SameButCause (.act x) (.act y)

theorem advance_of_sameButCause (phrases : Phrases) (b : Workbench) {x y : Move}
    (h : x.SameButCause y) : (b.advance phrases x).SameButDetail (b.advance phrases y) := by
  cases h with
  | refl => exact ⟨rfl, Effect.forall₂_sameButDetail_refl _, rfl⟩
  | act h =>
    obtain ⟨hconsole, heffects⟩ := Console.reduce_of_sameButCause phrases b.console h
    exact ⟨congrArg b.settle hconsole, heffects, rfl⟩

/-- **The causes of failures make no difference to a run**, step by step. -/
theorem steps_of_sameButCause {xs ys : List Move} (h : List.Forall₂ Move.SameButCause xs ys) :
    List.Forall₂ Step.SameButDetail (steps phrases b xs) (steps phrases b ys) := by
  induction h generalizing b with
  | nil => exact .nil
  | cons hm _ ih =>
    have hstep := advance_of_sameButCause phrases b hm
    rw [steps, steps]
    refine .cons hstep ?_
    rw [hstep.bench]
    exact ih

theorem after_of_sameButCause (phrases : Phrases) (b : Workbench) {xs ys : List Move}
    (h : List.Forall₂ Move.SameButCause xs ys) :
    b.after phrases xs = b.after phrases ys := by
  induction h generalizing b with
  | nil => rfl
  | cons hm _ ih => rw [after_cons, after_cons, (advance_of_sameButCause phrases b hm).bench, ih]

/-- What a failed call may change of what a workbench shows: of the texts of the console at most the one
of its kind, and nothing of the texts around the console. -/
structure ShowsAtMost (phrases : Phrases) (kind : FailureKind) (text : String) (b c : Workbench) :
    Prop where
  console : b.console.ShowsAtMost phrases kind text c.console
  message : c.message = b.message
  error : c.error = b.error
  suggestions : c.suggestions = b.suggestions
  endpoint : c.endpoint = b.endpoint

theorem showsAtMost_of_failure? (phrases : Phrases) (b : Workbench) {action : Action}
    {kind : FailureKind} {e : CallError} (h : action.failure? = some (kind, e)) :
    ∃ text, kind.text? phrases = some text ∧
      b.ShowsAtMost phrases kind text (b.dispatch phrases action).bench ∧
      ∀ n, .notify n ∈ (b.dispatch phrases action).effects → n = ⟨kind, text, some e.message⟩ := by
  obtain ⟨text, htext, hshows, heffects⟩ :=
    Console.showsAtMost_of_failure? phrases b.console h
  refine ⟨text, htext, ?_, heffects⟩
  have hbench : (b.dispatch phrases action).bench = b.settle (b.console.reduce phrases action).1 := rfl
  rw [hbench, settle_eq]
  exact ⟨hshows, rfl, rfl, rfl, rfl⟩

/-- **Causes of failures stay hidden.**  Two runs from the same workbench whose moves are the same but
for why calls failed lead to the same workbenches, with the same files, and with effects that differ
only in the details of notifications; so at every time every frame is the same.  A failed call itself
brings no more to the screen than the text that belongs to its kind. -/
theorem causes_stay_hidden (phrases : Phrases) (b : Workbench) {xs ys : List Move}
    (h : List.Forall₂ Move.SameButCause xs ys) :
    List.Forall₂ Step.SameButDetail (steps phrases b xs) (steps phrases b ys) ∧
      (∀ n, b.after phrases (xs.take n) = b.after phrases (ys.take n) ∧ ∀ width height,
        (b.after phrases (xs.take n)).draw phrases width height =
          (b.after phrases (ys.take n)).draw phrases width height) ∧
      ∀ (c : Workbench) (action : Action) (kind : FailureKind) (e : CallError),
        action.failure? = some (kind, e) → ∃ text, kind.text? phrases = some text ∧
          c.ShowsAtMost phrases kind text (c.dispatch phrases action).bench ∧
          ∀ n, .notify n ∈ (c.dispatch phrases action).effects →
            n = ⟨kind, text, some e.message⟩ := by
  refine ⟨steps_of_sameButCause h, fun n => ?_, fun c action kind e hfailure => ?_⟩
  · have hafter := after_of_sameButCause phrases b (List.forall₂_take n h)
    exact ⟨hafter, fun width height => by rw [hafter]⟩
  · exact showsAtMost_of_failure? phrases c hfailure

/-- All three calls fail, once because no reply came and once with words of the server: the question
fails in the same words. -/
theorem server_words_not_shown :
    ∃ xs ys : List Move,
      xs = [.act .startup, .act (.databasesLoaded (.error (.transport "refused"))),
        .act (.schemaLoaded 1 (.error (.invalidUrl "x"))), .act (.applySuggestion "first"),
        .act (.querySettled 1 (.error (.decode .ended)))] ∧
      ys = [.act .startup, .act (.databasesLoaded (.error (.status 500 "secret"))),
        .act (.schemaLoaded 1 (.error (.status 500 "secret"))), .act (.applySuggestion "first"),
        .act (.querySettled 1 (.error (.status 500 "secret")))] ∧
      List.Forall₂ Move.SameButCause xs ys ∧
      List.Forall₂ Step.SameButDetail
        (steps .english (start "sales" false [] "http://localhost") xs)
        (steps .english (start "sales" false [] "http://localhost") ys) ∧
      ((start "sales" false [] "http://localhost").after .english ys).console.view =
        .error "Failed to connect to the server. Is it running?" := by
  have hsame : List.Forall₂ Move.SameButCause
      [.act .startup, .act (.databasesLoaded (.error (.transport "refused"))),
        .act (.schemaLoaded 1 (.error (.invalidUrl "x"))), .act (.applySuggestion "first"),
        .act (.querySettled 1 (.error (.decode .ended)))]
      [.act .startup, .act (.databasesLoaded (.error (.status 500 "secret"))),
        .act (.schemaLoaded 1 (.error (.status 500 "secret"))), .act (.applySuggestion "first"),
        .act (.querySettled 1 (.error (.status 500 "secret")))] :=
    .cons (.refl _) <| .cons (.act (.databases _ _)) <| .cons (.act (.schema 1 _ _)) <|
      .cons (.refl _) <| .cons (.act (.query 1 _ _)) .nil
  exact ⟨_, _, rfl, rfl, hsame, (causes_stay_hidden .english _ hsame).1, by decide⟩

end Workbench
end QueryConsole
