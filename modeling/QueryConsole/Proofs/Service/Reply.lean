/-
# What a reply says of a question

An error message in the body comes first, then the status, then the decoding of the body
(`outcome_of_reply`).  The message is looked for before the body is decoded as an answer, and decoding
looks for it once more; both find the same (`errorMessage?_eq_some_iff`), so that under a status of
success the first look changes nothing.
-/

import QueryConsole.Proofs.Service.Response
import QueryConsole.Service.Server

namespace QueryConsole
namespace Reply

/-- The body of the reply is an object that reports an error message. -/
def Reports (r : Reply) (message : String) : Prop :=
  ∃ members, Json.parseBytes r.body = .ok (.obj members) ∧ Response.Reports members message

/-- The outcome of a JSON value that is decoded as an answer. -/
def decoded (v : Json) : Except CallError QueryOutcome :=
  ((Response.ofJson v).map Response.outcome).mapError fun cause => .decode (.mismatch cause)

variable {r : Reply} {message : String} {v : Json}

theorem isSuccess_iff : r.isSuccess ↔ 200 ≤ r.status ∧ r.status ≤ 299 := by
  rw [isSuccess, Bool.and_eq_true, decide_eq_true_iff, decide_eq_true_iff]

/-- The message that is looked for before decoding is that of an object. -/
theorem errorMessage?_eq_some_iff :
    errorMessage? v = some message ↔
      ∃ members, v = .obj members ∧ Response.Reports members message := by
  cases v with
  | obj members =>
    refine Response.errorMessage_filter_eq_some_iff.trans ⟨fun h => ⟨members, rfl, h⟩, ?_⟩
    rintro ⟨_, hv, h⟩
    exact Json.obj.inj hv ▸ h
  | _ => exact iff_of_false nofun (fun ⟨_, h, _⟩ => nomatch h)

/-- An object is decoded to an outcome. -/
theorem decoded_obj (members : List (String × Json)) :
    decoded (.obj members) = .ok (Response.ofFields (Json.lookup? members)).outcome := rfl

/-- The message that is found before decoding is the outcome of decoding too. -/
theorem decoded_of_errorMessage? (h : errorMessage? v = some message) :
    decoded v = .ok (.failure message) := by
  obtain ⟨members, rfl, hreports⟩ := errorMessage?_eq_some_iff.mp h
  rw [decoded_obj, Response.outcome_eq_failure_iff.mpr hreports]

theorem reports_iff (h : Json.parseBytes r.body = .ok v) :
    r.Reports message ↔ errorMessage? v = some message := by
  rw [errorMessage?_eq_some_iff, Reports, h]
  simp only [Except.ok.injEq]

theorem not_reports_iff (h : Json.parseBytes r.body = .ok v) :
    (¬∃ message, r.Reports message) ↔ errorMessage? v = none := by
  simp only [reports_iff h, Option.eq_none_iff_forall_ne_some, not_exists, ne_eq]

/-! ## The verdict -/

theorem outcome_of_reports (h : r.Reports message) : r.outcome = .ok (.failure message) := by
  obtain ⟨members, hparse, -⟩ := id h
  simp only [outcome, hparse, (reports_iff hparse).mp h]

theorem outcome_of_not_isSuccess (hstatus : ¬r.isSuccess) (h : ¬∃ message, r.Reports message) :
    r.outcome = .error (.ofStatus r.status r.body) := by
  cases hparse : Json.parseBytes r.body with
  | error problem =>
    simp only [outcome, hparse]
    exact if_neg hstatus
  | ok v =>
    simp only [outcome, hparse, (not_reports_iff hparse).mp h]
    exact if_neg hstatus

/-- Under a status of success a body that is no JSON is a problem of decoding. -/
theorem outcome_of_isSuccess_of_problem {problem : Json.Problem} (hstatus : r.isSuccess)
    (hparse : Json.parseBytes r.body = .error problem) : r.outcome = .error (.decode problem) := by
  simp only [outcome, hparse]
  exact if_pos hstatus

/-- Under a status of success the body is decoded, and nothing else counts. -/
theorem outcome_of_isSuccess (hstatus : r.isSuccess) (hparse : Json.parseBytes r.body = .ok v) :
    r.outcome = decoded v := by
  simp only [outcome, hparse]
  split
  · next h => exact (decoded_of_errorMessage? h).symm
  · rw [if_pos hstatus, decoded]
    cases Response.ofJson v <;> rfl

/-- **The verdict on a reply:** a message that the body reports, whatever the status; without one an
error of the status, with the first 200 characters of the body, unless the status is one of success.
Under a status of success the verdict is what the body is decoded to, and an object is always
decoded to an outcome. -/
theorem outcome_of_reply (r : Reply) :
    (∀ message, r.Reports message → r.outcome = .ok (.failure message)) ∧
      ((¬∃ message, r.Reports message) → ¬(200 ≤ r.status ∧ r.status ≤ 299) →
        r.outcome = .error (.status r.status (String.ofList ((Utf8.lossy r.body).take 200)))) ∧
      (200 ≤ r.status ∧ r.status ≤ 299 →
        (∀ problem, Json.parseBytes r.body = .error problem →
          r.outcome = .error (.decode problem)) ∧
        ∀ v, Json.parseBytes r.body = .ok v → r.outcome = decoded v) ∧
      ∀ members, ∃ outcome, decoded (.obj members) = .ok outcome := by
  rw [← isSuccess_iff]
  exact ⟨fun _ => outcome_of_reports, fun h hstatus => outcome_of_not_isSuccess hstatus h,
    fun hstatus => ⟨fun _ => outcome_of_isSuccess_of_problem hstatus,
      fun _ => outcome_of_isSuccess hstatus⟩,
    fun members => ⟨_, decoded_obj members⟩⟩

example : outcome ⟨500, "\x7b\"errorMessage\":\"no such table\"\x7d".toUTF8.toList⟩ =
    .ok (.failure "no such table") := by
  decide +kernel

end Reply
end QueryConsole
