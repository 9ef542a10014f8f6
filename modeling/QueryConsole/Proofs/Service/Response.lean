/-
# Answers field by field

Every object is an answer, whatever its members are (`decoded_field_by_field`).  A field is what the
member of its name is, and nothing if that is of another type; no field depends on another member, and
so a member of a wrong type is as good as none.  A text for `errorMessage` that is not empty makes the
answer a failure (`Reports`); any other answer is a success with the other fields (`Describes`).

The rows of an answer are all or nothing: one element that is no object, and there are no rows
(`IsRows`).
-/

import QueryConsole.Proofs.Json.WellFormed
import QueryConsole.Service.Response

namespace QueryConsole

/-! ## Values of a type -/

/-- A text, as a JSON value. -/
def IsText (v : Json) (s : String) : Prop := v = .str s

/-- A double, as a JSON value. -/
inductive IsNumber : Json → Double → Prop where
  | int (n : Int) : IsNumber (.int n) (.ofInt n)
  | double (d : Double) : IsNumber (.double d) d

/-- Rows, as a JSON value: an array of objects, each with a cell for every member. -/
def IsRows (v : Json) (rows : List Row) : Prop :=
  ∃ objects : List (List (String × Json)), v = .arr (objects.map Json.obj) ∧
    rows = objects.map fun members => ⟨members.map fun m => (m.1, Cell.ofJson m.2)⟩

theorem string?_eq_some_iff (v : Json) (s : String) : v.string? = some s ↔ IsText v s := by
  cases v with
  | str s' => exact ⟨fun h => congrArg Json.str (Option.some.inj h), fun h => by cases h; rfl⟩
  | _ => exact iff_of_false nofun nofun

theorem number?_eq_some_iff (v : Json) (d : Double) : v.number? = some d ↔ IsNumber v d := by
  refine ⟨fun h => ?_, fun h => by cases h <;> rfl⟩
  cases v with
  | int n => exact Option.some.inj h ▸ .int n
  | double d' => exact Option.some.inj h ▸ .double d'
  | _ => cases h

/-- The row of a value is that of an object. -/
theorem Row.ofJson?_eq_some_iff {v : Json} {row : Row} :
    Row.ofJson? v = some row ↔ ∃ members, v = .obj members ∧ row = Row.ofMembers members := by
  cases v with
  | obj members =>
    refine ⟨fun h => ⟨members, rfl, (Option.some.inj h).symm⟩, ?_⟩
    rintro ⟨_, hmembers, rfl⟩
    cases hmembers
    rfl
  | _ => exact iff_of_false nofun nofun

/-- The rows of elements are those of objects, one for one. -/
theorem mapM_ofJson?_eq_some_iff {items : List Json} {rows : List Row} :
    items.mapM Row.ofJson? = some rows ↔
      ∃ objects : List (List (String × Json)), items = objects.map Json.obj ∧
        rows = objects.map Row.ofMembers := by
  induction items generalizing rows with
  | nil =>
    rw [List.mapM_nil]
    refine ⟨fun h => ⟨[], rfl, (Option.some.inj h).symm⟩, ?_⟩
    rintro ⟨objects, hitems, rfl⟩
    rw [List.map_eq_nil_iff.mp hitems.symm]
    rfl
  | cons v items ih =>
    rw [List.mapM_cons]
    constructor
    · intro h
      obtain ⟨row, hrow, h⟩ := Option.bind_eq_some_iff.mp h
      obtain ⟨rows', hrows', h⟩ := Option.bind_eq_some_iff.mp h
      obtain rfl := Option.some.inj h
      obtain ⟨members, rfl, rfl⟩ := Row.ofJson?_eq_some_iff.mp hrow
      obtain ⟨objects, rfl, rfl⟩ := ih.mp hrows'
      exact ⟨members :: objects, rfl, rfl⟩
    · rintro ⟨objects, hitems, rfl⟩
      obtain ⟨members, objects, rfl, rfl, rfl⟩ := List.map_eq_cons_iff.mp hitems.symm
      refine Option.bind_eq_some_iff.mpr ⟨Row.ofMembers members, rfl, ?_⟩
      exact Option.bind_eq_some_iff.mpr ⟨_, ih.mpr ⟨objects, rfl, rfl⟩, rfl⟩

theorem Response.rows?_eq_some_iff (v : Json) (rows : List Row) :
    Response.rows? v = some rows ↔ IsRows v rows := by
  cases v with
  | arr items =>
    refine mapM_ofJson?_eq_some_iff.trans ⟨?_, ?_⟩
    · rintro ⟨objects, rfl, rfl⟩
      exact ⟨objects, rfl, rfl⟩
    · rintro ⟨objects, hitems, rfl⟩
      exact ⟨objects, Json.arr.inj hitems, rfl⟩
  | _ => exact iff_of_false nofun (fun ⟨_, h, _⟩ => nomatch h)

namespace Response

/-! ## Fields -/

/-- What a field holds: what the member of its name is, or nothing where no member of that name is of
the type of the field. -/
def Field {α : Type} (Is : Json → α → Prop) (members : List (String × Json)) (name : String)
    (x? : Option α) : Prop :=
  ∀ x, x? = some x ↔ ∃ v, Json.lookup? members name = some v ∧ Is v x

/-- The object reports an error message, which is not empty. -/
def Reports (members : List (String × Json)) (message : String) : Prop :=
  Json.lookup? members "errorMessage" = some (.str message) ∧ message ≠ ""

/-- What a success tells of the members of an object, each part of its own member alone. -/
structure Describes (members : List (String × Json)) (s : QuerySuccess) : Prop where
  intent : Field IsText members "intent" s.intent
  generatedQuery : Field IsText members "generatedQuery" s.generatedQuery
  executionTimeMs : ∃ d?, Field IsNumber members "executionTimeMs" d? ∧
    s.executionTimeMs = d?.getD ⟨0⟩
  rowCount : ∃ d?, Field IsNumber members "rowCount" d? ∧ s.rowCount = d?.getD ⟨0⟩
  confidence : Field IsNumber members "confidence" s.confidence
  results : ∃ rows?, Field IsRows members "results" rows? ∧ s.results = rows?.getD []

/-- The types of the fields; there is no other field. -/
def Suits (name : String) (v : Json) : Prop :=
  (name ∈ ["intent", "generatedQuery", "errorMessage"] ∧ ∃ s, IsText v s) ∨
    (name ∈ ["executionTimeMs", "rowCount", "confidence"] ∧ ∃ d, IsNumber v d) ∨
    (name = "results" ∧ ∃ rows, IsRows v rows)

section
variable {α : Type} {Is : Json → α → Prop} {read : Json → Option α}
  {members : List (String × Json)} {name : String} {x? y? : Option α}

/-- A field holds what is read for it. -/
theorem field_bind (hread : ∀ v x, read v = some x ↔ Is v x) (members : List (String × Json))
    (name : String) : Field Is members name ((Json.lookup? members name).bind read) := by
  intro x
  simp only [Option.bind_eq_some_iff, hread]

theorem Field.unique (hx : Field Is members name x?) (hy : Field Is members name y?) : x? = y? :=
  Option.ext fun x => (hx x).trans (hy x).symm

theorem Field.getD_unique {default y z : α}
    (hy : ∃ x?, Field Is members name x? ∧ y = x?.getD default)
    (hz : ∃ x?, Field Is members name x? ∧ z = x?.getD default) : y = z := by
  obtain ⟨_, hx, rfl⟩ := hy
  obtain ⟨_, hx', rfl⟩ := hz
  rw [hx.unique hx']

/-- A member of a wrong type is read as no member is. -/
theorem bind_mistyped {wrong : String → Option Json} (hread : ∀ v x, read v = some x ↔ Is v x)
    (hwrong : ∀ v, wrong name = some v → ∀ x, ¬Is v x) (members : List (String × Json)) :
    (Json.lookup? (members.map fun m => (m.1, (wrong m.1).getD m.2)) name).bind read =
      (Json.lookup? (members.filter fun m => (wrong m.1).isNone) name).bind read := by
  rw [Json.lookup?_map (fun name v => (wrong name).getD v),
    Json.lookup?_filter fun name => (wrong name).isNone]
  cases hname : wrong name with
  | none => simp only [Option.isNone_none, if_true, Option.getD_none, Option.map_id']
  | some v =>
    rw [Option.isNone_some, if_neg Bool.false_ne_true, Option.bind_none]
    cases Json.lookup? members name with
    | none => rfl
    | some _ =>
      exact Option.eq_none_iff_forall_ne_some.mpr fun x hx => hwrong v hname x ((hread v x).mp hx)

end

variable {members : List (String × Json)}

/-- Members of wrong types are read as if they were left out. -/
theorem ofFields_mistyped {wrong : String → Option Json}
    (hwrong : ∀ name v, wrong name = some v → ¬Suits name v) :
    ofFields (Json.lookup? (members.map fun m => (m.1, (wrong m.1).getD m.2))) =
      ofFields (Json.lookup? (members.filter fun m => (wrong m.1).isNone)) := by
  have htext (name) (hname : name ∈ ["intent", "generatedQuery", "errorMessage"]) :=
    bind_mistyped string?_eq_some_iff
      (fun v hv s hs => hwrong name v hv (.inl ⟨hname, s, hs⟩)) members
  have hnumber (name) (hname : name ∈ ["executionTimeMs", "rowCount", "confidence"]) :=
    bind_mistyped number?_eq_some_iff
      (fun v hv d hd => hwrong name v hv (.inr (.inl ⟨hname, d, hd⟩))) members
  have hrows := bind_mistyped rows?_eq_some_iff
    (fun v hv rows hrows => hwrong "results" v hv (.inr (.inr ⟨rfl, rows, hrows⟩))) members
  simp only [ofFields, htext "intent" (by decide), htext "generatedQuery" (by decide),
    htext "errorMessage" (by decide), hnumber "executionTimeMs" (by decide),
    hnumber "rowCount" (by decide), hnumber "confidence" (by decide), hrows]

/-! ## Outcomes -/

/-- The error message that is read is the one that is reported. -/
theorem errorMessage_filter_eq_some_iff {message : String} :
    (ofFields (Json.lookup? members)).errorMessage.filter (· ≠ "") = some message ↔
      Reports members message := by
  rw [Option.filter_eq_some_iff, decide_eq_true_iff, Reports]
  refine and_congr_left fun _ => (field_bind string?_eq_some_iff members _ message).trans ?_
  exact ⟨fun ⟨v, hv, htext⟩ => htext ▸ hv, fun h => ⟨_, h, rfl⟩⟩

/-- An object is a failure with the message that it reports. -/
theorem outcome_eq_failure_iff {message : String} :
    (ofFields (Json.lookup? members)).outcome = .failure message ↔ Reports members message := by
  rw [← errorMessage_filter_eq_some_iff, outcome]
  split
  · next h => rw [h, QueryOutcome.failure.injEq, Option.some.injEq]
  · next h => exact iff_of_false nofun (by rw [h]; nofun)

theorem finiteOrZero_eq {d? : Option Double} (h : ∀ d, d? = some d → d.isFinite) :
    finiteOrZero d? = d?.getD ⟨0⟩ := by
  cases d? with
  | none => rfl
  | some d => exact if_pos (h d rfl)

/-- A number of a well-formed object is taken as it is, and zero where there is none. -/
theorem exists_field_finiteOrZero (h : (Json.obj members).WellFormed) (name : String) :
    ∃ d?, Field IsNumber members name d? ∧
      finiteOrZero ((Json.lookup? members name).bind Json.number?) = d?.getD ⟨0⟩ := by
  refine ⟨_, field_bind number?_eq_some_iff members name, finiteOrZero_eq fun d hd => ?_⟩
  obtain ⟨v, hv, hd⟩ := Option.bind_eq_some_iff.mp hd
  exact (h.of_lookup? hv).isFinite hd

/-- An object describes no more than one success. -/
theorem Describes.unique {s s' : QuerySuccess} (h : Describes members s)
    (h' : Describes members s') : s = s' := by
  cases s
  cases s'
  rw [QuerySuccess.mk.injEq]
  exact ⟨h.intent.unique h'.intent, h.generatedQuery.unique h'.generatedQuery,
    Field.getD_unique h.executionTimeMs h'.executionTimeMs,
    Field.getD_unique h.rowCount h'.rowCount, h.confidence.unique h'.confidence,
    Field.getD_unique h.results h'.results⟩

/-- What is read of a well-formed object describes it. -/
theorem describes_ofFields (h : (Json.obj members).WellFormed) :
    let r := ofFields (Json.lookup? members)
    Describes members ⟨r.intent, r.generatedQuery, finiteOrZero r.executionTimeMs,
      finiteOrZero r.rowCount, r.confidence, r.results.getD []⟩ where
  intent := field_bind string?_eq_some_iff members _
  generatedQuery := field_bind string?_eq_some_iff members _
  executionTimeMs := exists_field_finiteOrZero h _
  rowCount := exists_field_finiteOrZero h _
  confidence := field_bind number?_eq_some_iff members _
  results := ⟨_, field_bind rows?_eq_some_iff members _, rfl⟩

/-- A well-formed object that reports no message is the success that it describes. -/
theorem outcome_eq_success_iff (h : (Json.obj members).WellFormed) {s : QuerySuccess} :
    (ofFields (Json.lookup? members)).outcome = .success s ↔
      (∀ message, ¬Reports members message) ∧ Describes members s := by
  simp only [← outcome_eq_failure_iff]
  rw [outcome]
  split
  · exact iff_of_false nofun fun hs => hs.1 _ rfl
  · rw [QueryOutcome.success.injEq]
    exact ⟨fun hs => ⟨nofun, hs ▸ describes_ofFields h⟩,
      fun hs => (describes_ofFields h).unique hs.2⟩

/-- **Every object is an answer, field by field.**  It is a failure with the message that is reported,
or else a success whose parts are told by the members of their own names; and members of wrong types
are as good as left out. -/
theorem decoded_field_by_field (h : (Json.obj members).WellFormed) :
    ∃ r, ofJson (.obj members) = .ok r ∧
      (∀ message, r.outcome = .failure message ↔ Reports members message) ∧
      (∀ s, r.outcome = .success s ↔
        (∀ message, ¬Reports members message) ∧ Describes members s) ∧
      ∀ wrong : String → Option Json, (∀ name v, wrong name = some v → ¬Suits name v) →
        ofJson (.obj (members.map fun m => (m.1, (wrong m.1).getD m.2))) =
          ofJson (.obj (members.filter fun m => (wrong m.1).isNone)) :=
  ⟨_, rfl, fun _ => outcome_eq_failure_iff, fun _ => outcome_eq_success_iff h,
    fun _ hwrong => congrArg Except.ok (ofFields_mistyped hwrong)⟩

/-- An error message is seen beside members of wrong types. -/
theorem message_beside_mistyped :
    let members := [("rowCount", Json.str "many"), ("results", .arr [.int 1]),
      ("errorMessage", .str "no such table")]
    (Json.obj members).WellFormed ∧
      ∃ r, ofJson (.obj members) = .ok r ∧ r.outcome = .failure "no such table" := by
  intro members
  have hresults : ∀ v ∈ [Json.int 1], v.WellFormed :=
    List.forall_mem_singleton.mpr (.int (by decide) (by decide))
  have hvalues : ∀ m ∈ members, m.2.WellFormed :=
    List.forall_mem_cons.mpr ⟨.str _, List.forall_mem_cons.mpr ⟨.arr hresults,
      List.forall_mem_singleton.mpr (.str _)⟩⟩
  have h : (Json.obj members).WellFormed := .obj (by decide) hvalues
  obtain ⟨r, hr, hfailure, -⟩ := decoded_field_by_field h
  exact ⟨h, r, hr, (hfailure _).mpr ⟨rfl, by decide⟩⟩

end Response
end QueryConsole
