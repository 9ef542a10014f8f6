/-
# Saved settings

Settings that were saved are loaded again as they were, whatever their texts hold, and variables of
the environment replace the fields that they belong to (`saved_settings_load_back`):

| field | variable | value |
| --- | --- | --- |
| `server_url`, `username`, `password`, `default_database` | `NLQ_SERVER_URL` and so on | the text |
| `log_level` | `NLQ_LOG` | the text |
| `single_database` | `NLQ_SINGLE_DATABASE` | whether the text switches it on (`SwitchesOn`) |
| `suggestions`, `locale` | none | |

The eight values of the fields tell settings apart (`eq_of_value?_eq`), so it is enough to say which
value each field has after loading.
-/

import Mathlib.Data.List.TakeWhile
import QueryConsole.Proofs.Config.Loading

namespace QueryConsole

/-! ## Texts that switch something on -/

namespace Text

/-- A blank character is no letter, so it is the same in lower case. -/
theorem toLower_of_isBlank {c : Char} (h : isBlank c = true) : c.toLower = c := by
  refine dif_neg fun hletter => ?_
  have hlow : 65 ≤ c.toNat := hletter.1
  have hhigh : c.toNat ≤ 90 := hletter.2
  simp only [isBlank, Bool.or_eq_true, Bool.and_eq_true, decide_eq_true_eq, beq_iff_eq] at h
  omega

/-- Trimming takes away all blank characters around a text that holds none. -/
theorem trim_append {front cs back : List Char} (hfront : ∀ c ∈ front, isBlank c = true)
    (hback : ∀ c ∈ back, isBlank c = true) (hcs : ∀ c ∈ cs, isBlank c = false) :
    trim (front ++ cs ++ back) = cs := by
  have hstart : trimStart (front ++ cs ++ back) = trimStart (cs ++ back) := by
    rw [List.append_assoc]
    exact List.dropWhile_append_of_pos hfront
  rw [trim, hstart]
  cases cs with
  | nil =>
    have hnone : trimStart ([] ++ back) = [] := List.dropWhile_eq_nil_iff.mpr hback
    rw [hnone]
    rfl
  | cons c cs =>
    have hkept : trimStart (c :: cs ++ back) = c :: cs ++ back :=
      List.dropWhile_cons_of_neg (by rw [hcs c List.mem_cons_self]; decide)
    rw [hkept, dropEndWhile, List.reverse_append,
      List.dropWhile_append_of_pos fun b hb => hback b (List.mem_reverse.mp hb)]
    have hend : (c :: cs).reverse.dropWhile isBlank = (c :: cs).reverse := by
      rw [List.dropWhile_eq_self_iff]
      intro hpos hblank
      rw [hcs _ (List.mem_reverse.mp (List.getElem_mem hpos))] at hblank
      cases hblank
    rw [hend, List.reverse_reverse]

end Text

namespace Config

/-- The words that switch something on, in lower case. -/
def onWords : List (List Char) := ["1", "true", "yes"].map String.toList

theorem isBlank_of_mem_onWords {word : List Char} (h : word ∈ onWords) {c : Char} (hc : c ∈ word) :
    Text.isBlank c = false := by
  have hnone : (onWords.all fun w => w.all fun c => !Text.isBlank c) = true := by decide
  rw [← Bool.not_eq_true']
  exact List.all_eq_true.mp (List.all_eq_true.mp hnone word h) c hc

/-- A text switches something on: it is one of the words, in letters of either case, with any blank
characters around it. -/
def SwitchesOn (text : String) : Prop :=
  ∃ front word back, text.toList = front ++ word ++ back ∧
    (∀ c ∈ front, Text.isBlank c = true) ∧ (∀ c ∈ back, Text.isBlank c = true) ∧
    word.map Char.toLower ∈ onWords

theorem isOn_iff_trim_mem {text : String} :
    isOn text = true ↔ (Text.trim text.toList).map Char.toLower ∈ onWords := by
  rw [isOn, List.any_eq_true, onWords, List.mem_map]
  simp only [decide_eq_true_eq]

/-- **A variable switches something on exactly if its text is such a word.** -/
theorem isOn_iff {text : String} : isOn text = true ↔ SwitchesOn text := by
  rw [isOn_iff_trim_mem]
  constructor
  · intro h
    obtain ⟨front, back, hsplit, hfront, hback⟩ := Text.exists_trim text.toList
    exact ⟨front, Text.trim text.toList, back, hsplit, hfront, hback, h⟩
  · rintro ⟨front, word, back, hsplit, hfront, hback, hword⟩
    have hnone : ∀ c ∈ word, Text.isBlank c = false := fun c hc => by
      rw [Bool.eq_false_iff]
      intro hblank
      have hlower := isBlank_of_mem_onWords hword (List.mem_map_of_mem hc)
      rw [Text.toLower_of_isBlank hblank, hblank] at hlower
      cases hlower
    rw [hsplit, Text.trim_append hfront hback hnone]
    exact hword

instance : DecidablePred SwitchesOn := fun _ => decidable_of_iff _ isOn_iff

/-! ## Fields and their variables -/

/-- The value of a field, as it is saved. -/
def value? (c : Config) (field : String) : Option Json := c.toJson.member? field

/-- The fields that a variable of the environment replaces, each with its variable. -/
def variableNames : List (String × String) :=
  [("server_url", "NLQ_SERVER_URL"), ("username", "NLQ_USERNAME"), ("password", "NLQ_PASSWORD"),
    ("default_database", "NLQ_DEFAULT_DATABASE"), ("single_database", "NLQ_SINGLE_DATABASE"),
    ("log_level", "NLQ_LOG")]

/-- The value that the environment gives to a field, if the field has a variable and that is set. -/
def valueIn? (env : String → Option String) (field : String) : Option Json :=
  ((variableNames.lookup field).bind env).map fun text =>
    if field = "single_database" then .bool (decide (SwitchesOn text)) else .str text

/-- Without variables the environment gives no value to any field. -/
theorem valueIn?_eq_none {env : String → Option String}
    (h : ∀ v ∈ variableNames, env v.2 = none) (field : String) : valueIn? env field = none := by
  rw [valueIn?, Option.map_eq_none_iff, Option.bind_eq_none_iff]
  intro name hname
  obtain ⟨front, back, hnames, -⟩ := List.lookup_eq_some_iff.mp hname
  exact h (field, name) (hnames ▸ List.mem_append_right front List.mem_cons_self)

/-- Settings are saved as their fields, in order. -/
theorem toJson_eq (c : Config) :
    c.toJson = .obj (fields.filterMap fun field => (c.value? field).map (field, ·)) := rfl

/-- **The values of the fields tell settings apart**, since they are all that is read back. -/
theorem eq_of_value?_eq {c d : Config} (h : ∀ field ∈ fields, c.value? field = d.value? field) :
    c = d := by
  have hjson : c.toJson = d.toJson := by
    rw [toJson_eq, toJson_eq]
    exact congrArg Json.obj (List.filterMap_congr fun field hfield => by rw [h field hfield])
  have htext : c.text = d.text := congrArg Json.indented hjson
  have hparse := parse_text c
  rw [htext, parse_text] at hparse
  exact (Except.ok.inj hparse).symm

/-- **A variable replaces the value of its field**, and every other field keeps its value. -/
theorem value?_override (env : String → Option String) (c : Config) {field : String}
    (h : field ∈ fields) :
    (c.override env).value? field = (valueIn? env field).or (c.value? field) := by
  have htext (name value : String) :
      some (Json.str ((env name).getD value)) =
        ((env name).map Json.str).or (some (.str value)) := by
    cases env name <;> rfl
  have hflag : some (Json.bool (((env "NLQ_SINGLE_DATABASE").map isOn).getD c.singleDatabase)) =
      ((env "NLQ_SINGLE_DATABASE").map fun text => Json.bool (decide (SwitchesOn text))).or
        (some (.bool c.singleDatabase)) := by
    cases env "NLQ_SINGLE_DATABASE" with
    | none => rfl
    | some text => simp [← isOn_iff]
  simp only [fields, List.mem_cons, List.not_mem_nil, or_false] at h
  obtain rfl | rfl | rfl | rfl | rfl | rfl | rfl | rfl := h
  · exact htext "NLQ_SERVER_URL" c.serverUrl
  · exact htext "NLQ_USERNAME" c.username
  · exact htext "NLQ_PASSWORD" c.password
  · exact htext "NLQ_DEFAULT_DATABASE" c.defaultDatabase
  · exact hflag
  · rfl
  · rfl
  · exact htext "NLQ_LOG" c.logLevel

/-- The settings with the overrides are those with the values of the environment and, where it gives
none, of the fields themselves. -/
theorem override_eq_iff {env : String → Option String} {c d : Config} :
    c.override env = d ↔
      ∀ field ∈ fields, d.value? field = (valueIn? env field).or (c.value? field) := by
  constructor
  · rintro rfl field hfield
    exact value?_override env c hfield
  · intro h
    exact eq_of_value?_eq fun field hfield => by rw [value?_override env c hfield, h field hfield]

/-! ## Saving and loading -/

/-- Settings are saved wherever a file can be written, and nowhere else. -/
theorem save_eq_ok_iff {c : Config} {disk kept : ConfigDisk} :
    c.save disk = .ok kept ↔
      (disk = .missing ∨ ∃ content, disk = .file content) ∧
        kept = .file (Utf8.encode c.text.toList) := by
  cases disk <;> simp [save, eq_comm]

/-- **Saved settings load back.**  The text of settings is read as these settings.  Where they are
saved, which is wherever a file can be written, loading gives them back unchanged if no variable is
set, and otherwise with exactly the fields of the set variables replaced; it leaves the file as it
is. -/
theorem saved_settings_load_back (c : Config) (disk kept : ConfigDisk) :
    parse c.text = .ok c ∧
      (c.save disk = .ok kept ↔
        (disk = .missing ∨ ∃ content, disk = .file content) ∧
          kept = .file (Utf8.encode c.text.toList)) ∧
      (c.save disk = .ok kept →
        (∀ env, (∀ v ∈ variableNames, env v.2 = none) → load kept env = (c, kept)) ∧
        ∀ env loaded, load kept env = (loaded, kept) ↔
          ∀ field ∈ fields, loaded.value? field = (valueIn? env field).or (c.value? field)) := by
  refine ⟨parse_text c, save_eq_ok_iff, fun hsave => ?_⟩
  obtain ⟨-, rfl⟩ := save_eq_ok_iff.mp hsave
  have hload (env : String → Option String) := load_of_holds (holds_encode_text c) env
  refine ⟨fun env hnone => ?_, fun env loaded => ?_⟩
  · have hsame : c.override env = c := override_eq_iff.mpr fun field _ => by
      rw [valueIn?_eq_none hnone field, Option.none_or]
    rw [hload, hsame]
  · rw [hload, Prod.mk.injEq, and_iff_left rfl]
    exact override_eq_iff

/-- Settings with quotes, a control character and letters beyond ASCII, saved over a broken file,
are loaded without variables and where one is set. -/
theorem saved_over_broken_file :
    let c : Config :=
      ⟨"http://a\"b\\", "jos\u00e9", "\u0001\n", "", false, ["", "日本"], none, "info"⟩
    let env := fun name => if name = "NLQ_SINGLE_DATABASE" then some " Yes\n" else none
    ∃ kept, c.save (.file [0x7B]) = .ok kept ∧
      load kept (fun _ => none) = (c, kept) ∧
      load kept env = ({ c with singleDatabase := true }, kept) := by
  intro c env
  refine ⟨_, rfl, ?_, ?_⟩
  · exact ((saved_settings_load_back c (.file [0x7B]) _).2.2 rfl).1 _ fun _ _ => rfl
  · refine (((saved_settings_load_back c (.file [0x7B]) _).2.2 rfl).2 env _).mpr ?_
    intro field hfield
    simp only [fields, List.mem_cons, List.not_mem_nil, or_false] at hfield
    obtain rfl | rfl | rfl | rfl | rfl | rfl | rfl | rfl := hfield <;> rfl

end Config
end QueryConsole
