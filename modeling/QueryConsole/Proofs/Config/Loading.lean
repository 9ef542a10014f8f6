/-
# Loading settings

Loading always gives settings, and does no harm to what is kept (`load_does_no_harm`):

| what is kept | settings before the overrides | what is kept afterwards |
| --- | --- | --- |
| a text of settings `c` | `c` | the same |
| anything else | the defaults | the same |
| nothing, where a file can be written | the defaults | a text of the defaults |

So loading once more changes nothing, because the text of settings is read back as these settings
(`parse_text`).
-/

import QueryConsole.Config
import QueryConsole.Proofs.Json.Typed
import QueryConsole.Proofs.Text.Utf8

namespace QueryConsole
namespace Config

open Json (Spells Fills)

/-! ## Settings are read back -/

/-- A field is spelled as its value is. -/
theorem spells_readField {α : Type} {name : String} {read : List Utf8.Piece → Json.Read α}
    {cs : List Char} {x : α} (set : Config → α → Config)
    (hread : ∀ r s, readField name r s = (read s).map fun (x, s) => (set r x, s))
    (h : Spells read cs x) (r : Config) : Spells (readField name r) cs (set r x) := by
  intro blank hblank rest
  rw [hread, h hblank]
  rfl

/-- Settings are spelled by their text, whatever stood in the fields before. -/
theorem spells_toJson (L : Json.Layout) (depth : Nat) (r c : Config) :
    Spells (Json.record .settings fields readField r) (L.print depth c.toJson) c := by
  have hfields : fields.Nodup := by decide
  -- each member replaces a field of what the members before it have left of `r`
  refine L.spells_record ?_ (List.Subset.refl fields) hfields
  refine .member (spells_readField (fun r v => { r with serverUrl := v }) (fun _ _ => rfl)
    (L.spells_text _ c.serverUrl) r) ?_
  refine .member (spells_readField (fun r v => { r with username := v }) (fun _ _ => rfl)
    (L.spells_text _ c.username) _) ?_
  refine .member (spells_readField (fun r v => { r with password := v }) (fun _ _ => rfl)
    (L.spells_text _ c.password) _) ?_
  refine .member (spells_readField (fun r v => { r with defaultDatabase := v }) (fun _ _ => rfl)
    (L.spells_text _ c.defaultDatabase) _) ?_
  refine .member (spells_readField (fun r v => { r with singleDatabase := v }) (fun _ _ => rfl)
    (L.spells_boolean _ c.singleDatabase) _) ?_
  refine .member (spells_readField (fun r v => { r with suggestions := v }) (fun _ _ => rfl)
    (L.spells_sequence_text _ c.suggestions) _) ?_
  refine .member (spells_readField (fun r v => { r with locale := v }) (fun _ _ => rfl)
    (L.spells_nullable_text _ c.locale) _) ?_
  refine .member (spells_readField (fun r v => { r with logLevel := v }) (fun _ _ => rfl)
    (L.spells_text _ c.logLevel) _) ?_
  exact .done c

/-- **Settings are read back** from their text. -/
theorem parse_text (c : Config) : parse c.text = .ok c := by
  rw [parse, text, Json.indented, String.toList_ofList]
  exact Json.whole_of_spells (spells_toJson Json.indentedLayout 0 default c)

end Config

/-! ## What is kept -/

/-- What is kept is a file with a text of the settings, which may be opened. -/
def ConfigDisk.Holds (disk : ConfigDisk) (c : Config) : Prop :=
  ∃ content cs, (disk = .file content ∨ disk = .readOnly content) ∧ Utf8.text? content = some cs ∧
    Config.parse (String.ofList cs) = .ok c

namespace Config

/-- The file that is saved holds the settings. -/
theorem holds_encode_text (c : Config) : (ConfigDisk.file (Utf8.encode c.text.toList)).Holds c := by
  refine ⟨_, c.text.toList, .inl rfl, Utf8.text?_encode c.text.toList, ?_⟩
  rw [String.ofList_toList]
  exact parse_text c

/-- Settings are found exactly where they are held. -/
theorem ofDisk?_eq_some_iff {disk : ConfigDisk} {c : Config} :
    ofDisk? disk = some c ↔ disk.Holds c := by
  constructor
  · intro h
    rw [ofDisk?] at h
    split at h
    · next text htext =>
      split at h
      · next c' hparse =>
        obtain rfl := Option.some.inj h
        cases disk with
        | file content =>
          obtain ⟨cs, hcs, rfl⟩ := Option.map_eq_some_iff.mp htext
          exact ⟨content, cs, .inl rfl, hcs, hparse⟩
        | readOnly content =>
          obtain ⟨cs, hcs, rfl⟩ := Option.map_eq_some_iff.mp htext
          exact ⟨content, cs, .inr rfl, hcs, hparse⟩
        | _ => cases htext
      · cases h
    · cases h
  · rintro ⟨content, cs, hdisk, hcs, hparse⟩
    have htext : disk.text? = some (String.ofList cs) := by
      rcases hdisk with rfl | rfl
      · rw [ConfigDisk.text?, hcs, Option.map_some]
      · rw [ConfigDisk.text?, hcs, Option.map_some]
    rw [ofDisk?, htext]
    dsimp only
    rw [hparse]

variable {disk : ConfigDisk}

theorem load_of_holds {c : Config} (h : disk.Holds c) (env : String → Option String) :
    load disk env = (c.override env, disk) := by
  have hfound := ofDisk?_eq_some_iff.mpr h
  have hexists : exists? disk = true := by
    obtain ⟨content, cs, rfl | rfl, -, -⟩ := h
    · rfl
    · rfl
  rw [load, hfound, hexists]
  rfl

theorem load_of_not_holds (h : ∀ c, ¬disk.Holds c) (env : String → Option String) :
    (load disk env).1 = default.override env := by
  have hnone : ofDisk? disk = none :=
    Option.eq_none_iff_forall_ne_some.mpr fun c hc => h c (ofDisk?_eq_some_iff.mp hc)
  rw [load, hnone]
  rfl

/-- Where nothing is kept, the defaults are saved, whatever the overrides are. -/
theorem load_missing (env : String → Option String) :
    load .missing env = (default.override env, .file (Utf8.encode default.text.toList)) := rfl

/-- Nothing is saved where something is kept, or nothing can be. -/
theorem load_snd_of_ne_missing (h : disk ≠ .missing) (env : String → Option String) :
    (load disk env).2 = disk := by
  cases disk with
  | missing => exact absurd rfl h
  | _ => rfl

/-- **Loading does no harm.**  It always gives settings: those that the file holds, with the
overrides, or else the defaults, with the overrides.  Whatever is kept stays as it is; where nothing is
kept and a file can be written, it holds the defaults without the overrides.  To load again, under any
overrides, is as if what was there at first was loaded, and changes nothing. -/
theorem load_does_no_harm (disk : ConfigDisk) (env : String → Option String) :
    (∀ c, disk.Holds c → (load disk env).1 = c.override env) ∧
      ((∀ c, ¬disk.Holds c) → (load disk env).1 = default.override env) ∧
      (disk ≠ .missing → (load disk env).2 = disk) ∧
      (disk = .missing → (load disk env).2.Holds default) ∧
      ∀ env', load (load disk env).2 env' = load disk env' := by
  refine ⟨fun c hc => by rw [load_of_holds hc], fun h => load_of_not_holds h env,
    fun h => load_snd_of_ne_missing h env, ?_, fun env' => ?_⟩
  · rintro rfl
    rw [load_missing]
    exact holds_encode_text default
  · by_cases hmissing : disk = .missing
    · subst hmissing
      rw [load_missing, load_missing, load_of_holds (holds_encode_text default)]
    · rw [load_snd_of_ne_missing hmissing]

end Config
end QueryConsole
