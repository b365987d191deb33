import ChunkRelay.Proofs.Settings.Document
import ChunkRelay.Proofs.Yaml.Keys

/-! # Settings in layers

What gives settings is a layer: it has a value for some of them and leaves the others alone. A file
is the layer of its entries, whose numbers become numbers and whose nulls give nothing. Loading it
puts this layer on the defaults. That relies on every name being there once, which holds of all
mappings in a document.
-/

namespace ChunkRelay

open Data (lookup? Distinct)

namespace Settings

/-- The values that something gives to settings. -/
abbrev Layer : Type := Setting → Option Data

/-- Settings with a layer on top. -/
def Layer.atop (layer : Layer) (s : Settings) : Settings := fun setting =>
  (layer setting).getD (s setting)

/-- Values that make up a layer: there is one for each setting that the layer has a value for, and
    null for some others. -/
structure Gives (values : List (Setting × Data)) (layer : Layer) : Prop where
  once : (values.map (·.1)).Nodup
  agree : ∀ setting v, layer setting = some v ↔ (setting, v) ∈ values ∧ v.isNull = false

section Override

variable {s : Settings} {values : List (Setting × Data)} {setting : Setting} {v : Data}

theorem override_cons (s : Settings) (entry : Setting × Data) (values : List (Setting × Data)) :
    s.override (entry :: values) =
      (if entry.2.isNull then s else s.set entry.1 entry.2).override values := rfl

theorem override_left (absent : ∀ v, (setting, v) ∈ values → v.isNull = true) :
    s.override values setting = s setting := by
  induction values generalizing s with
  | nil => rfl
  | cons entry values ih =>
      rw [override_cons, ih fun v member => absent v (List.mem_cons_of_mem _ member)]
      split
      · rfl
      · next given =>
          refine if_neg fun same => given (absent _ ?_)
          rw [same]
          exact List.mem_cons_self

theorem override_given (once : (values.map (·.1)).Nodup) (member : (setting, v) ∈ values)
    (given : v.isNull = false) : s.override values setting = v := by
  induction values generalizing s with
  | nil => cases member
  | cons entry values ih =>
      have ⟨new, once⟩ := List.nodup_cons.mp once
      rw [override_cons]
      rcases List.mem_cons.mp member with rfl | later
      · -- Nothing that comes later is for this setting, so its value stays.
        have absent : ∀ v', (setting, v') ∈ values → v'.isNull = true :=
          fun v' again => absurd (List.mem_map_of_mem again) new
        rw [override_left absent, if_neg (by rw [given]; exact Bool.false_ne_true)]
        exact if_pos rfl
      · exact ih once later

theorem override_eq {layer : Layer} (gives : Gives values layer) (s : Settings) :
    s.override values = layer.atop s := by
  funext setting
  rw [Layer.atop]
  cases held : layer setting with
  | some v =>
      have ⟨member, given⟩ := (gives.agree setting v).mp held
      exact override_given gives.once member given
  | none =>
      refine override_left fun v member => ?_
      by_contra given
      have shown := (gives.agree setting v).mpr ⟨member, Bool.eq_false_iff.mpr given⟩
      rw [held] at shown
      cases shown

end Override

/-! ## Files -/

variable {entries entries' : List (Data × Data)} {setting : Setting} {v : Data}

/-- A value as the setting takes it: numbers may be written as texts. -/
def typed? (setting : Setting) (value : Data) : Option Data :=
  if setting ∈ numbers then (number setting value).toOption else some value

/-- What the entries of a file give. -/
def fileLayer (entries : List (Data × Data)) : Layer := fun setting =>
  ((lookup? setting.name entries).bind (typed? setting)).filter (!·.isNull)

theorem numbered_lookup (numbered : Numbered numbers entries entries') (distinct : Distinct entries)
    (setting : Setting) :
    lookup? setting.name entries' = (lookup? setting.name entries).bind (typed? setting) := by
  by_cases isNumber : setting ∈ numbers
  · cases found : lookup? setting.name entries with
    | none =>
        rw [Option.bind_none, Data.lookup?_eq_none, numbered.keys]
        exact Data.lookup?_eq_none.mp found
    | some value =>
        obtain ⟨v, given, kept⟩ := numbered.numbers setting isNumber value found
        rw [kept distinct, Option.bind_some, typed?, if_pos isNumber, given]
        rfl
  · have apart : ∀ other ∈ numbers, other.name ≠ setting.name :=
      fun other member same => isNumber (Setting.name_injective same ▸ member)
    rw [numbered.others _ apart]
    cases lookup? setting.name entries with
    | none => rfl
    | some value => rw [Option.bind_some, typed?, if_neg isNumber]

theorem mem_named (distinct : Distinct entries) :
    (setting, v) ∈ named entries ↔ lookup? setting.name entries = some v := by
  have found_iff : lookup? setting.name entries = some v ↔ (.text setting.name, v) ∈ entries :=
    ⟨Data.lookup?_mem, Data.lookup?_of_mem distinct⟩
  rw [found_iff, named, List.mem_filterMap]
  constructor
  · rintro ⟨⟨key, value⟩, member, found⟩
    obtain ⟨_, name, ⟨⟩⟩ := Option.map_eq_some_iff.mp found
    rwa [Setting.ofKey?_eq_some.mp name] at member
  · exact fun member => ⟨_, member, by simp only [Setting.ofKey?_name, Option.map_some]⟩

theorem named_once (distinct : Distinct entries) : ((named entries).map (·.1)).Nodup := by
  have same_names : (named entries).map (·.1) = (entries.map (·.1)).filterMap Setting.ofKey? := by
    rw [named, List.map_filterMap, List.filterMap_map]
    simp [Function.comp_def]
  rw [same_names]
  refine List.Pairwise.filterMap _ (fun a b apart setting first setting' second same => ?_) distinct
  rw [Setting.ofKey?_eq_some.mp first, Setting.ofKey?_eq_some.mp second, same,
    Data.sameKey_text.mpr rfl] at apart
  cases apart

theorem named_gives (numbered : Numbered numbers entries entries') (distinct : Distinct entries) :
    Gives (named entries') (fileLayer entries) := by
  have distinct' := distinct.of_keys numbered.keys
  refine ⟨named_once distinct', fun setting v => ?_⟩
  rw [fileLayer, ← numbered_lookup numbered distinct, Option.filter_eq_some_iff,
    mem_named distinct', Bool.not_eq_eq_eq_not, Bool.not_true]

theorem body?_distinct {d : Data} (unambiguous : d.Unambiguous) (found : body? d = some entries) :
    Distinct entries := by
  cases unambiguous with
  | map distinct inside =>
      rw [body?_map, bridgeEntries] at found
      split at found
      · next inner held =>
          cases found
          cases inside _ (Data.lookup?_mem held) with
          | plain isPlain => cases isPlain
          | map distinct => exact distinct
      · cases found
        exact distinct
  | list =>
      rw [body?_other fun _ same => by cases same] at found
      split at found <;> cases found
      exact .nil
  | plain isPlain =>
      rw [body?_other fun _ same => by rw [same] at isPlain; exact isPlain] at found
      split at found <;> cases found
      exact .nil

theorem ofDocument_layer {path : String} {d : Data} {s : Settings} (unambiguous : d.Unambiguous)
    (given : ofDocument path d = .ok s) :
    ∃ entries, body? d = some entries ∧ s = (fileLayer entries).atop default := by
  cases found : body? d with
  | none =>
      rw [ofDocument, found] at given
      cases given
  | some entries =>
      obtain ⟨entries', accepted, -, numbered⟩ | ⟨e, failed, -⟩ := ofDocument_cases path found
      · rw [accepted] at given
        cases given
        have gives := named_gives numbered (body?_distinct unambiguous found)
        exact ⟨entries, rfl, override_eq gives default⟩
      · rw [failed] at given
        cases given

theorem load_document {tree : FileTree} {path : String} {s : Settings}
    (loaded : load tree path = .ok s) :
    ∃ d, Reading.Of tree path (.document d) ∧ d.Unambiguous ∧
      ofDocument (Path.ofText path).text d = .ok s := by
  rw [load] at loaded
  split at loaded
  · next bytes found =>
      rw [ofBytes] at loaded
      cases decoded : Utf8.decode? bytes with
      | none =>
          rw [decoded] at loaded
          cases loaded
      | some text =>
          rw [decoded] at loaded
          dsimp only at loaded
          split at loaded
          · next d parsed =>
              exact ⟨d, .document found decoded parsed, Yaml.parse_unambiguous parsed, loaded⟩
          · cases loaded
          · cases loaded
  all_goals cases loaded

/-- What the settings file gives, if one is named. -/
inductive FileGives (tree : FileTree) : Option String → Layer → Prop where
  | none : FileGives tree none fun _ => .none
  | file {path : String} {d : Data} {entries : List (Data × Data)}
      (reads : Reading.Of tree path (.document d)) (held : body? d = some entries) :
      FileGives tree (some path) (fileLayer entries)

end Settings

end ChunkRelay
