import ChunkRelay.Proofs.Data
import ChunkRelay.Proofs.Text.Utf8
import ChunkRelay.Settings.Document
import ChunkRelay.Proofs.Failure

/-! # What settings files are accepted

A settings file is accepted if it holds nothing, or a mapping of known names in which the numbers
are numbers. All else is refused as a configuration that is wrong. Two things are not as one would
expect: a document that is empty in another way, such as an empty list, passes for one that holds
nothing; and unknown names are listed in order, so that a listing without an order, or with a number
that is too long to be written, fails by a defect.
-/

namespace ChunkRelay

open Data (lookup? lookup?_insert_other lookup?_insert_same insert_keys_found Distinct Comparable)

namespace Setting

theorem ofKey?_name (setting : Setting) : ofKey? (.text setting.name) = some setting := by
  cases setting <;> rfl

theorem ofKey?_eq_some {key : Data} {setting : Setting} :
    ofKey? key = some setting ↔ key = .text setting.name := by
  refine ⟨fun found => ?_, fun same => by rw [same, ofKey?_name]⟩
  cases key with
  | text key =>
      have named := List.find?_some found
      rw [of_decide_eq_true named]
  | _ => cases found

theorem name_injective {a b : Setting} (same : a.name = b.name) : a = b := by
  have found := ofKey?_name a
  rw [same, ofKey?_name] at found
  exact (Option.some.inj found).symm

end Setting

namespace Settings

variable {entries entries' : List (Data × Data)} {setting : Setting} {value : Data}

/-! ## Numbers -/

/-- What stands for a number, or for none: a text does if it is a numeral. -/
inductive GivesNumber : Data → Prop where
  | null : GivesNumber .null
  | int (n : Int) : GivesNumber (.int n)
  | text {t : String} {n : Int} (numeral : Numeral.parse .marked t = .ok n) : GivesNumber (.text t)
  | rawText {t : RawText} {n : Int} (numeral : Numeral.ofChars .marked t.softened = .ok n) :
      GivesNumber (.rawText t)

theorem number_inversion {v : Data} (given : number setting value = .ok v) :
    GivesNumber value ∧ (v = .null ∨ ∃ n, v = .int n) := by
  cases value with
  | null =>
      cases given
      exact ⟨.null, Or.inl rfl⟩
  | int n =>
      cases given
      exact ⟨.int n, Or.inr ⟨n, rfl⟩⟩
  | text t =>
      rw [number] at given
      cases numeral : Numeral.parse .marked t with
      | ok n =>
          rw [numeral] at given
          cases given
          exact ⟨.text numeral, Or.inr ⟨n, rfl⟩⟩
      | error refusal =>
          rw [numeral] at given
          cases given
  | rawText t =>
      rw [number] at given
      cases numeral : Numeral.ofChars .marked t.softened with
      | ok n =>
          rw [numeral] at given
          cases given
          exact ⟨.rawText numeral, Or.inr ⟨n, rfl⟩⟩
      | error refusal =>
          rw [numeral] at given
          cases given
  | _ => cases given

theorem number_ok_iff : (∃ v, number setting value = .ok v) ↔ GivesNumber value := by
  refine ⟨fun ⟨_, given⟩ => (number_inversion given).1, ?_⟩
  rintro (_ | n | ⟨numeral⟩ | ⟨numeral⟩)
  · exact ⟨_, rfl⟩
  · exact ⟨_, rfl⟩
  · rw [number, numeral]
    exact ⟨_, rfl⟩
  · rw [number, numeral]
    exact ⟨_, rfl⟩

/-- Entries in which one setting, if it is given, is a number. -/
def withNumber (entries : List (Data × Data)) (setting : Setting) :
    Except String (List (Data × Data)) :=
  match lookup? setting.name entries with
  | some value => do
    pure (Data.insert (.text setting.name) (← number setting value) entries)
  | none => pure entries

theorem numbers_nodup : numbers.Nodup := by decide

theorem withNumbers_eq (entries : List (Data × Data)) :
    withNumbers entries = numbers.foldlM withNumber entries := rfl

/-- Entries in which some settings have become numbers. -/
structure Numbered (settings : List Setting) (entries entries' : List (Data × Data)) : Prop where
  keys : entries'.map (·.1) = entries.map (·.1)
  numbers : ∀ setting ∈ settings, ∀ value, lookup? setting.name entries = some value →
    ∃ v, number setting value = .ok v ∧
      (Distinct entries → lookup? setting.name entries' = some v)
  others : ∀ key, (∀ setting ∈ settings, setting.name ≠ key) →
    lookup? key entries' = lookup? key entries

/-- One setting after others. -/
theorem Numbered.cons {settings : List Setting} {middle : List (Data × Data)}
    (first : Numbered [setting] entries middle) (rest : Numbered settings middle entries')
    (new : setting ∉ settings) : Numbered (setting :: settings) entries entries' := by
  have apart : ∀ other ∈ settings, other.name ≠ setting.name :=
    fun other member same => new (Setting.name_injective same ▸ member)
  refine ⟨rest.keys.trans first.keys, fun other member value given => ?_, fun key differs => ?_⟩
  · rcases List.mem_cons.mp member with rfl | later
    · obtain ⟨v, isNumber, kept⟩ := first.numbers other List.mem_cons_self value given
      refine ⟨v, isNumber, fun distinct => ?_⟩
      rw [rest.others _ apart]
      exact kept distinct
    · have untouched : lookup? other.name middle = lookup? other.name entries :=
        first.others _ (by simpa using (apart other later).symm)
      obtain ⟨v, isNumber, kept⟩ := rest.numbers other later value (untouched.trans given)
      exact ⟨v, isNumber, fun distinct => kept (distinct.of_keys first.keys)⟩
  · rw [List.forall_mem_cons] at differs
    exact (rest.others key differs.2).trans (first.others key (by simpa using differs.1))

theorem withNumber_cases (setting : Setting) (entries : List (Data × Data)) :
    (∃ entries', withNumber entries setting = .ok entries' ∧
      Numbered [setting] entries entries') ∨
    ∃ reason, withNumber entries setting = .error reason ∧
      ∃ value, lookup? setting.name entries = some value ∧ ¬GivesNumber value := by
  rw [withNumber]
  cases found : lookup? setting.name entries with
  | none =>
      refine Or.inl ⟨entries, rfl, rfl, fun other member value given => ?_, fun _ _ => rfl⟩
      rw [List.mem_singleton.mp member, found] at given
      cases given
  | some value =>
      cases given : number setting value with
      | error reason =>
          refine Or.inr ⟨reason, by simp only [given]; rfl, value, rfl, fun gives => ?_⟩
          obtain ⟨v, isNumber⟩ := number_ok_iff.mpr gives
          rw [given] at isNumber
          cases isNumber
      | ok v =>
          refine Or.inl ⟨_, by simp only [given]; rfl, insert_keys_found found v,
            fun other member value' given' => ?_, fun key differs => ?_⟩
          · obtain rfl := List.mem_singleton.mp member
            obtain rfl : value = value' := Option.some.inj (found.symm.trans given')
            exact ⟨v, given, fun distinct => lookup?_insert_same distinct _ _⟩
          · exact lookup?_insert_other (Ne.symm (by simpa using differs)) _ _

theorem foldlM_withNumber {settings : List Setting} (once : settings.Nodup)
    (entries : List (Data × Data)) :
    (∃ entries', settings.foldlM withNumber entries = .ok entries' ∧
      Numbered settings entries entries') ∨
    ∃ reason, settings.foldlM withNumber entries = .error reason ∧
      ∃ setting ∈ settings, ∃ value, lookup? setting.name entries = some value ∧
        ¬GivesNumber value := by
  induction settings generalizing entries with
  | nil => exact Or.inl ⟨entries, rfl, rfl, nofun, fun _ _ => rfl⟩
  | cons setting settings ih =>
      have ⟨new, once⟩ := List.nodup_cons.mp once
      rw [List.foldlM_cons]
      obtain ⟨middle, first, numbered⟩ | ⟨reason, first, value, given, refused⟩ :=
        withNumber_cases setting entries
      · rw [first]
        obtain ⟨entries', rest, later⟩ | ⟨reason, rest, other, member, value, given, refused⟩ :=
          ih once middle
        · exact Or.inl ⟨entries', rest, numbered.cons later new⟩
        · -- The value that is refused later on is the one that was there from the start.
          have apart : other.name ≠ setting.name :=
            fun same => new (Setting.name_injective same ▸ member)
          rw [numbered.others _ (by simpa using apart.symm)] at given
          exact Or.inr ⟨reason, rest, other, List.mem_cons_of_mem _ member, value, given, refused⟩
      · rw [first]
        exact Or.inr ⟨reason, rfl, setting, List.mem_cons_self, value, given, refused⟩

/-! ## Names -/

/-- The keys that name no setting. -/
def strangers (entries : List (Data × Data)) : List Data :=
  (entries.map (·.1)).filter fun key => (Setting.ofKey? key).isNone

/-- The values of the settings that entries name. -/
def named (entries : List (Data × Data)) : List (Setting × Data) :=
  entries.filterMap fun (key, value) => (Setting.ofKey? key).map (·, value)

/-- Keys that can be put in order and written. -/
structure Listable (keys : List Data) : Prop where
  order : keys.length ≤ 1 ∨ Comparable keys
  writable : ∀ key ∈ keys, key.isWritable = true

/-- How settings are refused that have some unknown names among theirs. -/
def RefusedWith (unknown : List Data) (e : Failure) : Prop :=
  e.errorClass? = some .configuration ∨
    ¬Listable unknown ∧ (e = .defect .keysUnordered ∨ e = .defect .numberTooLong)

theorem RefusedWith.nothing {e : Failure} (refused : RefusedWith [] e) :
    e.errorClass? = some .configuration :=
  refused.resolve_right fun ⟨unlisted, _⟩ => unlisted ⟨Or.inl (Nat.zero_le 1), nofun⟩

theorem strangers_eq_nil :
    strangers entries = [] ↔
      ∀ entry ∈ entries, ∃ setting : Setting, entry.1 = .text setting.name := by
  rw [strangers, List.filter_eq_nil_iff, List.forall_mem_map]
  refine forall₂_congr fun entry _ => ?_
  rw [Option.isNone_iff_eq_none, ← ne_eq, Option.ne_none_iff_exists']
  exact exists_congr fun _ => Setting.ofKey?_eq_some

theorem ofEntries_known (known : strangers entries = []) :
    ofEntries entries = .ok (named entries) := by
  rw [ofEntries]
  dsimp only
  rw [← strangers, known]
  rfl

/-- Unknown names are listed if they can be written. -/
theorem refusedWith_unknown (keys : List Data) :
    (Failure.ofCause (.unknownSettings keys)).errorClass? = some .configuration ∨
      ¬keys.all Data.isWritable = true ∧
        Failure.ofCause (.unknownSettings keys) = .defect .numberTooLong := by
  have told := Failure.ofCause_told (.unknownSettings keys)
  split at told
  · exact Or.inl told
  · next tooLong => exact Or.inr ⟨tooLong, told⟩

theorem ofEntries_unknown (unknown : strangers entries ≠ []) :
    ∃ e, ofEntries entries = .error e ∧ RefusedWith (strangers entries) e := by
  have isThere : (!(strangers entries).isEmpty) = true := by simpa using unknown
  rw [ofEntries]
  dsimp only
  rw [← strangers, if_pos isThere]
  by_cases order : (strangers entries).length ≤ 1 ∨ Comparable (strangers entries)
  · obtain ⟨sorted, found, within⟩ := Data.sorted?_within order
    rw [found]
    dsimp only
    refine ⟨_, rfl, (refusedWith_unknown sorted).imp_right ?_⟩
    rintro ⟨tooLong, defect⟩
    refine ⟨fun listable => tooLong ?_, Or.inr defect⟩
    exact List.all_eq_true.mpr fun key member => listable.writable key (within member)
  · -- Without an order the sorting may still succeed, if no two values without one are compared.
    have unlisted : ¬Listable (strangers entries) := fun listable => order listable.order
    cases Data.sorted? (strangers entries) with
    | none => exact ⟨_, rfl, Or.inr ⟨unlisted, Or.inl rfl⟩⟩
    | some sorted =>
        refine ⟨_, rfl, (refusedWith_unknown sorted).imp_right ?_⟩
        exact fun ⟨_, defect⟩ => ⟨unlisted, Or.inr defect⟩

/-! ## Documents -/

/-- Entries that give settings: all keys are names, and the numbers are numbers. -/
structure WellFormed (entries : List (Data × Data)) : Prop where
  names : ∀ entry ∈ entries, ∃ setting : Setting, entry.1 = .text setting.name
  numbers : ∀ setting ∈ numbers, ∀ value, lookup? setting.name entries = some value →
    GivesNumber value

/-- The entries of a mapping that are for the bridge. -/
def bridgeEntries (entries : List (Data × Data)) : List (Data × Data) :=
  match lookup? "bridge" entries with
  | some (.map inner) => inner
  | _ => entries

theorem body?_map (entries : List (Data × Data)) :
    body? (.map entries) = some (bridgeEntries entries) := by
  rw [body?]
  fun_cases bridgeEntries entries with
  | case1 inner found => rw [found]
  | case2 noSection => split <;> first | rfl | exact absurd ‹_› (noSection _)

theorem body?_other {document : Data} (other : ∀ entries, document ≠ .map entries) :
    body? document = if document.isSet then none else some [] := by
  cases document with
  | map entries => exact absurd rfl (other entries)
  | _ => rfl

/-- A document with these entries is refused, or they are well-formed and what they name is taken
once its numbers are numbers. -/
theorem ofDocument_cases {document : Data} (path : String)
    (found : body? document = some entries) :
    (∃ entries', ofDocument path document = .ok (default.override (named entries')) ∧
      WellFormed entries ∧ Numbered numbers entries entries') ∨
    ∃ e, ofDocument path document = .error e ∧ ¬WellFormed entries ∧
      RefusedWith (strangers entries) e := by
  rw [ofDocument, found]
  dsimp only
  rw [withNumbers_eq]
  obtain ⟨entries', ran, numbered⟩ | ⟨reason, ran, setting, member, value, given, refused⟩ :=
    foldlM_withNumber numbers_nodup entries
  · have same_keys : strangers entries' = strangers entries := by
      rw [strangers, numbered.keys, strangers]
    rw [ran]
    dsimp only
    by_cases known : strangers entries = []
    · have gives : ∀ setting ∈ numbers, ∀ value, lookup? setting.name entries = some value →
          GivesNumber value := by
        intro setting member value given
        obtain ⟨v, isNumber, _⟩ := numbered.numbers setting member value given
        exact number_ok_iff.mp ⟨v, isNumber⟩
      rw [ofEntries_known (same_keys.trans known)]
      exact Or.inl ⟨entries', rfl, ⟨strangers_eq_nil.mp known, gives⟩, numbered⟩
    · obtain ⟨e, failed, how⟩ := ofEntries_unknown (same_keys.symm ▸ known)
      rw [failed]
      rw [same_keys] at how
      exact Or.inr ⟨e, rfl, fun wellFormed => known (strangers_eq_nil.mpr wellFormed.names), how⟩
  · rw [ran]
    refine Or.inr ⟨_, rfl, fun wellFormed => ?_, Or.inl rfl⟩
    exact refused (wellFormed.numbers setting member value given)

theorem ofDocument_of_body {document : Data} (path : String)
    (found : body? document = some entries) :
    ((∃ s, ofDocument path document = .ok s) ↔ WellFormed entries) ∧
    ∀ e, ofDocument path document = .error e → RefusedWith (strangers entries) e := by
  obtain ⟨entries', given, wellFormed, -⟩ | ⟨e, failed, illFormed, how⟩ :=
    ofDocument_cases path found
  · rw [given]
    exact ⟨iff_of_true ⟨_, rfl⟩ wellFormed, nofun⟩
  · rw [failed]
    refine ⟨iff_of_false nofun illFormed, ?_⟩
    rintro _ ⟨⟩
    exact how

/-- What a settings file reads as: it may be missing, hold no document, or hold one. -/
inductive Reading where
  | missing
  | unparsable
  | document (d : Data)

namespace Reading

/-- What the file at a path reads as. -/
inductive Of (tree : FileTree) (path : String) : Reading → Prop where
  | missing (found : tree.find path = .ok .missing) : Of tree path missing
  | unparsable {bytes : List UInt8} {text : String} (found : tree.find path = .ok (.file bytes))
      (decoded : Utf8.decode? bytes = some text)
      (parsed : Yaml.parse (unifyLineEnds text.toList) = .error .malformed) :
      Of tree path unparsable
  | document {bytes : List UInt8} {text : String} {d : Data}
      (found : tree.find path = .ok (.file bytes)) (decoded : Utf8.decode? bytes = some text)
      (parsed : Yaml.parse (unifyLineEnds text.toList) = .ok d) : Of tree path (document d)

/-- The settings that are read. The path is where they came from. -/
def settings (path : String) : Reading → Except Failure Settings
  | missing => .error (.caused (.settingsMissing path))
  | unparsable => .error (.caused (.settingsUnparsable path))
  | document d => ofDocument path d

/-- A document that is nothing or gives settings. -/
inductive Valid : Reading → Prop where
  | nothing : Valid (document .null)
  | mapping {entries : List (Data × Data)} (wellFormed : WellFormed (bridgeEntries entries)) :
      Valid (document (.map entries))

/-- A document that counts as empty. -/
def Unset : Reading → Prop
  | document d => d.isSet = false
  | _ => False

/-- The keys of the mapping that name no setting. -/
def strangers : Reading → List Data
  | document (.map entries) => Settings.strangers (bridgeEntries entries)
  | _ => []

variable {tree : FileTree} {path : String} {reading : Reading}

theorem Of.load (reads : Of tree path reading) :
    Settings.load tree path = reading.settings (Path.ofText path).text := by
  cases reads with
  | missing found =>
      rw [Settings.load, found]
      rfl
  | unparsable found decoded parsed =>
      rw [Settings.load, found]
      dsimp only
      rw [ofBytes, decoded]
      dsimp only
      rw [parsed]
      rfl
  | document found decoded parsed =>
      rw [Settings.load, found]
      dsimp only
      rw [ofBytes, decoded]
      dsimp only
      rw [parsed]
      rfl

theorem settings_map (path : String) (entries : List (Data × Data)) :
    ((∃ s, (document (.map entries)).settings path = .ok s) ↔ WellFormed (bridgeEntries entries)) ∧
    ∀ e, (document (.map entries)).settings path = .error e →
      RefusedWith (strangers (.document (.map entries))) e :=
  ofDocument_of_body path (body?_map entries)

theorem settings_other {d : Data} (path : String) (other : ∀ entries, d ≠ .map entries) :
    ((∃ s, (document d).settings path = .ok s) ↔ d.isSet = false) ∧
    ∀ e, (document d).settings path = .error e → e.errorClass? = some .configuration := by
  have found := body?_other other
  cases set : d.isSet with
  | false =>
      rw [set] at found
      have ⟨accepts, refuses⟩ := ofDocument_of_body path found
      refine ⟨iff_of_true (accepts.mpr ⟨nofun, nofun⟩) rfl, fun e failed => ?_⟩
      exact (refuses e failed).nothing
  | true =>
      rw [set] at found
      have failed : (document d).settings path = .error (.caused (.settingsNotMapping path)) := by
        rw [settings, ofDocument, found]
        rfl
      rw [failed]
      exact ⟨⟨nofun, nofun⟩, by rintro _ ⟨⟩; rfl⟩

theorem settings_verdict (path : String) (reading : Reading) :
    ((∃ s, reading.settings path = .ok s) ↔ reading.Valid ∨ reading.Unset) ∧
    ∀ e, reading.settings path = .error e → RefusedWith reading.strangers e := by
  cases reading with
  | missing | unparsable =>
      refine ⟨⟨nofun, ?_⟩, ?_⟩
      · rintro (⟨⟨⟩⟩ | ⟨⟨⟩⟩)
      · rintro _ ⟨⟩
        exact Or.inl rfl
  | document d =>
      by_cases mapping : ∃ entries, d = .map entries
      · obtain ⟨entries, rfl⟩ := mapping
        have ⟨accepts, refuses⟩ := settings_map path entries
        refine ⟨accepts.trans ⟨fun wellFormed => Or.inl (.mapping wellFormed), ?_⟩, refuses⟩
        rintro (valid | unset)
        · cases valid with
          | mapping wellFormed => exact wellFormed
        · obtain rfl : entries = [] := by simpa [Unset, Data.isSet] using unset
          exact ⟨nofun, nofun⟩
      · have other : ∀ entries, d ≠ .map entries := fun entries same => mapping ⟨entries, same⟩
        have ⟨accepts, refuses⟩ := settings_other path other
        refine ⟨accepts.trans ⟨Or.inr, ?_⟩, fun e failed => Or.inl (refuses e failed)⟩
        rintro (valid | unset)
        · cases valid with
          | nothing => rfl
          | mapping => exact absurd rfl (other _)
        · exact unset

/-- A run with one file, of the given text, under the usual name. -/
def fileOf (text : String) : FileTree := ⟨[(⟨some 0, ["bridge.yaml"]⟩, Utf8.encode text)], []⟩

/-- Whether a text writes a document. -/
def writes (text : String) (d : Data) : Bool :=
  match Yaml.parse (unifyLineEnds text.toList) with
  | .ok d' => d'.same d
  | .error _ => false

theorem Of.written {text : String} {d : Data} (written : writes text d = true) :
    Of (fileOf text) "bridge.yaml" (.document d) := by
  rw [writes] at written
  split at written
  · next d' parsed =>
      rw [← Data.eq_of_same written]
      exact .document rfl (Utf8.decode?_encode text) parsed
  · cases written

end Reading

/-- Settings are loaded from nothing but valid documents and those that count as empty. Whatever
else is there is refused as a wrong configuration, unless there are unknown names that cannot be
listed. -/
theorem load_verdict (tree : FileTree) (path : String) (reading : Reading) :
    (Reading.Of tree path reading → load tree path = reading.settings (Path.ofText path).text) ∧
    ((∃ s, reading.settings (Path.ofText path).text = .ok s) ↔ reading.Valid ∨ reading.Unset) ∧
    ∀ e, reading.settings (Path.ofText path).text = .error e →
      RefusedWith reading.strangers e :=
  ⟨Reading.Of.load, Reading.settings_verdict _ reading⟩

theorem load_verdict_section :
    Reading.Valid (.document (.map [(.text "bridge",
      .map [(.text "vendor_id", .text "0x16"), (.text "upload", .null)])])) ∧
    ∃ s, load (Reading.fileOf "'bridge': \x7b'vendor_id': '0x16', 'upload': \x7d") "bridge.yaml" =
        .ok s ∧
      s .vendor = .int 0x16 ∧ s .upload = .bool true := by
  have written : Reading.writes "'bridge': \x7b'vendor_id': '0x16', 'upload': \x7d"
      (.map [(.text "bridge", .map [(.text "vendor_id", .text "0x16"), (.text "upload", .null)])]) =
        true := by
    decide +kernel
  obtain ⟨same, accepts, -⟩ := load_verdict (Reading.fileOf _) "bridge.yaml" (.document _)
  exact ⟨(accepts.mp ⟨_, rfl⟩).resolve_right nofun, _, same (.written written), rfl, rfl⟩

/-- An empty list passes for an empty document, and of unknown names without an order none is
told. -/
theorem settings_lax :
    let emptyList : Reading := .document (.list [])
    let mixed : Reading := .document (.map [(.int 1, .text "a"), (.text "foo", .text "b")])
    (¬emptyList.Valid ∧ emptyList.settings "bridge.yaml" = .ok Settings.default) ∧
    (¬mixed.Valid ∧ mixed.settings "bridge.yaml" = .error (.defect .keysUnordered) ∧
      (Failure.defect .keysUnordered).errorClass? ≠ some .configuration) := by
  intro emptyList mixed
  have refused : mixed.settings "bridge.yaml" = .error (.defect .keysUnordered) := rfl
  have noMapping : ¬Reading.Valid (.document (.list [])) := by rintro ⟨⟩
  refine ⟨⟨noMapping, rfl⟩, fun valid => ?_, refused, nofun⟩
  obtain ⟨s, accepted⟩ := (Reading.settings_verdict "bridge.yaml" mixed).1.mpr (Or.inl valid)
  rw [refused] at accepted
  cases accepted

end Settings

end ChunkRelay
