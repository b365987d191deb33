import ChunkRelay.Console.Program
import ChunkRelay.Proofs.Settings.Layers
import ChunkRelay.Proofs.Text.Hex

/-! # The ids of devices

An id that the list of devices shows can be given back as an option. Blanks around it do no harm, as
long as they are no separators. An id with the mark of base sixteen can stand in the settings file
as well, where it is read in the same way or refused in the same case.
-/

namespace ChunkRelay

open Numeral (HexMarked Writes)

/-! ## Ids in settings files -/

namespace Settings

variable {tree : FileTree} {path text : String} {setting : Setting} {d value : Data}
  {entries : List (Data × Data)}

/-- A settings file that gives a setting as a text. -/
def GivesText (tree : FileTree) (path : String) (setting : Setting) (text : String) : Prop :=
  ∃ d entries, Reading.Of tree path (.document d) ∧ body? d = some entries ∧
    Data.lookup? setting.name entries = some (.text text)

theorem number_text {n : Int} (read : Numeral.parse .marked text = .ok n) :
    number setting (.text text) = .ok (.int n) := by
  rw [number, read]

theorem number_refused {refusal : Numeral.Refusal}
    (refused : Numeral.parse .marked text = .error refusal) :
    number setting (.text text) = .error (numeralRefusal (.text text) refusal) := by
  rw [number, refused]

theorem Reading.Of.unambiguous (reads : Reading.Of tree path (.document d)) : d.Unambiguous := by
  cases reads with
  | document found decoded parsed => exact Yaml.parse_unambiguous parsed

theorem loaded_text {n : Int} {s : Settings} (isNumber : setting ∈ numbers)
    (read : Numeral.parse .marked text = .ok n) (gives : GivesText tree path setting text)
    (loaded : load tree path = .ok s) : s setting = .int n := by
  obtain ⟨d, entries, reads, body, held⟩ := gives
  rw [reads.load] at loaded
  obtain ⟨_, body', rfl⟩ := ofDocument_layer reads.unambiguous loaded
  obtain rfl := Option.some.inj (body.symm.trans body')
  have typed : typed? setting (.text text) = some (.int n) := by
    rw [typed?, if_pos isNumber, number_text read]
    rfl
  rw [Layer.atop, fileLayer, held, Option.bind_some, typed]
  rfl

theorem ofDocument_refused (path : String) (body : body? d = some entries)
    (isNumber : setting ∈ numbers) (held : Data.lookup? setting.name entries = some value)
    {reason : String} (refused : number setting value = .error reason) :
    ∃ reason, ofDocument path d = .error (.caused (.settingInvalid reason path)) := by
  rw [ofDocument, body]
  dsimp only
  rw [withNumbers_eq]
  obtain ⟨_, -, numbered⟩ | ⟨first, ran, -⟩ := foldlM_withNumber numbers_nodup entries
  · obtain ⟨v, given, -⟩ := numbered.numbers setting isNumber value held
    rw [refused] at given
    cases given
  · rw [ran]
    exact ⟨first, rfl⟩

theorem refused_text {refusal : Numeral.Refusal} (isNumber : setting ∈ numbers)
    (refused : Numeral.parse .marked text = .error refusal)
    (gives : GivesText tree path setting text) :
    ∃ e, load tree path = .error e ∧ e.errorClass? = some .configuration := by
  obtain ⟨d, entries, reads, body, held⟩ := gives
  obtain ⟨reason, failed⟩ :=
    ofDocument_refused (Path.ofText path).text body isNumber held (number_refused refused)
  exact ⟨_, reads.load.trans failed, rfl⟩

end Settings

namespace Console

open Settings (GivesText)

variable {text : String} {id : Int}

/-! ## Ids as options -/

theorem readDeviceId_read (read : Numeral.parse (.inBase 16) text = .ok id) :
    readDeviceId text = .ok id := by
  rw [readDeviceId, Numeral.parse?, read]
  rfl

theorem readDeviceId_refused {refusal : Numeral.Refusal}
    (refused : Numeral.parse (.inBase 16) text = .error refusal) :
    readDeviceId text = .error s!"Invalid hex value '{text}'" := by
  rw [readDeviceId, Numeral.parse?, refused]
  rfl

/-- A text that is an id as devices are listed with it, but for the case of the letters. -/
def Shows (text : String) (id : Int) : Prop :=
  text.toList.map Char.toLower = (Hex.padded 4 id).toList.map Char.toLower

instance : Decidable (Shows text id) := inferInstanceAs (Decidable (_ = _))

theorem Shows.writes (shows_ : Shows text id) : Writes text.toList id :=
  (Hex.padded_writes 4 id).recased shows_

theorem readDeviceId_shown {before after : String} (shows_ : Shows text id)
    (blank : (before.toList ++ after.toList).all isBlank) :
    readDeviceId (before ++ text ++ after) =
      if (before.toList ++ after.toList).any isSeparator then
        .error s!"Invalid hex value '{before ++ text ++ after}'"
      else .ok id := by
  have ⟨blankBefore, blankAfter⟩ := List.forall_mem_append.mp (List.all_eq_true.mp blank)
  have read : Numeral.parse (.inBase 16) (before ++ text ++ after) =
      if (before.toList ++ after.toList).any isSeparator then .error .malformed else .ok id := by
    rw [Numeral.parse, String.toList_append, String.toList_append, List.append_assoc]
    exact Numeral.ofChars_written shows_.writes blankBefore blankAfter
  cases separated : (before.toList ++ after.toList).any isSeparator with
  | true =>
      rw [separated] at read
      exact readDeviceId_refused read
  | false =>
      rw [separated] at read
      exact readDeviceId_read read

/-- How an id is read, as an option and where a settings file gives it as a text. -/
inductive ReadAlike (setting : Setting) (text : String) : Prop where
  | read {id : Int} (asOption : readDeviceId text = .ok id)
      (asSetting : Settings.number setting (.text text) = .ok (.int id))
      (loaded : ∀ tree path s, GivesText tree path setting text →
        Settings.load tree path = .ok s → s setting = .int id)
  | refused {reason : String} (asOption : readDeviceId text = .error s!"Invalid hex value '{text}'")
      (asSetting : Settings.number setting (.text text) = .error reason)
      (loaded : ∀ tree path, GivesText tree path setting text →
        ∃ e, Settings.load tree path = .error e ∧ e.errorClass? = some .configuration)

theorem readAlike {setting : Setting} (isNumber : setting ∈ Settings.numbers)
    (marked : HexMarked text.toList) : ReadAlike setting text := by
  have same : Numeral.parse (.inBase 16) text = Numeral.parse .marked text :=
    Numeral.ofChars_marked marked
  cases read : Numeral.parse .marked text with
  | ok id =>
      exact .read (readDeviceId_read (same.trans read)) (Settings.number_text read)
        fun _ _ _ => Settings.loaded_text isNumber read
  | error refusal =>
      exact .refused (readDeviceId_refused (same.trans read)) (Settings.number_refused read)
        fun _ _ => Settings.refused_text isNumber read

/-! ## Listed ids -/

theorem padded_apart (id : Int) : ':' ∉ (Hex.padded 4 id).toList ∧ ' ' ∉ (Hex.padded 4 id).toList :=
  have writes := Hex.padded_writes 4 id
  ⟨writes.apart rfl (by decide) (by decide), writes.apart rfl (by decide) (by decide)⟩

/-- The ids in the list of devices can be given back as options, in either case of their letters and
among blanks that are no separators. Those with the mark of base sixteen are the same id as an
option and as a setting, or they are refused as both. -/
theorem ids_read_back :
    (∀ d : DeviceInfo, ∃ vendor product, (deviceLines d).head? =
        some (vendor ++ ":" ++ product ++ " " ++ deviceLabel d) ∧
      ':' ∉ vendor.toList ∧ ' ' ∉ product.toList ∧ Shows vendor d.vendor ∧
      Shows product d.product) ∧
    (∀ (id : Int) (before text after : String), Shows text id →
      (before.toList ++ after.toList).all isBlank →
      readDeviceId (before ++ text ++ after) =
        if (before.toList ++ after.toList).any isSeparator then
          .error s!"Invalid hex value '{before ++ text ++ after}'"
        else .ok id) ∧
    ∀ setting ∈ [Setting.vendor, .product], ∀ text : String, HexMarked text.toList →
      ReadAlike setting text := by
  refine ⟨fun d => ?_, fun id before text after => readDeviceId_shown, ?_⟩
  · exact ⟨Hex.padded 4 d.vendor, Hex.padded 4 d.product, rfl, (padded_apart d.vendor).1,
      (padded_apart d.product).2, rfl, rfl⟩
  · intro setting isId text marked
    refine readAlike ?_ marked
    rcases List.mem_pair.mp isId with rfl | rfl <;> decide

theorem ids_read_back_emSpace :
    readDeviceId ("\u2003" ++ "-2fE" ++ "\u0085") = .ok (-0x2FE) ∧
    readDeviceId ("\x1F" ++ "-2fE" ++ "") = .error "Invalid hex value '\x1F-2fE'" ∧
    ∃ s, Settings.load (Settings.Reading.fileOf "'product_id': '-0X_1f'") "bridge.yaml" = .ok s ∧
      readDeviceId "-0X_1f" = .ok (-0x1F) ∧ s .product = .int (-0x1F) := by
  obtain ⟨-, shown, alike⟩ := ids_read_back
  have shows_ : Shows "-2fE" (-0x2FE) := by decide
  refine ⟨shown _ "\u2003" "-2fE" "\u0085" shows_ rfl, shown _ "\x1F" "-2fE" "" shows_ rfl, ?_⟩
  have written : Settings.Reading.writes "'product_id': '-0X_1f'"
      (.map [(.text "product_id", .text "-0X_1f")]) = true := by decide +kernel
  have reads := Settings.Reading.Of.written written
  have marked : HexMarked "-0X_1f".toList := ⟨'X', _, Or.inr rfl, rfl⟩
  have value : readDeviceId "-0X_1f" = .ok (-0x1F) := rfl
  obtain ⟨s, accepted⟩ : ∃ s, Settings.load (Settings.Reading.fileOf "'product_id': '-0X_1f'")
      "bridge.yaml" = .ok s := ⟨_, reads.load⟩
  refine ⟨s, accepted, value, ?_⟩
  cases alike .product (by decide) "-0X_1f" marked with
  | read asOption _ loaded =>
      rw [value] at asOption
      cases asOption
      exact loaded _ _ s ⟨_, _, reads, rfl, rfl⟩ accepted
  | refused asOption =>
      rw [value] at asOption
      cases asOption

/-- A separator is a blank, but no id is read after one. -/
theorem readDeviceId_separated :
    ¬∀ (id : Int) (before after : String), (before.toList ++ after.toList).all isBlank →
      readDeviceId (before ++ Hex.padded 4 id ++ after) = .ok id := by
  intro all
  have refused : readDeviceId ("\x1C" ++ Hex.padded 4 0x1234 ++ "") =
      .error "Invalid hex value '\x1C1234'" := rfl
  have read := all 0x1234 "\x1C" "" rfl
  rw [refused] at read
  cases read

end Console

end ChunkRelay
