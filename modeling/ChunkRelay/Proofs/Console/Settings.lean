import ChunkRelay.Console.Program
import ChunkRelay.Proofs.Console.Arguments
import ChunkRelay.Proofs.Device.Contract
import ChunkRelay.Proofs.Settings.Layers

/-! # The settings of a run

The options are a layer on top of the settings file, and that one is a layer on the defaults. What
comes out of this is refused if it selects no device or leaves no time for uploads. What is not
refused selects a device that a context opens: no later check finds that there is none.
-/

namespace ChunkRelay

namespace Console

open Settings (Layer FileGives Gives)

variable {a : Arguments} {setting : Setting} {v : Data}

/-! ## Options as a layer -/

/-- What the options of a command give. To be verbose is an option of the program itself. -/
def Arguments.layer (a : Arguments) : Layer
  | .verbose => if a.verbose then some (.bool true) else none
  | .vendor => a.options .vendor
  | .product => a.options .product
  | .devicePath => a.options .devicePath
  | .serialNumber => a.options .serialNumber
  | .readTimeoutMs => a.options .readTimeout
  | .uploadTimeoutMs => a.options .uploadTimeout
  | .upload => a.options .noUpload
  | .logFile => a.options .logFile

/-- The flag for being verbose as a value. -/
def Arguments.verboseValues (a : Arguments) : List (Setting × Data) :=
  if a.verbose then [(.verbose, .bool true)] else []

/-- The values of the options of a command. -/
def Arguments.optionValues (a : Arguments) : List (Setting × Data) :=
  OptionId.settings.filterMap fun (option, setting) => (a.options option).map (setting, ·)

theorem overrides_eq (command : a.command ≠ .devices) :
    a.overrides = a.verboseValues ++ a.optionValues := by
  rw [Arguments.overrides]
  split
  · next devices => exact absurd devices command
  · rfl
  · rfl

theorem mem_optionValues :
    (setting, v) ∈ a.optionValues ↔ setting ≠ .verbose ∧ a.layer setting = some v := by
  rw [Arguments.optionValues, List.mem_filterMap]
  cases setting <;> simp [OptionId.settings, Arguments.layer]

theorem mem_overrides (command : a.command ≠ .devices) :
    (setting, v) ∈ a.overrides ↔ a.layer setting = some v := by
  rw [overrides_eq command, List.mem_append, mem_optionValues, Arguments.verboseValues]
  by_cases verbose : setting = .verbose
  · subst verbose
    cases set : a.verbose <;> simp [Arguments.layer, set, eq_comm]
  · cases set : a.verbose <;> simp [verbose]

theorem overrides_once (command : a.command ≠ .devices) : (a.overrides.map (·.1)).Nodup := by
  have options_once : (a.optionValues.map (·.1)).Nodup := by
    have names_once : OptionId.settings.Pairwise fun p q => p.2 ≠ q.2 := by decide
    refine List.pairwise_map.mpr (names_once.filterMap _ ?_)
    rintro p q apart _ first _ second
    obtain ⟨_, _, rfl⟩ := Option.map_eq_some_iff.mp first
    obtain ⟨_, _, rfl⟩ := Option.map_eq_some_iff.mp second
    exact apart
  rw [overrides_eq command, List.map_append]
  refine List.nodup_append.mpr ⟨?_, options_once, ?_⟩
  · rw [Arguments.verboseValues]
    split <;> decide
  · intro flag flagged name named same
    obtain ⟨⟨setting, v⟩, listed, rfl⟩ := List.mem_map.mp named
    have other := (mem_optionValues.mp listed).1
    rw [Arguments.verboseValues] at flagged
    split at flagged
    · exact other (same.symm.trans (List.mem_singleton.mp flagged))
    · cases flagged

theorem overrides_give (fits : a.options.Fits) (command : a.command ≠ .devices) :
    Gives a.overrides a.layer := by
  refine ⟨overrides_once command, fun setting v => ?_⟩
  rw [mem_overrides command]
  refine (and_iff_left_of_imp fun given => ?_).symm
  cases setting with
  | verbose =>
      rw [Arguments.layer] at given
      split at given <;> cases given
      rfl
  | _ => exact (fits _ _ given).notNull

/-! ## Numbers -/

/-- What a setting that is a number may be: a number, or the empty list that two dashes give. -/
def Numeric (v : Data) : Prop := (∃ n, v = .int n) ∨ v = .list []

theorem OptionId.value?_numeric {option : OptionId} {text : String}
    (isNumber : option ∈ [vendor, product, readTimeout, uploadTimeout])
    (read : option.value? text = some v) : Numeric v := by
  revert read
  fun_cases OptionId.value? option text with
  | case1 =>
      rintro ⟨⟩
      exact Or.inr rfl
  | case2 | case3 | case5 | case6 | case7 =>
      intro read
      obtain ⟨n, _, rfl⟩ := Option.map_eq_some_iff.mp read
      exact Or.inl ⟨n, rfl⟩
  | case4 => simp at isNumber
  | case8 => simp_all

theorem Arguments.layer_numeric (fits : a.options.Fits) (isNumber : setting ∈ Settings.numbers)
    (given : a.layer setting = some v) : Numeric v := by
  cases setting with
  | vendor | product | readTimeoutMs | uploadTimeoutMs =>
      obtain ⟨text, read⟩ := fits _ v given
      exact OptionId.value?_numeric (by decide) read
  | _ => exact absurd isNumber (by decide)

theorem file_numeric {tree : FileTree} {file? : Option String} {file : Layer}
    (gives : FileGives tree file? file) (isNumber : setting ∈ Settings.numbers)
    (given : file setting = some v) : Numeric v := by
  cases gives with
  | none => cases given
  | file reads held =>
      obtain ⟨typed, notNull⟩ := Option.filter_eq_some_iff.mp given
      obtain ⟨value, found, typed⟩ := Option.bind_eq_some_iff.mp typed
      rw [Settings.typed?, if_pos isNumber] at typed
      cases given : Settings.number setting value with
      | error reason =>
          rw [given] at typed
          cases typed
      | ok v' =>
          rw [given] at typed
          cases typed
          rcases (Settings.number_inversion given).2 with rfl | isInt
          · cases notNull
          · exact Or.inl isInt

theorem layered_numeric {tree : FileTree} {file? : Option String} {file : Layer}
    (fits : a.options.Fits) (gives : FileGives tree file? file)
    (isNumber : setting ∈ Settings.numbers) :
    Numeric (a.layer.atop (file.atop Settings.default) setting) := by
  rw [Layer.atop]
  cases option : a.layer setting with
  | some v => exact Arguments.layer_numeric fits isNumber option
  | none =>
      rw [Option.getD_none, Layer.atop]
      cases entry : file setting with
      | some v => exact file_numeric gives isNumber entry
      | none =>
          cases setting with
          | vendor | product | readTimeoutMs | uploadTimeoutMs => exact Or.inl ⟨_, rfl⟩
          | _ => exact absurd isNumber (by decide)

/-! ## The check -/

/-- No device is selected: there is no path, and one of the ids is missing. -/
def Unselected (s : Settings) : Prop :=
  (s .devicePath).isSet = false ∧ ((s .vendor).isSet = false ∨ (s .product).isSet = false)

theorem selectDevice_eq_false {s : Settings} : s.selectDevice = false ↔ Unselected s := by
  rw [Settings.selectDevice, Unselected, Bool.or_eq_false_iff, Bool.and_eq_false_iff]

/-- What comes of checking settings. -/
inductive Checked (s : Settings) : Except Failure Settings → Prop where
  | unselected (none : Unselected s) : Checked s (.error (.caused .noDeviceSelected))
  | usable {ms : Int} (selected : ¬Unselected s) (timeout : s .uploadTimeoutMs = .int ms)
      (positive : 0 < ms) : Checked s (.ok s)
  | noTime {ms : Int} (selected : ¬Unselected s) (timeout : s .uploadTimeoutMs = .int ms)
      (notPositive : ms ≤ 0) (writable : Numeral.isWritable ms = true) :
      Checked s (.error (.caused (.settingNotPositive (.int ms))))
  | unwritable {ms : Int} (selected : ¬Unselected s) (timeout : s .uploadTimeoutMs = .int ms)
      (notPositive : ms ≤ 0) (tooLong : Numeral.isWritable ms = false) :
      Checked s (.error (.defect .numberTooLong))
  | dashes (selected : ¬Unselected s) (timeout : s .uploadTimeoutMs = .list []) :
      Checked s (.error (.defect .settingIncomparable))

theorem validate_checked {s : Settings} (numeric : Numeric (s .uploadTimeoutMs)) :
    Checked s s.validate := by
  rw [Settings.validate]
  cases selected : s.selectDevice with
  | false => exact .unselected (selectDevice_eq_false.mp selected)
  | true =>
      have selected : ¬Unselected s := fun none => by
        rw [selectDevice_eq_false.mpr none] at selected
        cases selected
      rcases numeric with ⟨ms, timeout⟩ | timeout
      · have atMost : (Quantity.finite ms).isAtMost (.finite 0) = decide (ms ≤ 0) := by
          simp only [Quantity.isAtMost, Rat.intCast_nonpos]
        simp only [timeout, Data.quantity?, atMost, Bool.not_true, Bool.false_eq_true, if_false]
        by_cases notPositive : ms ≤ 0
        · rw [if_pos (decide_eq_true notPositive), Failure.ofCause, Cause.isWritable,
            Data.isWritable]
          cases writable : Numeral.isWritable ms with
          | true => exact .noTime selected timeout notPositive writable
          | false => exact .unwritable selected timeout notPositive writable
        · rw [if_neg (by simpa using notPositive)]
          exact .usable selected timeout (by omega)
      · rw [timeout]
        exact .dashes selected timeout

namespace Checked

variable {s : Settings} {result : Except Failure Settings}

theorem ok {s' : Settings} (checked : Checked s (.ok s')) : s' = s ∧ ¬Unselected s := by
  cases checked with
  | usable selected => exact ⟨rfl, selected⟩

theorem configuration_iff (checked : Checked s result) :
    (∃ e, result = .error e ∧ e.errorClass? = some .configuration) ↔
      Unselected s ∨
        ∃ ms ≤ 0, s .uploadTimeoutMs = .int ms ∧ Numeral.isWritable ms = true := by
  cases checked with
  | unselected none => exact iff_of_true ⟨_, rfl, rfl⟩ (Or.inl none)
  | noTime selected timeout notPositive writable =>
      exact iff_of_true ⟨_, rfl, rfl⟩ (Or.inr ⟨_, notPositive, timeout, writable⟩)
  | usable selected timeout positive =>
      refine iff_of_false (by rintro ⟨_, ⟨⟩, _⟩) ?_
      rintro (none | ⟨ms, notPositive, same, _⟩)
      · exact selected none
      · cases timeout.symm.trans same
        omega
  | unwritable selected timeout notPositive tooLong =>
      refine iff_of_false (by rintro ⟨_, ⟨⟩, ⟨⟩⟩) ?_
      rintro (none | ⟨ms, _, same, writable⟩)
      · exact selected none
      · cases timeout.symm.trans same
        rw [tooLong] at writable
        cases writable
  | dashes selected timeout =>
      refine iff_of_false (by rintro ⟨_, ⟨⟩, ⟨⟩⟩) ?_
      rintro (none | ⟨ms, _, same, _⟩)
      · exact selected none
      · cases timeout.symm.trans same

theorem tooLong {ms : Int} (checked : Checked s result) (selected : ¬Unselected s)
    (timeout : s .uploadTimeoutMs = .int ms) (notPositive : ms ≤ 0)
    (tooLong : Numeral.isWritable ms = false) : result = .error (.defect .numberTooLong) := by
  cases checked with
  | unwritable => rfl
  | unselected none => exact absurd none selected
  | usable _ same =>
      cases timeout.symm.trans same
      omega
  | noTime _ same _ writable =>
      cases timeout.symm.trans same
      rw [tooLong] at writable
      cases writable
  | dashes _ same => cases timeout.symm.trans same

theorem other {e : Failure} (checked : Checked s (.error e))
    (differs : e.errorClass? ≠ some .configuration) :
    (∃ ms ≤ 0, s .uploadTimeoutMs = .int ms ∧ Numeral.isWritable ms = false) ∨
      s .uploadTimeoutMs = .list [] := by
  cases checked with
  | unselected | noTime => exact absurd rfl differs
  | unwritable selected timeout notPositive tooLong =>
      exact Or.inl ⟨_, notPositive, timeout, tooLong⟩
  | dashes selected timeout => exact Or.inr timeout

end Checked

variable {tree : FileTree}

/-- If the settings file loads, it is a layer between the options and the defaults. -/
theorem resolveSettings_layers (fits : a.options.Fits) (command : a.command ≠ .devices)
    (loads : ∀ path, a.configFile? = some path → ∃ s, Settings.load tree path = .ok s) :
    ∃ file, FileGives tree a.configFile? file ∧
      resolveSettings tree a = (a.layer.atop (file.atop Settings.default)).validate := by
  have options := Settings.override_eq (overrides_give fits command)
  rw [resolveSettings]
  cases named : a.configFile? with
  | none => exact ⟨_, .none, congrArg Settings.validate (options Settings.default)⟩
  | some path =>
      obtain ⟨s, loaded⟩ := loads path named
      obtain ⟨d, reads, unambiguous, given⟩ := Settings.load_document loaded
      obtain ⟨entries, held, rfl⟩ := Settings.ofDocument_layer unambiguous given
      refine ⟨_, .file reads held, ?_⟩
      dsimp only
      rw [loaded]
      exact congrArg Settings.validate (options _)

/-! ## Opening what is selected -/

/-- Not one of the failures of what is asked to open no device. -/
def KnowsDevice (e : Failure) : Prop :=
  e ≠ .caused .devicePathEmpty ∧ e ≠ .caused .deviceUnspecified

theorem KnowsDevice.fault {e : Failure} (isFault : e.isDeviceFault = true) : KnowsDevice e := by
  constructor <;> rintro rfl <;> cases isFault

theorem KnowsDevice.defect (defect : Defect) : KnowsDevice (.defect defect) := by
  constructor <;> rintro ⟨⟩

section Opening

open Act

variable {σ : Type} {p : Platform σ}

theorem native_knows {α : Type} {call : Call σ α} (known : call.FaultsOnly) :
    FailsAs KnowsDevice (Connection.native call) :=
  fun w e failed => .fault (known w.2 e failed)

theorem openNative_knows (known : p.native.FaultsOnly) (address : DeviceAddress) :
    FailsAs KnowsDevice (Connection.openNative p.native address) := by
  rw [Connection.openNative]
  split
  · cases address.path with
    | text path => exact native_knows (known.openPath _)
    | rawText path => exact .fail (.fault rfl)
    | _ => exact .fail (.defect _)
  · exact native_knows (known.openIds _ _ _)

theorem openConnection_knows (known : p.native.FaultsOnly) :
    FailsAs KnowsDevice (Connection.openDevice p.native) := by
  refine (FailsAs.get.bind fun _ => .pure _).bind fun c => ?_
  split
  · exact .pure _
  · refine FailsAs.bind ((openNative_knows known _).tryCatch fun e knows => ?_) fun _ => .modify _
    split
    · exact .fail ⟨nofun, nofun⟩
    · exact .fail knows

theorem log_knows (level : Level) (message? : Option String) :
    FailsAs KnowsDevice ((Bench.backend p).log level message?) := by
  have noted : FailsAs KnowsDevice
      (message?.forM (Act.log level .context) : Act (Bench σ) Unit) := by
    cases message? with
    | none => exact .pure _
    | some message => exact .log level .context message
  refine noted.bind fun _ => ?_
  split
  · exact .fail (.defect _)
  · exact .pure _

theorem openSelected_knows (known : p.native.FaultsOnly) {selector : DeviceSelector}
    {c : Connection} (made : Connection.new selector.address = .ok c) :
    FailsAs KnowsDevice (Context.openSelected (Bench.backend p) selector) := by
  have make : FailsAs KnowsDevice ((Bench.backend p).make selector) := by
    refine (FailsAs.ofCause ?_).bind fun _ => .modify _
    rw [made]
    nofun
  refine make.within.bind fun _ => (openConnection_knows known).within.within.bind fun _ => ?_
  exact (FailsAs.modify _).bind fun _ => (log_knows _ _).within.bind fun _ => .pure _

theorem requireActive_knows (operation : String) :
    FailsAs KnowsDevice (Context.requireActive (η := Unit) (ω := Bench σ) operation) := by
  refine (FailsAs.get.bind fun _ => .pure _).bind fun c => ?_
  split
  · exact .pure _
  · exact .fail ⟨nofun, nofun⟩

theorem Numeric.ofSet (numeric : Numeric v) (set : v.isSet = true) : ∃ n, v = .int n ∧ n ≠ 0 := by
  obtain ⟨n, rfl⟩ | rfl := numeric
  · exact ⟨n, rfl, by simpa [Data.isSet] using set⟩
  · cases set

theorem openDevice_knows (known : p.native.FaultsOnly) {s : Settings} (selected : ¬Unselected s)
    (vendor : Numeric (s .vendor)) (product : Numeric (s .product)) :
    FailsAs KnowsDevice (Bench.openDevice p s) := by
  rw [Bench.openDevice]
  split
  · next path =>
      have made : Connection.new (DeviceSelector.path (s .devicePath)).address =
          .ok ⟨⟨s .devicePath, 0, 0, .null⟩, false, false, none⟩ := by
        rw [Connection.new, if_neg (by simp [DeviceSelector.address, path])]
        rfl
      refine (requireActive_knows _).bind fun _ => ?_
      rw [if_pos path]
      exact openSelected_knows known made
  · next noPath =>
      -- Ids that are set are numbers other than 0, which is what a connection asks for.
      have ids : (s .vendor).isSet = true ∧ (s .product).isSet = true := by
        by_contra missing
        refine selected ⟨Bool.eq_false_iff.mpr noPath, ?_⟩
        rwa [not_and_or, Bool.not_eq_true, Bool.not_eq_true] at missing
      obtain ⟨v, isVendor, vendor_set⟩ := vendor.ofSet ids.1
      obtain ⟨q, isProduct, product_set⟩ := product.ofSet ids.2
      have made : Connection.new (DeviceSelector.ids v q (s .serialNumber)).address =
          .ok ⟨⟨.null, v, q, s .serialNumber⟩, false, false, none⟩ := by
        rw [Connection.new, if_neg (by simp [DeviceSelector.address, vendor_set, product_set])]
        rfl
      have integer_int : ∀ n,
          Bench.integer (.int n) = (pure n : Act (Context Unit × Bench σ) Int) := fun _ => rfl
      rw [isVendor, isProduct, integer_int, integer_int, pure_bind, pure_bind]
      exact (requireActive_knows _).bind fun _ => openSelected_knows known made

end Opening

/-! ## The settings of a command -/

end Console

end ChunkRelay
