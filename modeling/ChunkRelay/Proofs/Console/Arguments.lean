import ChunkRelay.Console.Arguments
import Mathlib.Tactic.SplitIfs

/-! # What options hold

Reading arguments takes a name only from the names of the command, and a value only for a name that
takes one. So each option that is given holds a value of its kind, and none of them is null.
-/

namespace ChunkRelay.Console

section Uses

variable {ι : Type} {names : List (OptionName ι)}

theorem Argument.candidates_named {text : List Char} {name : OptionName ι}
    {attached? : Option (List Char)} (listed : (name, attached?) ∈ candidates names text) :
    name ∈ names := by
  rw [candidates] at listed
  split at listed
  · obtain ⟨_, member, ⟨⟩⟩ := List.mem_map.mp listed
    exact (List.mem_filter.mp member).1
  · obtain ⟨other, member, found⟩ := List.mem_filterMap.mp listed
    split_ifs at found <;> cases found <;> exact member

theorem Argument.classify_named {text : String} {name : OptionName ι}
    {attached? : Option (List Char)} (found : classify names text = some (.option name attached?)) :
    name ∈ names := by
  rw [classify] at found
  dsimp only at found
  split at found
  · cases found
  · split at found
    · next named =>
        cases found
        exact List.mem_of_find?_eq_some named
    · cases found
    · next attached _ =>
        cases found
        obtain ⟨_, -, paired⟩ := Option.bind_eq_some_iff.mp attached
        obtain ⟨_, named, ⟨⟩⟩ := Option.map_eq_some_iff.mp paired
        exact List.mem_of_find?_eq_some named
    · split at found
      · next only =>
          cases found
          have listed : (name, attached?) ∈ candidates names text.toList := by
            rw [only]
            exact List.mem_cons_self
          exact candidates_named listed
      · cases found
      · split at found <;> cases found

theorem Argument.classifyAll_named {texts : List String} {arguments : List (Argument ι)}
    (found : classifyAll names texts = some arguments) {name : OptionName ι}
    {attached? : Option (List Char)} (member : .option name attached? ∈ arguments) :
    name ∈ names := by
  induction texts generalizing arguments with
  | nil =>
      cases found
      cases member
  | cons text texts ih =>
      rw [classifyAll] at found
      split at found
      · cases found
        simp at member
      · obtain ⟨argument, first, found⟩ := Option.bind_eq_some_iff.mp found
        obtain ⟨others, rest, found⟩ := Option.bind_eq_some_iff.mp found
        cases found
        rcases List.mem_cons.mp member with rfl | later
        · exact classify_named first
        · exact ih rest later

namespace OptionUse

/-- A use gives a value only by a name that takes one. -/
def Fits (names : List (OptionName ι)) : OptionUse ι → Prop
  | value option _ => ∃ name ∈ names, name.option = option ∧ name.takesValue = true
  | _ => True

theorem ofOption_fits {name : OptionName ι} (member : name ∈ names)
    (after? : Option (Argument ι)) : (ofOption name after?).1.Fits names := by
  fun_cases ofOption name after? with
  | case1 takes => exact ⟨name, member, rfl, takes⟩
  | _ => trivial

theorem ofAttached_fits {name : OptionName ι} (member : name ∈ names)
    {after? : Option (Argument ι)} {text : List Char} {uses : List (OptionUse ι)} {taken : Bool}
    (read : ofAttached names after? name text = some (uses, taken)) :
    ∀ use ∈ uses, use.Fits names := by
  -- Each letter that is attached may be a flag of its own, up to one that takes the rest.
  induction text generalizing name uses taken with
  | nil =>
      rw [ofAttached] at read
      split at read
      · next takes =>
          cases read
          simp only [List.mem_singleton, forall_eq]
          exact ⟨name, member, rfl, takes⟩
      · cases read
  | cons c rest ih =>
      rw [ofAttached] at read
      split_ifs at read with takes
      · cases read
        simp only [List.mem_singleton, forall_eq]
        exact ⟨name, member, rfl, takes⟩
      · obtain ⟨next, found, read⟩ := Option.bind_eq_some_iff.mp read
        have next_member := List.mem_of_find?_eq_some found
        dsimp only at read
        split at read
        · have fits := ofOption_fits next_member after?
          split at read
          · cases read
          · next use taken' read' =>
              cases read
              rw [read'] at fits
              simpa using ⟨trivial, fits⟩
        · obtain ⟨⟨uses', taken'⟩, behind, read⟩ := Option.bind_eq_some_iff.mp read
          cases read
          exact List.forall_mem_cons.mpr ⟨trivial, ih next_member behind⟩

theorem ofArgument_fits {argument : Argument ι}
    (known : ∀ name attached?, argument = .option name attached? → name ∈ names)
    (after? : Option (Argument ι)) :
    ∀ use ∈ (ofArgument names argument after?).1, use.Fits names := by
  fun_cases ofArgument names argument after? with
  | case4 name use taken read =>
      have fits := ofOption_fits (known name none rfl) after?
      rw [read] at fits
      simpa using fits
  | case5 name attached =>
      have member := known name (some attached) rfl
      cases read : ofAttached names after? name attached with
      | none => simp [Fits]
      | some result => exact ofAttached_fits member read
  | _ => simp [Fits]

theorem ofArguments_fits {arguments : List (Argument ι)}
    (known : ∀ name attached?, .option name attached? ∈ arguments → name ∈ names) (skip : Bool) :
    ∀ use ∈ ofArguments names skip arguments, use.Fits names := by
  induction arguments generalizing skip with
  | nil => nofun
  | cons argument arguments ih =>
      have later := ih fun name attached? member =>
        known name attached? (List.mem_cons_of_mem _ member)
      rw [ofArguments]
      split
      · exact later false
      · intro use member
        rcases List.mem_append.mp member with here | there
        · refine ofArgument_fits (fun name attached? same => ?_) _ use here
          exact known name attached? (same ▸ List.mem_cons_self)
        · exact later _ use there

end OptionUse

end Uses

/-! ## Options -/

/-- What an option can hold: the flag against uploads holds false, and all others what a text is for
    them. -/
def OptionId.MayHold : OptionId → Data → Prop
  | noUpload, v => v = .bool false
  | option, v => ∃ text, option.value? text = some v

/-- All options hold what they can. -/
def Options.Fits (o : Options) : Prop := ∀ option v, o option = some v → option.MayHold v

theorem OptionId.value?_notNull {option : OptionId} {text : String} {v : Data}
    (read : option.value? text = some v) : v.isNull = false := by
  revert read
  fun_cases OptionId.value? option text with
  | case1 | case8 =>
      rintro ⟨⟩
      rfl
  | _ =>
      intro read
      obtain ⟨_, _, rfl⟩ := Option.map_eq_some_iff.mp read
      rfl

theorem OptionId.MayHold.notNull {option : OptionId} {v : Data} (held : option.MayHold v) :
    v.isNull = false := by
  cases option with
  | noUpload =>
      rw [MayHold] at held
      rw [held]
      rfl
  | _ =>
      obtain ⟨text, read⟩ := held
      exact value?_notNull read

theorem OptionId.names_value (command : Command) :
    ∀ name ∈ names command, name.takesValue = true → name.option ≠ noUpload := by
  cases command <;> decide

namespace Options

variable {o : Options} {option : OptionId}

theorem Fits.set (fits : o.Fits) {v : Data} (held : option.MayHold v) : (o.set option v).Fits := by
  intro other v' found
  rw [Options.set] at found
  split at found
  · next same =>
      cases found
      rwa [same]
  · exact fits other v' found

theorem Fits.setFlag (fits : o.Fits) : (o.setFlag option).Fits := by
  fun_cases Options.setFlag option o with
  | case1 => exact fits.set rfl
  | case2 => exact fits

theorem Fits.setText (fits : o.Fits) (text_option : option ≠ .noUpload) {text : String}
    {o' : Options} (taken : o.setText option text = some o') : o'.Fits := by
  obtain ⟨v, read, rfl⟩ := Option.map_eq_some_iff.mp taken
  refine fits.set ?_
  cases option with
  | noUpload => exact absurd rfl text_option
  | _ => exact ⟨text, read⟩

end Options

namespace Arguments

theorem readOptions_fits {command : Command} {strays : Bool} {o o' : Options}
    {uses : List (OptionUse OptionId)} (fits : o.Fits)
    (known : ∀ use ∈ uses, use.Fits (OptionId.names command))
    (read : readOptions strays o uses = .ok o') : o'.Fits := by
  fun_induction readOptions strays o uses with
  | case1 => cases read
  | case2 =>
      cases read
      exact fits
  | case3 => cases read
  | case4 strays o option rest _ ih => exact ih fits.setFlag (List.forall_mem_cons.mp known).2 read
  | case5 strays o option text rest o' taken ih =>
      have ⟨⟨name, member, same, takes⟩, later⟩ := List.forall_mem_cons.mp known
      have text_option := same ▸ OptionId.names_value command name member takes
      exact ih (fits.setText text_option taken) later read
  | case6 => cases read
  | case7 strays o rest ih => exact ih fits (List.forall_mem_cons.mp known).2 read
  | case8 => cases read

theorem readCommand_fits {verbose strays : Bool} {name : String} {rest : List String}
    {a : Arguments} (read : readCommand verbose strays name rest = .ok a) : a.options.Fits := by
  rw [readCommand] at read
  split at read
  · cases read
  · dsimp only at read
    split at read
    · cases read
    · next command _ _ arguments classified =>
        have known := OptionUse.ofArguments_fits
          (fun name attached? => Argument.classifyAll_named classified) false
        cases taken : readOptions strays .none
            (OptionUse.ofArguments (OptionId.names command) false arguments) with
        | error dismissal =>
            rw [taken] at read
            cases read
        | ok options =>
            rw [taken] at read
            cases read
            exact readOptions_fits (fun _ _ held => by cases held) known taken

theorem readProgram_fits {verbose strays : Bool} {classified : List (Argument OptionId)}
    {arguments : List String} {a : Arguments}
    (read : readProgram verbose strays classified arguments = .ok a) : a.options.Fits := by
  fun_induction readProgram verbose strays classified arguments with
  | case1 => exact readCommand_fits read
  | case2 => cases read
  | case3 verbose strays argument arguments text rest _ _ uses _ _ ih =>
      cases flags : readFlags verbose strays uses with
      | error dismissal =>
          rw [flags] at read
          cases read
      | ok flags' =>
          rw [flags] at read
          exact ih _ _ read
  | case4 => cases read

/-- Every option that arguments give holds what it can. -/
theorem read_fits {arguments : List String} {a : Arguments}
    (read : Arguments.read arguments = .ok a) : a.options.Fits := by
  rw [Arguments.read] at read
  split at read
  · exact readProgram_fits read
  · cases read

end Arguments

end ChunkRelay.Console
