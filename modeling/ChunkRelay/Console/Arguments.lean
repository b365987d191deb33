import ChunkRelay.Console.Options
import ChunkRelay.Settings.Basic

/-! # Arguments

The commands of the program and their options. Options of the program itself come before the
command, those of the command after it. Asking for help ends it all where it stands, and so does
an argument that cannot be read; arguments that have no place are refused only at the end.
-/

namespace ChunkRelay.Console

inductive Command where
  | devices | config | stream
  deriving Repr, DecidableEq

namespace Command

def name : Command → String
  | devices => "devices"
  | config => "config"
  | stream => "stream"

def ofName? (name : String) : Option Command := [devices, config, stream].find? (·.name = name)

end Command

inductive OptionId where
  | help | verbose | vendor | product | configFile | devicePath | serialNumber | seconds
  | maxPackets | readTimeout | uploadTimeout | noUpload | logFile
  deriving Repr, DecidableEq

namespace OptionId

/-- The options that ask for help. -/
def helpNames : List (OptionName OptionId) := [⟨"-h", help, false⟩, ⟨"--help", help, false⟩]

def programNames : List (OptionName OptionId) :=
  helpNames ++ [⟨"-v", verbose, false⟩, ⟨"--verbose", verbose, false⟩]

def idNames : List (OptionName OptionId) := [⟨"--vid", vendor, true⟩, ⟨"--pid", product, true⟩]

def deviceNames : List (OptionName OptionId) :=
  idNames ++ [⟨"--config", configFile, true⟩, ⟨"--path", devicePath, true⟩,
    ⟨"--serial", serialNumber, true⟩]

def runNames : List (OptionName OptionId) :=
  [⟨"--secs", seconds, true⟩, ⟨"--max-packets", maxPackets, true⟩,
    ⟨"--read-timeout-ms", readTimeout, true⟩, ⟨"--upload-timeout-ms", uploadTimeout, true⟩,
    ⟨"--no-upload", noUpload, false⟩, ⟨"--log-file", logFile, true⟩]

/-- The options that give a setting. -/
def settings : List (OptionId × Setting) :=
  [(vendor, .vendor), (product, .product), (devicePath, .devicePath),
    (serialNumber, .serialNumber), (readTimeout, .readTimeoutMs),
    (uploadTimeout, .uploadTimeoutMs), (noUpload, .upload), (logFile, .logFile)]

def names : Command → List (OptionName OptionId)
  | .devices => helpNames ++ idNames
  | .config => helpNames ++ deviceNames
  | .stream => helpNames ++ deviceNames ++ runNames

end OptionId

/-- Read the id of a device, which is written in hexadecimal. What is wrong with it is said in
words. -/
def readDeviceId (text : String) : Except String Int :=
  match Numeral.parse? (.inBase 16) text with
  | some id => .ok id
  | none => .error s!"Invalid hex value '{text}'"

/-- The value that a text is for an option, if it is one. Two dashes are no text but nothing at all,
whatever the option takes. -/
def OptionId.value? (option : OptionId) (text : String) : Option Data :=
  if text = "--" then some (.list [])
  else
    match option with
    | .vendor | .product => (readDeviceId text).toOption.map .int
    | .seconds => (Binary64.parse? text).map .float
    | .maxPackets | .readTimeout | .uploadTimeout =>
      (Numeral.parse? (.inBase 10) text).map .int
    | _ => some (.text text)

abbrev Options : Type := OptionId → Option Data

namespace Options

def none : Options := fun _ => .none

/-- Take in the value of an option. The latest one counts. -/
def set (option : OptionId) (value : Data) (o : Options) : Options := fun other =>
  if other = option then some value else o other

/-- Take in a flag. -/
def setFlag (option : OptionId) (o : Options) : Options :=
  match option with
  | .noUpload => o.set .noUpload (.bool false)
  | _ => o

/-- Take in a value, which has to be one for its option. -/
def setText (option : OptionId) (text : String) (o : Options) : Option Options :=
  (option.value? text).map fun value => o.set option value

end Options

/-- What the program is asked to do. -/
structure Arguments where
  verbose : Bool
  command : Command
  options : Options

/-- Why arguments ask for nothing to be done. -/
inductive Dismissal where
  | help
  | refusal
  deriving Repr, DecidableEq

/-- The exit code for arguments that ask for nothing to be done. -/
def Dismissal.exitCode : Dismissal → Nat
  | help => 0
  | refusal => 2

namespace Arguments

/-- Take in what the arguments of a command ask for. -/
def readOptions (strays : Bool) (o : Options) :
    List (OptionUse OptionId) → Except Dismissal Options
  | [] => if strays then .error .refusal else .ok o
  | .flag .help :: _ => .error .help
  | .flag option :: rest => readOptions strays (o.setFlag option) rest
  | .value option text :: rest =>
    match o.setText option text with
    | some o => readOptions strays o rest
    | none => .error .refusal
  | .stray :: rest => readOptions true o rest
  | .misuse :: _ => .error .refusal

def readCommand (verbose strays : Bool) (name : String) (rest : List String) :
    Except Dismissal Arguments :=
  match Command.ofName? name with
  | none => .error .refusal
  | some command =>
    let names := OptionId.names command
    match Argument.classifyAll names rest with
    | none => .error .refusal
    | some arguments => do
      let options ← readOptions strays .none (OptionUse.ofArguments names false arguments)
      pure ⟨verbose, command, options⟩

/-- Take in the flags that one argument of the program asks for. -/
def readFlags (verbose strays : Bool) : List (OptionUse OptionId) → Except Dismissal (Bool × Bool)
  | [] => .ok (verbose, strays)
  | .flag .help :: _ => .error .help
  | .flag .verbose :: rest => readFlags true strays rest
  | .flag _ :: rest | .value .. :: rest => readFlags verbose strays rest
  | .stray :: rest => readFlags verbose true rest
  | .misuse :: _ => .error .refusal

/-- Read the options of the program up to the command. -/
def readProgram (verbose strays : Bool) :
    List (Argument OptionId) → List String → Except Dismissal Arguments
  | .operand name :: _, _ :: rest => readCommand verbose strays name rest
  | .separator :: _, _ => .error .refusal
  | argument :: arguments, _ :: rest => do
    let (uses, _) := OptionUse.ofArgument OptionId.programNames argument none
    let (verbose, strays) ← readFlags verbose strays uses
    readProgram verbose strays arguments rest
  | _, _ => .error .refusal

def read (arguments : List String) : Except Dismissal Arguments :=
  match Argument.classifyAll OptionId.programNames arguments with
  | some classified => readProgram false false classified arguments
  | none => .error .refusal

/-- The file of settings that the arguments name. An empty name is none. -/
def configFile? (a : Arguments) : Option String :=
  match a.options .configFile with
  | some (.text file) => if file.isEmpty then none else some file
  | _ => none

/-- The settings that the arguments give. Listing devices uses its ids for itself. -/
def overrides (a : Arguments) : List (Setting × Data) :=
  let verbose := if a.verbose then [(.verbose, .bool true)] else []
  match a.command with
  | .devices => verbose
  | .config | .stream =>
    verbose ++ OptionId.settings.filterMap fun (option, setting) =>
      (a.options option).map (setting, ·)

end Arguments

end ChunkRelay.Console
