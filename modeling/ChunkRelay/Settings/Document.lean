import ChunkRelay.Files.Tree
import ChunkRelay.Settings.Basic
import ChunkRelay.Text.Utf8
import ChunkRelay.Yaml.Value

/-! # Settings files

Settings are kept in a YAML file: a mapping, or one under the key `bridge`. Numbers may be written
as texts, since the ids of devices usually come in hexadecimal.
-/

namespace ChunkRelay.Settings

/-- The settings that are numbers, in the order in which they are looked at. -/
def numbers : List Setting := [.vendor, .product, .readTimeoutMs, .uploadTimeoutMs]

/-- How much of a text that is no numeral is repeated. -/
def maxShownNumeral : Nat := 200

/-- What is said about a text that is no numeral. -/
def numeralRefusal (value : Data) (refusal : Numeral.Refusal) : String :=
  match refusal with
  | .malformed =>
    "invalid literal for int() with base 0: " ++
      String.ofList (value.shown.toList.take maxShownNumeral)
  | .tooLong digits =>
    s!"Exceeds the limit ({Numeral.maxDigits} digits) for integer string conversion:" ++
      s!" value has {digits} digits; use sys.set_int_max_str_digits() to increase the limit"

/-- The value of a setting that is a number, or what is wrong with it. Null stays null. -/
def number (setting : Setting) (value : Data) : Except String Data :=
  let ofNumeral := fun
    | .ok n => .ok (.int n)
    | .error refusal => .error (numeralRefusal value refusal)
  match value with
  | .null | .int _ => .ok value
  | .text text => ofNumeral (Numeral.parse .marked text)
  | .rawText t => ofNumeral (Numeral.ofChars .marked t.softened)
  | _ => .error (setting.name ++ " must be an integer, got " ++ value.kindName)

/-- Entries whose numbers are numbers. -/
def withNumbers (entries : List (Data × Data)) : Except String (List (Data × Data)) :=
  numbers.foldlM
    (fun entries setting =>
      match Data.lookup? setting.name entries with
      | some value => do
        pure (Data.insert (.text setting.name) (← number setting value) entries)
      | none => pure entries)
    entries

/-- The mapping that holds the settings of a document. An empty document holds none. -/
def body? (document : Data) : Option (List (Data × Data)) :=
  match document with
  | .map entries =>
    match Data.lookup? "bridge" entries with
    | some (.map inner) => some inner
    | _ => some entries
  | _ => if document.isSet then none else some []

/-- The settings of a document. The path is where it came from. -/
def ofDocument (path : String) (document : Data) : Except Failure Settings := do
  let some entries := body? document | throw (.caused (.settingsNotMapping path))
  match withNumbers entries with
  | .ok entries => pure (Settings.default.override (← Settings.ofEntries entries))
  | .error reason => throw (.caused (.settingInvalid reason path))

/-- A text with all line ends written as line feeds. -/
def unifyLineEnds : List Char → List Char
  | [] => []
  | '\r' :: '\n' :: rest => '\n' :: unifyLineEnds rest
  | c :: rest => (if c = '\r' then '\n' else c) :: unifyLineEnds rest

def ofBytes (path : String) (bytes : List UInt8) : Except Failure Settings := do
  let some text := Utf8.decode? bytes | throw (.defect .fileNotUtf8)
  match Yaml.parse (unifyLineEnds text.toList) with
  | .ok document => ofDocument path document
  | .error .malformed => throw (.caused (.settingsUnparsable path))
  | .error (.unfit defect) => throw (.defect defect)

def load (tree : FileTree) (path : String) : Except Failure Settings :=
  let shown := (Path.ofText path).text
  match tree.find path with
  | .ok (.file bytes) => ofBytes shown bytes
  | .ok .missing => .error (.caused (.settingsMissing shown))
  | .ok .directory => .error (.defect .pathIsDirectory)
  | .error defect => .error (.defect defect)

end ChunkRelay.Settings
