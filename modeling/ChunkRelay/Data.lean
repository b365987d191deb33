import ChunkRelay.Moment
import ChunkRelay.Number.Binary64
import ChunkRelay.Text.RawText

/-! # Free-form values

Values whose shape is not fixed in advance: what a settings file holds, what a device record
reports, and the details of an error. Messages show them in one notation, with texts in quotes,
lists in brackets and mappings in braces, entries in the order they were written.
-/

namespace ChunkRelay

/-- A free-form value. -/
inductive Data where
  | null
  | bool (value : Bool)
  | int (value : Int)
  | float (value : Binary64)
  /-- What is no number. Two such values are told apart by their marks. -/
  | noNumber (mark : Nat)
  | text (value : String)
  /-- A text with halves of surrogate pairs in it. -/
  | rawText (value : RawText)
  | bytes (value : List UInt8)
  | day (value : Day)
  | moment (value : Moment)
  | list (items : List Data)
  | set (items : List Data)
  | map (entries : List (Data × Data))
  /-- A list or a mapping inside itself. -/
  | again (isMap : Bool)
  deriving Repr, Inhabited

namespace Data

mutual
/-- Whether two values are of the same kind and hold the same. -/
def same : Data → Data → Bool
  | null, null => true
  | bool a, bool b => a == b
  | int a, int b => a == b
  | float a, float b => a == b
  | noNumber a, noNumber b => a == b
  | text a, text b => a == b
  | rawText a, rawText b => a == b
  | bytes a, bytes b => a == b
  | day a, day b => a == b
  | moment a, moment b => a == b
  | list a, list b | set a, set b => sameItems a b
  | map a, map b => sameEntries a b
  | again a, again b => a == b
  | _, _ => false

def sameItems : List Data → List Data → Bool
  | [], [] => true
  | a :: as, b :: bs => a.same b && sameItems as bs
  | _, _ => false

def sameEntries : List (Data × Data) → List (Data × Data) → Bool
  | [], [] => true
  | (key, value) :: as, (key', value') :: bs =>
    key.same key' && value.same value' && sameEntries as bs
  | _, _ => false
end

instance : BEq Data := ⟨same⟩

def ofRawText (t : RawText) : Data :=
  match t.chars? with
  | some chars => text (String.ofList chars)
  | none => rawText t

/-- The name of a value's kind, as messages give it. -/
def kindName : Data → String
  | null => "NoneType"
  | bool _ => "bool"
  | int _ => "int"
  | float _ | noNumber _ => "float"
  | text _ | rawText _ => "str"
  | bytes _ => "bytes"
  | day _ => "date"
  | moment _ => "datetime"
  | list _ | again false => "list"
  | set _ => "set"
  | map _ | again true => "dict"

def isNull : Data → Bool
  | null => true
  | _ => false

/-- Whether a value counts as set: null, false, zero and everything empty do not. -/
def isSet : Data → Bool
  | null => false
  | bool b => b
  | int n => n ≠ 0
  | float (.finite _ m _) => m ≠ 0
  | text s => !s.isEmpty
  | bytes bs => !bs.isEmpty
  | list items | set items => !items.isEmpty
  | map entries => !entries.isEmpty
  | float _ | noNumber _ | rawText _ | day _ | moment _ | again _ => true

mutual
/-- The text of a value inside a message. -/
def shown : Data → String
  | null => "None"
  | bool b => if b then "True" else "False"
  | int n => toString n
  | float x => x.text
  | noNumber _ => Binary64.nan.text
  | text s => Quoted.text s
  | rawText t => t.quoted
  | bytes bs => Quoted.bytes bs
  | day d => d.shown
  | moment m => m.shown
  | list items => "[" ++ String.intercalate ", " (shownItems items) ++ "]"
  | set items =>
    if items.isEmpty then "set()"
    else "\x7b" ++ String.intercalate ", " (shownItems items) ++ "\x7d"
  | map entries => "\x7b" ++ String.intercalate ", " (shownEntries entries) ++ "\x7d"
  | again isMap => if isMap then "\x7b...\x7d" else "[...]"

def shownItems : List Data → List String
  | [] => []
  | item :: rest => item.shown :: shownItems rest

def shownEntries : List (Data × Data) → List String
  | [] => []
  | (key, value) :: rest => (key.shown ++ ": " ++ value.shown) :: shownEntries rest
end

mutual
/-- Whether something in a value lies inside itself, so that it cannot be written out. -/
def isEndless : Data → Bool
  | again _ => true
  | list items => anyEndless items
  | map entries => anyEndlessEntry entries
  | _ => false

def anyEndless : List Data → Bool
  | [] => false
  | item :: rest => item.isEndless || anyEndless rest

def anyEndlessEntry : List (Data × Data) → Bool
  | [] => false
  | (_, value) :: rest => value.isEndless || anyEndlessEntry rest
end

/-- The text of a value by itself: texts are not quoted, and points in time are written out. -/
def plain : Data → String
  | text s => s
  | rawText t => t.joined
  | day d => d.text
  | moment m => m.text
  | value => value.shown

mutual
/-- Whether the text of a value can be written. Only a number may be too long for it. -/
def isWritable : Data → Bool
  | int n => Numeral.isWritable n
  | list items | set items => allWritable items
  | map entries => allWritableEntries entries
  | _ => true

def allWritable : List Data → Bool
  | [] => true
  | item :: rest => item.isWritable && allWritable rest

def allWritableEntries : List (Data × Data) → Bool
  | [] => true
  | (key, value) :: rest => key.isWritable && value.isWritable && allWritableEntries rest
end

/-- The quantity that a value counts as: truth values count as 0 and 1. -/
def quantity? : Data → Option Quantity
  | bool b => some (.finite (if b then 1 else 0))
  | int n => some (.finite n)
  | float x => some x.quantity
  | noNumber _ => some .undefined
  | _ => none

/-- Whether two values are the same key of a mapping. Numbers are the same key if they are equal,
whatever their kinds, and points in time if they name the same instant. -/
def sameKey (a b : Data) : Bool :=
  match a, b with
  | moment m, moment n => m.isSame n
  | _, _ =>
    match a.quantity?, b.quantity? with
    | some (.finite x), some (.finite y) => x == y
    | _, _ => a == b

/-- The value of the last entry whose key is the text `key`. -/
def lookup? (key : String) (entries : List (Data × Data)) : Option Data :=
  (entries.reverse.find? fun entry => entry.1 == text key).map (·.2)

/-- Set the entry of `key`; a key that is there keeps its place and its spelling. -/
def insert (key : Data) (value : α) : List (Data × α) → List (Data × α)
  | [] => [(key, value)]
  | (k, v) :: rest =>
    if sameKey k key then (k, value) :: rest else (k, v) :: insert key value rest

/-! ## Values as integers -/

/-- Why a value is no integer. -/
inductive IntegerRefusal where
  /-- The value is of a kind that no integer is made of. -/
  | kind
  /-- The value is a text that writes none or a number that is none. -/
  | value
  /-- The value is infinite. -/
  | infinite
  deriving Repr, DecidableEq

/-- The integer that a value stands for. Texts and bytes are decimal numerals, and numbers with a
point lose their fraction. -/
def integer (value : Data) : Except IntegerRefusal Int :=
  match value with
  | int n => .ok n
  | bool b => .ok (if b then 1 else 0)
  | text s => ofNumeral (Numeral.ofChars (.inBase 10) s.toList)
  | bytes bs => ofNumeral (Numeral.ofAscii (.inBase 10) (bs.map fun b => Char.ofNat b.toNat))
  | rawText _ => .error .value
  | _ =>
    match value.quantity? with
    | some (.finite q) => .ok (q.num.tdiv q.den)
    | some (.infinite _) => .error .infinite
    | some .undefined => .error .value
    | none => .error .kind
where
  ofNumeral : Except Numeral.Refusal Int → Except IntegerRefusal Int
    | .ok n => .ok n
    | .error _ => .error .value

end Data

end ChunkRelay
