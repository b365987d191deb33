import ChunkRelay.Moment
import ChunkRelay.Text.RawText

/-! # Tags

What a node is to become: a kind of scalar or of collection. A scalar that comes without a tag is
given the one that its text looks like. A line feed at the end of the text is passed over then.
-/

namespace ChunkRelay.Yaml

inductive Tag where
  | null | bool | int | float | binary | timestamp | text
  | sequence | pairs | mapping | set
  /-- The key whose value is merged into the mapping. -/
  | merge
  /-- The key of the value that stands for the mapping where a scalar is wanted. -/
  | value
  | unknown
  deriving Repr, DecidableEq

/-- The start of the addresses of the tags that every document may use. -/
def Tag.standard : String := "tag:yaml.org,2002:"

def Tag.ofAddress (address : String) : Tag :=
  let names : List (String × Tag) :=
    [("null", null), ("bool", bool), ("int", int), ("float", float), ("binary", binary),
      ("timestamp", timestamp), ("str", text), ("seq", sequence), ("omap", pairs),
      ("pairs", pairs), ("map", mapping), ("set", set), ("merge", merge), ("value", value)]
  ((names.find? fun (name, _) => standard ++ name = address).map (·.2)).getD unknown

namespace Tag

/-! ## What texts look like -/

/-- Digits, with underscores anywhere among them. -/
def isDigitOrMark (c : Char) : Bool := c.isDigit || c = '_'

def isRun (p : Char → Bool) (text : List Char) : Bool := !text.isEmpty && text.all p

def isNumber (text : List Char) : Bool :=
  (text.head?.map Char.isDigit).getD false && text.all isDigitOrMark

/-- Whether a text is a part of a number of base sixty: one digit, or two of which the first is at
most five. -/
def isSixtieth (text : List Char) : Bool :=
  match text with
  | [a] => a.isDigit
  | [a, b] => '0' ≤ a && a ≤ '5' && b.isDigit
  | _ => false

/-- The parts of a text between the marks of a kind. -/
def splitAt (mark : Char) (text : List Char) : List (List Char) :=
  text.foldr
    (fun c parts =>
      if c = mark then [] :: parts
      else match parts with
        | first :: rest => (c :: first) :: rest
        | [] => [[c]])
    [[]]

/-- Whether a text is an integer: binary, octal, decimal, hexadecimal or of base sixty. -/
def isInt (text : List Char) : Bool :=
  match (Numeral.sign text).2 with
  | '0' :: 'b' :: digits => isRun (fun c => c = '0' || c = '1' || c = '_') digits
  | '0' :: 'x' :: digits => isRun (fun c => (Numeral.digitOf? 16 c).isSome || c = '_') digits
  | ['0'] => true
  | '0' :: digits => digits.all fun c => ('0' ≤ c && c ≤ '7') || c = '_'
  | body =>
    match splitAt ':' body with
    | whole :: parts => isNumber whole && parts.all isSixtieth
    | [] => false

/-- Whether a text is nothing or an exponent, which has to have a sign. -/
def isExponent (text : List Char) : Bool :=
  match text with
  | [] => true
  | e :: sign :: digits =>
    (e = 'e' || e = 'E') && (sign = '+' || sign = '-') && isRun Char.isDigit digits
  | _ => false

/-- Whether a text is a number with a point, or one of the special numbers. -/
def isFloat (text : List Char) : Bool :=
  let body := (Numeral.sign text).2
  let fraction := fun rest : List Char => isExponent (rest.dropWhile isDigitOrMark)
  let isSpecial := fun (names : List String) (t : List Char) => names.contains (String.ofList t)
  match body.span (· ≠ '.') with
  | (_, []) => false
  | ([], _ :: rest) =>
    isSpecial ["inf", "Inf", "INF"] rest
      || (body = text
        && (isSpecial ["nan", "NaN", "NAN"] rest
          || ((rest.head?.map Char.isDigit).getD false && fraction rest)))
  | (whole, _ :: rest) =>
    match splitAt ':' whole with
    | [digits] => isNumber digits && fraction rest
    | digits :: parts => isNumber digits && parts.all isSixtieth && rest.all isDigitOrMark
    | [] => false

def isBool (text : String) : Bool :=
  ["yes", "no", "true", "false", "on", "off"].any fun word =>
    text = word || text = word.toUpper || text = word.capitalize

def isNull (text : String) : Bool := ["", "~", "null", "Null", "NULL"].contains text

/-- Whether a text is a point in time. A day alone has to be written with ten characters. -/
def isTimestamp (text : List Char) : Bool :=
  match WrittenMoment.read? text with
  | some (.day _) => text.length = 10
  | some (.moment _) => true
  | none => false

def ofChars (chars : List Char) : Tag :=
  let text := String.ofList chars
  if isBool text then bool
  else if isFloat chars then float
  else if isInt chars then int
  else if text = "<<" then merge
  else if isNull text then null
  else if isTimestamp chars then timestamp
  else if text = "=" then value
  else if ["!", "&", "*"].contains text then unknown
  else .text

/-- A text without one line feed at its end, unless that is all of it. -/
def withoutLineFeed (chars : List Char) : List Char :=
  if 1 < chars.length && chars.getLast? = some '\n' then chars.dropLast else chars

def ofScalar (t : RawText) : Tag :=
  match t.chars? with
  | some chars => ofChars (withoutLineFeed chars)
  | none => .text

end Tag

end ChunkRelay.Yaml
