import ChunkRelay.Data
import ChunkRelay.Text.Base64
import ChunkRelay.Yaml.Cursor
import ChunkRelay.Yaml.Tag

/-! # The values of scalars

What a scalar becomes under its tag. The texts of numbers are read more freely here than they are
recognised without a tag: after a base mark there may come another sign and blanks, and digits of
all scripts count.
-/

namespace ChunkRelay.Yaml.Scalar

/-- A text without underscores, which may not be empty, and its sign. -/
def signed (text : List Char) : Except Problem (Bool × List Char) :=
  match text.filter (· ≠ '_') with
  | [] => .error (.unfit .scalarEmpty)
  | chars => .ok (Numeral.sign chars)

def numeral (base : Nat) (text : List Char) : Except Problem Int :=
  match Numeral.ofChars (.inBase base) text with
  | .ok n => .ok n
  | .error _ => .error (.unfit .scalarUnfit)

def int (text : List Char) : Except Problem Int := do
  let (negative, body) ← signed text
  let magnitude ← match body with
    | [] => throw (.unfit .scalarEmpty)
    | ['0'] => pure 0
    | '0' :: 'b' :: rest => numeral 2 rest
    | '0' :: 'x' :: rest => numeral 16 rest
    | '0' :: _ => numeral 8 body
    | _ => do
      let parts ← (Tag.splitAt ':' body).mapM (numeral 10)
      pure (parts.foldl (fun n part => n * 60 + part) 0)
  pure (if negative then -magnitude else magnitude)

/-- A number with a point. Parts of base sixty are added up from the last one on. The mark is for
what is no number, other than by its own name. -/
def float (mark : Nat) (text : List Char) : Except Problem Data := do
  let (negative, body) ← signed (text.map Char.toLower)
  if body = ['.', 'n', 'a', 'n'] then pure (.float .nan)
  else
    let magnitude ←
      if body = ['.', 'i', 'n', 'f'] then pure (.infinite false)
      else
        let parts ← (Tag.splitAt ':' body).mapM fun part =>
          match Binary64.parse? (String.ofList part) with
          | some x => .ok x
          | none => .error (.unfit .scalarUnfit)
        match parts with
        | [x] => pure x
        | _ =>
          match Binary64.sumOfSixtieths? (.ofInt 0) 1 parts.reverse with
          | some x => pure x
          | none => throw (.unfit .scalarTooGreat)
    match if negative then magnitude.negated else magnitude with
    | .nan => pure (.noNumber mark)
    | x => pure (.float x)

/-- A day or a point in time, which has to exist. -/
def timestamp (text : List Char) : Except Problem Data :=
  match WrittenMoment.read? (Tag.withoutLineFeed text) with
  | none => .error (.unfit .momentUnfit)
  | some (.day d) => if d.exists? then .ok (.day d) else .error (.unfit .scalarUnfit)
  | some (.moment m) => if m.exists? then .ok (.moment m) else .error (.unfit .scalarUnfit)

def bool (text : List Char) : Except Problem Data :=
  let word := (String.ofList text).toLower
  if ["yes", "true", "on"].contains word then .ok (.bool true)
  else if ["no", "false", "off"].contains word then .ok (.bool false)
  else .error (.unfit .wordUnknown)

def binary (text : List Char) : Except Problem Data :=
  match if text.all (·.toNat < 0x80) then Base64.decode? text else none with
  | some bytes => .ok (.bytes bytes)
  | none => .error .malformed

/-- The value of a scalar with the given mark. Collections cannot be written as scalars. -/
def value (mark : Nat) (tag : Tag) (t : RawText) : Except Problem Data :=
  match tag with
  | .null => .ok .null
  | .bool => bool t.softened
  | .int => (int t.softened).map .int
  | .float => float mark t.softened
  | .binary => binary t.softened
  | .timestamp => timestamp t.softened
  | .text => .ok (.ofRawText t)
  | .sequence | .pairs | .mapping | .set | .merge | .value | .unknown => .error .malformed

end ChunkRelay.Yaml.Scalar
