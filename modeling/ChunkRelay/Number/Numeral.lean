import ChunkRelay.Text.Blank
import ChunkRelay.Text.DecimalDigit

/-! # Written integers

One grammar for the integers in options, configuration values and device records: blanks at both
ends, a sign, for some notations a base mark, and digits of the base with single underscores
between them. Digits of every script count, and so do the blanks of every script as soon as the
text leaves ASCII.

Decimal numerals take long to read and to write, so the number of their digits is limited. The
digits of the bases that are powers of two are not.
-/

namespace ChunkRelay.Numeral

/-- The notations an integer may be written in. -/
inductive Style where
  /-- A given base. Its mark, if it has one, may be there or not. -/
  | inBase (base : Nat)
  /-- The base named by the mark `0x`, `0o` or `0b`; ten without a mark, and then a number other
      than zero may not start with a zero. -/
  | marked
  deriving Repr, DecidableEq

inductive Refusal where
  | malformed
  /-- More decimal digits than are read. -/
  | tooLong (digits : Nat)
  deriving Repr, DecidableEq

/-- The most decimal digits that are read or written. -/
def maxDigits : Nat := 4300

/-- The smallest number with more decimal digits than are written. It stays folded where terms are
compared, so that the power is not computed there. -/
@[irreducible] def leastUnwritable : Nat := Nat.pow 10 maxDigits

/-- Whether a number has few enough decimal digits to be written. -/
def isWritable (n : Int) : Bool := n.natAbs < leastUnwritable

/-- What is said where a number is too long to be written. -/
def writingRefusal : String :=
  s!"Exceeds the limit ({maxDigits} digits) for integer string conversion;" ++
    " use sys.set_int_max_str_digits() to increase the limit"

/-- The value of an ASCII digit or letter as a digit of a base up to 36. -/
def digit? (c : Char) : Option Nat :=
  if '0' ≤ c && c ≤ '9' then some (c.toNat - '0'.toNat)
  else if 'a' ≤ c && c ≤ 'z' then some (c.toNat - 'a'.toNat + 10)
  else if 'A' ≤ c && c ≤ 'Z' then some (c.toNat - 'A'.toNat + 10)
  else none

def digitOf? (base : Nat) (c : Char) : Option Nat := (digit? c).filter (· < base)

/-- A text beyond ASCII with every digit and blank replaced by its ASCII counterpart, and every
other character beyond ASCII by one that no numeral holds. An ASCII text stays as it is. -/
def simplify (text : List Char) : List Char :=
  if text.all (·.toNat < 0x80) then text
  else
    text.map fun c =>
      if c.toNat < 0x7F then c
      else if isBlank c then ' '
      else
        match decimalDigit? c with
        | some d => Char.ofNat ('0'.toNat + d)
        | none => '?'

/-- Go on with the digits that follow. The answer has all digits, the last one first, and what comes
after them. An underscore has to stand before another digit. -/
def digitsAfter (base : Nat) (digits : List Nat) : List Char → Option (List Nat × List Char)
  | [] => some (digits, [])
  | '_' :: rest =>
    match rest with
    | [] => none
    | c :: rest =>
      match digitOf? base c with
      | some d => digitsAfter base (d :: digits) rest
      | none => none
  | c :: rest =>
    match digitOf? base c with
    | some d => digitsAfter base (d :: digits) rest
    | none => some (digits, c :: rest)

/-- A number without sign or mark, and what comes after it. -/
def magnitudeIn (base : Nat) (text : List Char) : Except Refusal (Nat × List Char) :=
  let run := match text with
    | [] => none
    | c :: rest => (digitOf? base c).bind fun d => digitsAfter base [d] rest
  match run with
  | none => .error .malformed
  | some (digits, rest) =>
    if base = 10 && maxDigits < digits.length then .error (.tooLong digits.length)
    else .ok (digits.foldr (fun d n => n * base + d) 0, rest)

/-- A number after its base mark, which one underscore may separate from the digits. -/
def magnitudeAfterMark (base : Nat) : List Char → Except Refusal (Nat × List Char)
  | '_' :: rest => magnitudeIn base rest
  | rest => magnitudeIn base rest

/-- The base that the letter of a mark names. -/
def markBase? (c : Char) : Option Nat :=
  if c = 'x' || c = 'X' then some 16
  else if c = 'o' || c = 'O' then some 8
  else if c = 'b' || c = 'B' then some 2
  else none

/-- A number without sign, and what comes after it. -/
def magnitude (style : Style) (text : List Char) : Except Refusal (Nat × List Char) := do
  let mark := match text with
    | '0' :: c :: rest => (markBase? c).map (·, rest)
    | _ => none
  match style, mark with
  | .inBase base, some (marked, rest) =>
    if marked = base then magnitudeAfterMark base rest else magnitudeIn base text
  | .inBase base, none => magnitudeIn base text
  | .marked, some (base, rest) => magnitudeAfterMark base rest
  | .marked, none => do
    let (n, rest) ← magnitudeIn 10 text
    if text.head? = some '0' && n ≠ 0 then throw .malformed
    pure (n, rest)

/-- A sign at the start of a text: whether it is a minus, and the rest. -/
def sign : List Char → Bool × List Char
  | '-' :: rest => (true, rest)
  | '+' :: rest => (false, rest)
  | rest => (false, rest)

def ofAscii (style : Style) (text : List Char) : Except Refusal Int := do
  let (negative, text) := sign (text.dropWhile isAsciiBlank)
  let (n, rest) ← magnitude style text
  if rest.all isAsciiBlank then pure (if negative then -(n : Int) else n) else throw .malformed

def ofChars (style : Style) (text : List Char) : Except Refusal Int :=
  ofAscii style (simplify text)

def parse (style : Style) (text : String) : Except Refusal Int := ofChars style text.toList

def parse? (style : Style) (text : String) : Option Int := (parse style text).toOption

end ChunkRelay.Numeral
