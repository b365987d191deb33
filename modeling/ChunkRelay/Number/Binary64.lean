import ChunkRelay.Number.Numeral
import ChunkRelay.Number.Quantity

/-! # Double-precision numbers

Numbers with a 53-bit mantissa, as exact values. Rounding a quotient goes to the nearest such
number and halves to the even mantissa. Writing one out uses the fewest digits that no other
number of the type is nearer to, positionally between 10^-4 and 10^16.
-/

namespace ChunkRelay

/-- A double-precision number: a signed mantissa times a power of two, or one of the special
values. -/
inductive Binary64 where
  | finite (negative : Bool) (mantissa : Nat) (exponent : Int)
  | infinite (negative : Bool)
  | nan
  deriving Repr, DecidableEq, Inhabited

namespace Binary64

/-- The least mantissa of 53 bits. -/
def fullMantissa : Nat := 0x10000000000000

/-- The least exponent of two; mantissas of fewer bits occur only with it. -/
def leastExponent : Int := -1074

def greatestExponent : Int := 971

/-- The quotient as a natural number: the nearest one, halves to the even one. -/
def roundQuotient (num den : Nat) : Nat :=
  let q := num / den
  let twice := 2 * (num % den)
  if twice < den || (twice = den && q % 2 = 0) then q else q + 1

/-- Numerator and denominator of a quotient times a power of `base`. -/
def scaled (base : Nat) (exponent : Int) (num den : Nat) : Nat × Nat :=
  if exponent < 0 then (num, den * base.pow (-exponent).toNat)
  else (num * base.pow exponent.toNat, den)

/-- The double nearest to a quotient of natural numbers, with the sign of a minus if asked. -/
def ofQuotient (negative : Bool) (num den : Nat) : Binary64 :=
  if num = 0 then finite negative 0 leastExponent
  else
    let guess : Int := (Nat.log2 num : Int) - (Nat.log2 den : Int) - 52
    let (n, d) := scaled 2 (-guess) num den
    let exponent := max leastExponent (if n < fullMantissa * d then guess - 1 else guess)
    let (n, d) := scaled 2 (-exponent) num den
    let mantissa := roundQuotient n d
    let (mantissa, exponent) :=
      if mantissa = 2 * fullMantissa then (fullMantissa, exponent + 1) else (mantissa, exponent)
    if exponent > greatestExponent then infinite negative else finite negative mantissa exponent

/-- The double nearest to `digits` times a power of ten. -/
def ofDecimal (negative : Bool) (digits : Nat) (exponent : Int) : Binary64 :=
  let size := exponent + (Nat.toDigits 10 digits).length
  if digits = 0 || size < -330 then finite negative 0 leastExponent
  else if size > 310 then infinite negative
  else
    let (num, den) := scaled 10 exponent digits 1
    ofQuotient negative num den

def ofInt (n : Int) : Binary64 := ofQuotient (n < 0) n.natAbs 1

/-- The magnitude of a finite double as a quotient. -/
def magnitude (mantissa : Nat) (exponent : Int) : Nat × Nat := scaled 2 exponent mantissa 1

/-- A double divided by a thousand and rounded again. -/
def thousandth : Binary64 → Binary64
  | finite negative m e =>
    let (num, den) := magnitude m e
    ofQuotient negative num (den * 1000)
  | x => x

def toRat? : Binary64 → Option Rat
  | finite negative m e =>
    let (num, den) := magnitude m e
    some (mkRat (if negative then -(num : Int) else num) den)
  | _ => none

def quantity : Binary64 → Quantity
  | infinite negative => .infinite negative
  | nan => .undefined
  | x => .finite (x.toRat?.getD 0)

def isNegative : Binary64 → Bool
  | finite negative .. | infinite negative => negative
  | nan => false

def negated : Binary64 → Binary64
  | finite negative m e => finite (!negative) m e
  | infinite negative => infinite (!negative)
  | nan => nan

/-- The double nearest to a rational number; the sign is for zero. -/
def ofRat (negative : Bool) (q : Rat) : Binary64 :=
  ofQuotient (if q = 0 then negative else q < 0) q.num.natAbs q.den

/-- The sum of two doubles. Infinities of different signs have none. -/
def plus (x y : Binary64) : Binary64 :=
  match x, y with
  | nan, _ | _, nan => nan
  | infinite a, infinite b => if a = b then infinite a else nan
  | infinite a, _ | _, infinite a => infinite a
  | _, _ => ofRat (x.isNegative && y.isNegative) (x.toRat?.getD 0 + y.toRat?.getD 0)

/-- The product of two doubles. Zero and an infinity have none. -/
def times (x y : Binary64) : Binary64 :=
  let negative := x.isNegative != y.isNegative
  match x.quantity, y.quantity with
  | .undefined, _ | _, .undefined => nan
  | .finite a, .finite b => ofRat negative (a * b)
  | .finite a, .infinite _ | .infinite _, .finite a => if a = 0 then nan else infinite negative
  | .infinite _, .infinite _ => infinite negative

/-- The sum of parts each of which counts sixty times as much as the one before, rounded after
every step. `unit` is what the first one counts, and no part may count more than any double. -/
def sumOfSixtieths? (sum : Binary64) (unit : Int) : List Binary64 → Option Binary64
  | [] => some sum
  | part :: rest =>
    match ofInt unit with
    | infinite _ => none
    | factor => sumOfSixtieths? (sum.plus (part.times factor)) (unit * 60) rest

/-- Compare `coefficient` times a power of ten with `units` times a power of two. -/
def compareDecimal (coefficient : Nat) (ten : Int) (units : Nat) (two : Int) : Ordering :=
  let (a, b) := scaled 10 ten coefficient 1
  let (c, d) := scaled 2 two units 1
  compare (a * d) (c * b)

/-- How many digits the quotient has before its decimal point; below one tenth, minus the number
of zeros after it. -/
def pointOf (num den : Nat) : Nat → Int
  | 0 => 0
  | fuel + 1 =>
    if den ≤ num then (Nat.toDigits 10 (num / den)).length
    else if den ≤ num * 10 then 0
    else pointOf (num * 10) den fuel - 1

/-- The decimal on the grid 10^`ten` that stands for the double: of the grid's two neighbours of
the value those that round to the double, and of two the nearer one. -/
def onGrid? (mantissa : Nat) (exponent ten : Int) : Option Nat :=
  let quarter := exponent - 2
  let value := 4 * mantissa
  let low :=
    if mantissa = fullMantissa && exponent > leastExponent then value - 1 else value - 2
  let high := value + 2
  let inside := fun c =>
    let above := compareDecimal c ten low quarter
    let below := compareDecimal c ten high quarter
    if mantissa % 2 = 0 then above ≠ .lt && below ≠ .gt else above = .gt && below = .lt
  let (num, den) := magnitude mantissa exponent
  let (num, den) := scaled 10 (-ten) num den
  let floor := num / den
  match inside floor, inside (floor + 1) with
  | true, true =>
    match compareDecimal (2 * floor + 1) ten (2 * value) quarter with
    | .gt => some floor
    | .lt => some (floor + 1)
    | .eq => some (if floor % 2 = 0 then floor else floor + 1)
  | true, false => some floor
  | false, true => some (floor + 1)
  | false, false => none

/-- The first grid from `count` digits up, of `fuel` grids, that holds a decimal for the double. -/
def shortestFrom (mantissa : Nat) (exponent point : Int) (count : Nat) : Nat → Nat × Int
  | 0 => (mantissa, 0)
  | fuel + 1 =>
    let ten := point - count
    match onGrid? mantissa exponent ten with
    | some c => (c, ten)
    | none => shortestFrom mantissa exponent point (count + 1) fuel

/-- The digits of a positive double, and where its decimal point stands among them. -/
def shortest (mantissa : Nat) (exponent : Int) : List Char × Int :=
  let (num, den) := magnitude mantissa exponent
  let (coefficient, ten) := shortestFrom mantissa exponent (pointOf num den 400) 1 17
  let digits := Nat.toDigits 10 coefficient
  let kept := (digits.reverse.dropWhile (· = '0')).reverse
  (kept, digits.length + ten)

/-- Digits with their decimal point, positionally or with an exponent of at least two digits. -/
def layout (digits : List Char) (point : Int) : List Char :=
  if -4 < point ∧ point ≤ 16 then
    if point ≤ 0 then '0' :: '.' :: List.replicate (-point).toNat '0' ++ digits
    else
      let whole := digits.take point.toNat
      let fraction := digits.drop point.toNat
      whole ++ List.replicate (point.toNat - digits.length) '0' ++
        '.' :: (if fraction.isEmpty then ['0'] else fraction)
  else
    let exponent := point - 1
    let shown := Nat.toDigits 10 exponent.natAbs
    let fraction := digits.drop 1
    digits.take 1 ++ (if fraction.isEmpty then [] else '.' :: fraction) ++
      'e' :: (if exponent < 0 then '-' else '+') ::
        List.replicate (2 - shown.length) '0' ++ shown

/-- The shortest text that reads back as the number. -/
def text : Binary64 → String
  | nan => "nan"
  | infinite negative => if negative then "-inf" else "inf"
  | finite negative m e =>
    let body := if m = 0 then ['0', '.', '0'] else let (ds, p) := shortest m e; layout ds p
    String.ofList (if negative then '-' :: body else body)

/-- Remove underscores, each of which has to stand between two digits. -/
def withoutUnderscores? (afterDigit : Bool) : List Char → Option (List Char)
  | [] => some []
  | '_' :: rest =>
    if afterDigit && (rest.head?.map Char.isDigit).getD false then withoutUnderscores? false rest
    else none
  | c :: rest => (withoutUnderscores? c.isDigit rest).map (c :: ·)

/-- The decimal digits at the start of a text as a number, how many they are, and the rest. -/
def digitRun (text : List Char) : Nat × Nat × List Char :=
  let run := text.takeWhile Char.isDigit
  (run.foldl (fun n c => n * 10 + (c.toNat - '0'.toNat)) 0, run.length, text.dropWhile Char.isDigit)

/-- An exponent at the start of a text, zero if there is none, and the rest. -/
def exponentPart (text : List Char) : Int × List Char :=
  match text with
  | c :: rest =>
    if c = 'e' || c = 'E' then
      let (negative, rest) := Numeral.sign rest
      match digitRun rest with
      | (_, 0, _) => (0, text)
      | (n, _, rest) => (if negative then -(n : Int) else n, rest)
    else (0, text)
  | [] => (0, [])

/-- The double that characters without blanks and underscores write. -/
def ofChars? (text : List Char) : Option Binary64 :=
  let (negative, body) := Numeral.sign text
  let lower := String.ofList (body.map Char.toLower)
  if lower = "inf" || lower = "infinity" then some (infinite negative)
  else if lower = "nan" then some nan
  else
    let (whole, wholeCount, rest) := digitRun body
    let (fraction, fractionCount, rest) := match rest with
      | '.' :: rest => digitRun rest
      | _ => (0, 0, rest)
    let (exponent, rest) := exponentPart rest
    if wholeCount + fractionCount = 0 || !rest.isEmpty then none
    else
      let digits := whole * Nat.pow 10 fractionCount + fraction
      some (ofDecimal negative digits (exponent - fractionCount))

/-- The double nearest to the decimal that a text writes. -/
def parse? (text : String) : Option Binary64 :=
  match withoutUnderscores? false (stripWhere isAsciiBlank (Numeral.simplify text.toList)) with
  | some body => ofChars? body
  | none => none

end Binary64

end ChunkRelay
