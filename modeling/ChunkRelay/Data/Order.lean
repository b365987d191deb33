import ChunkRelay.Data

/-! # The order of values

Numbers, texts, byte strings, days and points in time come one before another, each among
themselves. Other values have no order. What is no number comes neither before nor after any
number, so a list with it in between has no right order, and the one that it gets is the one that
sorting by insertion leads to.
-/

namespace ChunkRelay.Data

/-- The code points that a text is compared by. -/
def codePoints? : Data → Option (List Nat)
  | text s => some (s.toList.map (·.toNat))
  | rawText t => some t.codePoints
  | _ => none

/-- Whether one value comes before another one, if the two have an order at all. -/
def precedes? (a b : Data) : Option Bool :=
  match a, b with
  | bytes x, bytes y => some (decide (x.map (·.toNat) < y.map (·.toNat)))
  | day x, day y => some (x.number < y.number)
  | moment x, moment y => if x.isComparable y then some (x.instant < y.instant) else none
  | _, _ =>
    match a.quantity?, b.quantity?, a.codePoints?, b.codePoints? with
    | some x, some y, _, _ => some (x.isLess y)
    | _, _, some x, some y => some (decide (x < y))
    | _, _, _, _ => none

/-- The values at the start of a list up to one that does not go on as the others do, each coming
before the one in front of it or, if they do not fall, none of them doing so. The first component
has the values so far, the last one first. -/
def orderedRun (falls : Bool) (run : List Data) : List Data → Option (List Data × List Data)
  | [] => some (run, [])
  | x :: rest =>
    match run with
    | [] => orderedRun falls [x] rest
    | last :: _ =>
      match precedes? x last with
      | some before =>
        if before = falls then orderedRun falls (x :: run) rest else some (run, x :: rest)
      | none => none

/-- The place of a value among ordered ones, by halving: after all that it does not come before. -/
def placeOf (x : Data) (ordered : Array Data) (low high : Nat) : Nat → Option Nat
  | 0 => some low
  | fuel + 1 =>
    if low < high then
      let middle := low + (high - low) / 2
      match (ordered[middle]?).bind (precedes? x) with
      | some true => placeOf x ordered low middle fuel
      | some false => placeOf x ordered (middle + 1) high fuel
      | none => none
    else some low

/-- Put values one after the other into a list that is in order. -/
def insertAll (ordered : Array Data) : List Data → Option (Array Data)
  | [] => some ordered
  | x :: rest =>
    match placeOf x ordered 0 ordered.size (ordered.size + 1) with
    | some place => insertAll (ordered.insertIdxIfInBounds place x) rest
    | none => none

/-- Values in order, if they have one. The run at the start is kept, turned round if it falls, and
all other values are put in one after the other. -/
def sorted? (values : List Data) : Option (List Data) :=
  match values with
  | x :: y :: _ => do
    let falls ← precedes? y x
    let (run, rest) ← orderedRun falls [] values
    let start := if falls then run else run.reverse
    pure (← insertAll start.toArray rest).toList
  | _ => some values

end ChunkRelay.Data
