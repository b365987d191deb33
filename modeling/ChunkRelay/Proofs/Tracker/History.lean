import ChunkRelay.Proofs.Failure
import ChunkRelay.Proofs.Tracker

/-! # Histories of a tracker

A tracker is asked anything in any order. It knows the number that was last accepted since the last
reset, and each number that it judged has been counted once. What it refuses leaves it as it was.
-/

namespace ChunkRelay.Tracker

variable {t : Tracker} {n : Int}

/-- What a tracker can be asked for. -/
inductive Request where
  | observe (n : Int)
  | force (n : Int)
  | reset
  | expected

/-- The tracker that a request leaves. -/
def ask (t : Tracker) : Request → Except Failure Tracker
  | .observe n => (t.observe n).map Prod.snd
  | .force n => t.force n
  | .reset => .ok t.reset
  | .expected => .ok t

/-- Go on as before where a request is refused. -/
def next (t : Tracker) (request : Request) : Tracker :=
  match t.ask request with
  | .ok t' => t'
  | .error _ => t

def after (t : Tracker) (requests : List Request) : Tracker := requests.foldl next t

/-! ## What a history comes to -/

def InRange (n : Int) : Prop := 0 ≤ n ∧ n ≤ 31

instance : Decidable (InRange n) := inferInstanceAs (Decidable (_ ∧ _))

namespace Request

/-- The number that a request carries. -/
def number? : Request → Option Int
  | observe n => some n
  | force n => some n
  | reset => none
  | expected => none

/-- The last number after a request, from the one before it. -/
def leaves (last? : Option Int) : Request → Option Int
  | observe n => if InRange n then some n else last?
  | force n => if InRange n then some n else last?
  | reset => none
  | expected => last?

/-- Whether a request brings about a verdict. -/
def isJudged (last? : Option Int) : Request → Bool
  | observe n => last?.isSome && decide (InRange n)
  | _ => false

end Request

/-- The last number that was accepted since the last reset. -/
def latest (last? : Option Int) (requests : List Request) : Option Int :=
  requests.foldl Request.leaves last?

/-- How many requests bring about a verdict. -/
def judged (last? : Option Int) : List Request → Nat
  | [] => 0
  | request :: rest =>
    (if request.isJudged last? then 1 else 0) + judged (request.leaves last?) rest

/-! ## One request -/

theorem check_cases (n : Int) :
    (¬ InRange n ∧ check n = .error (.ofCause (.sequenceOutOfRange n))) ∨
    ∃ m : Sequence, m.val = n ∧ check n = .ok m := by
  by_cases inRange : InRange n
  · exact Or.inr ⟨_, Int.toNat_of_nonneg inRange.1, dif_pos inRange⟩
  · exact Or.inl ⟨inRange, dif_neg inRange⟩

theorem inRange_val (m : Sequence) : InRange m.val := by
  have small := m.isLt
  constructor <;> omega

theorem check_val (m : Sequence) : check m.val = .ok m := dif_pos (inRange_val m)

/-- The last number as an integer. -/
def number? (t : Tracker) : Option Int := t.last?.map fun m : Sequence => (m.val : Int)

theorem number_inRange (t : Tracker) : ∀ n, t.number? = some n → InRange n := by
  intro n known
  obtain ⟨m, _, rfl⟩ := Option.map_eq_some_iff.mp known
  exact inRange_val m

theorem number?_isSome (t : Tracker) : t.number?.isSome = t.isTracking := Option.isSome_map

/-- How many numbers have been judged. -/
def total (t : Tracker) : Nat := t.inOrder + t.discontinuities

theorem see_total (t : Tracker) (m : Sequence) :
    (t.see m).2.total = t.total + if t.isTracking then 1 else 0 := by
  rw [see_tracker, isTracking, total, total]
  cases tracked : t.last? with
  | none => simp [see_first t m tracked]
  | some previous =>
      rw [see_tracked t m tracked]
      cases Sequence.follows previous.val m.val <;> simp <;> omega

theorem see_none_iff (t : Tracker) (m : Sequence) : (t.see m).1 = none ↔ t.isTracking = false := by
  rw [isTracking]
  cases tracked : t.last? with
  | none => simp [see_first t m tracked]
  | some previous => simp [see_tracked t m tracked]

/-- The number that is in order is the one that was expected. -/
theorem see_inOrder_iff (t : Tracker) (m : Sequence) :
    (t.see m).1 = some .inOrder ↔ t.expected? = some m := by
  rw [expected?]
  cases tracked : t.last? with
  | none => simp [see_first t m tracked]
  | some previous =>
      have next : Sequence.follows previous.val m.val = true ↔ previous.next = m := by
        simp only [Sequence.follows, decide_eq_true_iff, Sequence.next, Sequence.wrap, Fin.ext_iff]
        omega
      simp [see_tracked t m tracked, ← next]

/-- What becomes of a number that is to be judged: the first one after a reset gets no verdict, and
    the one that is in order is the one that was expected. -/
theorem observe_verdict (t : Tracker) (n : Int) :
    match t.observe n with
    | .error _ => ¬ InRange n
    | .ok (verdict?, _) => (verdict? = none ↔ t.isTracking = false) ∧
        (verdict? = some .inOrder ↔ ∃ m : Sequence, t.expected? = some m ∧ m.val = n) := by
  rw [observe]
  rcases check_cases n with ⟨outside, refused⟩ | ⟨m, rfl, accepted⟩
  · rw [refused]
    exact outside
  · rw [accepted]
    refine ⟨t.see_none_iff m, (t.see_inOrder_iff m).trans ⟨fun next => ⟨m, next, rfl⟩, ?_⟩⟩
    rintro ⟨m', next, same⟩
    rwa [Fin.ext (Int.natCast_inj.mp same)] at next

theorem observe_cases (t : Tracker) (n : Int) :
    (¬ InRange n ∧ t.ask (.observe n) = .error (.ofCause (.sequenceOutOfRange n))) ∨
    ∃ m : Sequence, m.val = n ∧ t.ask (.observe n) = .ok (t.see m).2 := by
  rcases check_cases n with ⟨outside, refused⟩ | ⟨m, same, accepted⟩
  · exact Or.inl ⟨outside, by rw [ask, observe, refused]; rfl⟩
  · exact Or.inr ⟨m, same, by rw [ask, observe, accepted]; rfl⟩

theorem force_cases (t : Tracker) (n : Int) :
    (¬ InRange n ∧ t.ask (.force n) = .error (.ofCause (.sequenceOutOfRange n))) ∨
    ∃ m : Sequence, m.val = n ∧ t.ask (.force n) = .ok { t with last? := some m } := by
  rcases check_cases n with ⟨outside, refused⟩ | ⟨m, same, accepted⟩
  · exact Or.inl ⟨outside, by rw [ask, force, refused]; rfl⟩
  · exact Or.inr ⟨m, same, by rw [ask, force, accepted]; rfl⟩

theorem next_ok {request : Request} {t' : Tracker} (asked : t.ask request = .ok t') :
    t.next request = t' := by rw [next, asked]

theorem next_error {request : Request} {e : Failure} (asked : t.ask request = .error e) :
    t.next request = t := by rw [next, asked]

theorem after_observe (t : Tracker) (m : Sequence) : t.after [.observe m.val] = (t.see m).2 := by
  have asked : t.next (.observe m.val) = _ := next_ok (by rw [ask, observe, check_val]; rfl)
  exact asked

theorem force_wrap (t : Tracker) (n : Int) :
    t.force (Sequence.wrap n).val = .ok { t with last? := some (Sequence.wrap n) } := by
  rw [force, check_val]
  rfl

/-- A request is refused just if it carries a number that is out of range. -/
theorem ask_verdict (t : Tracker) (request : Request) :
    match t.ask request with
    | .error e => ∃ n, request.number? = some n ∧ ¬ InRange n ∧ e.Quoting n .invalidArgument
    | .ok _ => ∀ n, request.number? = some n → InRange n := by
  cases request with
  | observe n =>
      rcases t.observe_cases n with ⟨outside, refused⟩ | ⟨m, rfl, accepted⟩
      · rw [refused]
        exact ⟨n, rfl, outside, Failure.quoting_ofCause rfl⟩
      · rw [accepted]
        rintro _ ⟨⟩
        exact inRange_val m
  | force n =>
      rcases t.force_cases n with ⟨outside, refused⟩ | ⟨m, rfl, accepted⟩
      · rw [refused]
        exact ⟨n, rfl, outside, Failure.quoting_ofCause rfl⟩
      · rw [accepted]
        rintro _ ⟨⟩
        exact inRange_val m
  | reset => exact nofun
  | expected => exact nofun

theorem next_history (t : Tracker) (request : Request) :
    (t.next request).number? = request.leaves t.number? ∧
    (t.next request).total = t.total + if request.isJudged t.number? then 1 else 0 := by
  cases request with
  | observe n =>
      rcases t.observe_cases n with ⟨outside, refused⟩ | ⟨m, rfl, accepted⟩
      · rw [next_error refused]
        simp [Request.leaves, Request.isJudged, outside]
      · rw [next_ok accepted]
        have inRange := inRange_val m
        constructor
        · rw [Request.leaves, if_pos inRange]
          exact congrArg (Option.map _) (t.see_last m)
        · simpa [Request.isJudged, number?_isSome, inRange] using t.see_total m
  | force n =>
      rcases t.force_cases n with ⟨outside, refused⟩ | ⟨m, rfl, accepted⟩
      · rw [next_error refused]
        simp [Request.leaves, Request.isJudged, outside]
      · rw [next_ok accepted, Request.leaves, if_pos (inRange_val m)]
        exact ⟨rfl, rfl⟩
  | reset => exact ⟨rfl, rfl⟩
  | expected => exact ⟨rfl, rfl⟩

theorem check_tooLong (outside : ¬ InRange n) (tooLong : Numeral.isWritable n = false) :
    check n = .error (.defect .numberTooLong) :=
  (dif_neg outside).trans (congrArg _ (Failure.ofCause_unwritable tooLong))

/-- Numbers far out of range are refused as well, but not by the error about their range. -/
theorem ask_unwritable :
    let n : Int := Numeral.leastUnwritable
    ¬ InRange n ∧ new.ask (.observe n) = .error (.defect .numberTooLong) ∧
      ¬ InRange (-n) ∧ new.ask (.force (-n)) = .error (.defect .numberTooLong) ∧
      (Failure.defect .numberTooLong).errorClass? ≠ some .invalidArgument := by
  intro n
  have large : 1000 < n := Int.ofNat_lt.mpr Numeral.leastUnwritable_large
  have above : ¬ InRange n := fun inRange => by have := inRange.2; omega
  have below : ¬ InRange (-n) := fun inRange => by have := inRange.1; omega
  have tooLong : Numeral.isWritable n = false := Numeral.isWritable_leastUnwritable
  refine ⟨above, ?_, below, ?_, nofun⟩
  · rw [ask, observe, check_tooLong above tooLong]
    rfl
  · rw [ask, force, check_tooLong below ((Numeral.isWritable_neg n).trans tooLong)]
    rfl

/-! ## Any number of requests -/

theorem after_number (t : Tracker) (requests : List Request) :
    (t.after requests).number? = latest t.number? requests := by
  induction requests generalizing t with
  | nil => rfl
  | cons request requests ih =>
      calc
        (t.after (request :: requests)).number? = latest (t.next request).number? requests :=
          ih (t.next request)
        _ = latest (request.leaves t.number?) requests := by rw [(t.next_history request).1]

/-- Each number that was judged has been counted once. -/
theorem after_total (t : Tracker) (requests : List Request) :
    (t.after requests).total = t.total + judged t.number? requests := by
  induction requests generalizing t with
  | nil => rfl
  | cons request requests ih =>
      obtain ⟨number, total⟩ := t.next_history request
      calc
        (t.after (request :: requests)).total =
            (t.next request).total + judged (t.next request).number? requests :=
          ih (t.next request)
        _ = t.total + judged t.number? (request :: requests) := by
          rw [number, total, judged, Nat.add_assoc]

end ChunkRelay.Tracker
