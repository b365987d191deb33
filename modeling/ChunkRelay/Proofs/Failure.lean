import ChunkRelay.Failure

/-! # What causes lead to

A cause leads to its error as long as the message can be written. Only a number that was given from
outside can be too long for that, and then the attempt to write it is what fails.
-/

namespace ChunkRelay

namespace Numeral

theorem leastUnwritable_large : 1000 < leastUnwritable := by
  have enough : 4 ≤ maxDigits := by decide
  unfold leastUnwritable
  generalize maxDigits = digits at enough ⊢
  exact Nat.lt_of_lt_of_le (by decide) (Nat.pow_le_pow_right (by decide) enough)

theorem isWritable_leastUnwritable : isWritable leastUnwritable = false :=
  decide_eq_false (Nat.lt_irrefl _)

theorem isWritable_neg (n : Int) : isWritable (-n) = isWritable n := by
  rw [isWritable, isWritable, Int.natAbs_neg]

theorem isWritable_small {n : Int} (small : n.natAbs < 1000) : isWritable n = true :=
  decide_eq_true (Nat.lt_trans small leastUnwritable_large)

end Numeral

namespace Failure

variable {cause : Cause}

theorem ofCause_writable (writable : cause.isWritable = true) : ofCause cause = .caused cause :=
  if_pos writable

theorem ofCause_unwritable (tooLong : cause.isWritable = false) :
    ofCause cause = .defect .numberTooLong := if_neg (Bool.eq_false_iff.mp tooLong)

theorem ofCause_harmless (cause : Cause) : (ofCause cause).isDeviceFault = false := by
  rw [ofCause]
  split <;> rfl

/-- Whether or not the error can be told, it is of no class that the cause does not lead to. -/
theorem ofCause_isClass {c : ErrorClass} (other : cause.errorClass.lineage.contains c = false) :
    (ofCause cause).isClass c = false := by
  rw [ofCause]
  split
  · exact other
  · rfl

@[simp] theorem ofCause_eq_caused {other : Cause} :
    ofCause cause = .caused other ↔ cause.isWritable = true ∧ cause = other := by
  rw [ofCause]
  split
  · next writable => simp [writable]
  · next tooLong => simp [tooLong]

theorem ofCause_tooLong :
    ofCause cause = .defect .numberTooLong ↔ cause.isWritable = false := by
  rw [ofCause]
  split
  · next writable => simp [writable]
  · next tooLong => simp [tooLong]

@[simp] theorem ofCause_notOpen (operation : String) :
    ofCause (.notOpen operation) = .caused (.notOpen operation) := rfl

@[simp] theorem ofCause_filteredOut (id : Int) (allowed : List Int) :
    ofCause (.filteredOut id allowed) = .caused (.filteredOut id allowed) := rfl

theorem ofCause_told (cause : Cause) :
    if cause.isWritable then (ofCause cause).errorClass? = some cause.errorClass
    else ofCause cause = .defect .numberTooLong := by
  split
  · next writable => rw [ofCause_writable writable, errorClass?]
  · next tooLong => exact ofCause_unwritable (Bool.eq_false_iff.mpr tooLong)

/-- How an error of class `c` fails that quotes the number `n`: if the number is too long to be
    written, writing it is what fails. -/
def Quoting (n : Int) (c : ErrorClass) (e : Failure) : Prop :=
  if Numeral.isWritable n then e.errorClass? = some c else e = .defect .numberTooLong

theorem quoting_ofCause {n : Int} (quotes : cause.isWritable = Numeral.isWritable n) :
    Quoting n cause.errorClass (ofCause cause) := by
  rw [Quoting, ← quotes]
  exact ofCause_told cause

end Failure

end ChunkRelay
