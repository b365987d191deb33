import ChunkRelay.Tracker

/-! # Verdicts on what was skipped

A tracker tells a number that follows from one that does not, which leaves it blind to a multiple
of 32 numbers skipped in between.
-/

namespace ChunkRelay

namespace Sequence

theorem wrap_shift (n k : Int) : wrap ((wrap n).val + k) = wrap (n + k) := by
  apply Fin.ext
  simp only [wrap]
  omega

theorem wrap_follows (n : Sequence) (k : Int) :
    follows n.val (wrap (n.val + 1 + k)).val = true ↔ 32 ∣ k := by
  have small := n.isLt
  have reduced : (((n.val + 1 + k) % 32).toNat : Int) = (n.val + 1 + k) % 32 := by omega
  simp only [follows, wrap, decide_eq_true_iff, reduced]
  omega

end Sequence

namespace Tracker

variable (t : Tracker) (n : Sequence)

/-- Every number that is taken in becomes the last one, and its verdict is counted. -/
theorem see_tracker :
    (t.see n).2 =
      ⟨some n, t.inOrder + if (t.see n).1 = some .inOrder then 1 else 0,
        t.discontinuities + if (t.see n).1 = some .discontinuous then 1 else 0⟩ := by
  rw [see]
  cases t.last? with
  | none => rfl
  | some previous =>
      dsimp only
      split <;> rfl

theorem see_last : (t.see n).2.last? = some n := by rw [see_tracker]

theorem see_discontinuities :
    (t.see n).2.discontinuities =
      t.discontinuities + if (t.see n).1 = some .discontinuous then 1 else 0 := by
  rw [see_tracker]

theorem see_first (untracked : t.last? = none) : (t.see n).1 = none := by rw [see, untracked]

theorem see_tracked {previous : Sequence} (tracked : t.last? = some previous) :
    (t.see n).1 =
      some (if Sequence.follows previous.val n.val then .inOrder else .discontinuous) := by
  rw [see, tracked]
  dsimp only
  split <;> rfl

/-- What is taken in always leaves a trace: a number that is repeated is discontinuous. -/
theorem see_ne : (t.see n).2 ≠ t := by
  intro same
  have tracked : t.last? = some n := by rw [← same, see_last]
  have counted := t.see_tracker n
  rw [same, t.see_tracked n tracked] at counted
  cases follows : Sequence.follows n.val n.val with
  | true =>
      have inOrder := congrArg Tracker.inOrder counted
      simp [follows] at inOrder
  | false =>
      have discontinuities := congrArg Tracker.discontinuities counted
      simp [follows] at discontinuities

theorem see_following (follows : ∀ last, t.last? = some last → n = last.next) :
    (t.see n).2.discontinuities = t.discontinuities := by
  rw [see_discontinuities]
  cases tracked : t.last? with
  | none => simp [see_first t n tracked]
  | some last =>
      have inOrder := (Sequence.wrap_follows last 0).mpr (Int.dvd_zero 32)
      rw [Int.add_zero, ← Sequence.next, ← follows last tracked] at inOrder
      simp [see_tracked t n tracked, inOrder]

/-- The verdict on a number that comes `k` numbers too late. -/
theorem see_skipped {previous : Sequence} (tracked : t.last? = some previous) (k : Int) :
    (t.see (Sequence.wrap (previous.val + 1 + k))).1 =
      some (if 32 ∣ k then .inOrder else .discontinuous) := by
  simp only [see_tracked _ _ tracked, Sequence.wrap_follows]

end Tracker

end ChunkRelay
