import Mathlib.Data.List.DropRight
import ChunkRelay.Text.Blank

/-! # Stripped texts

A text is stripped of a class of characters if it neither begins nor ends with one of them. What is
left when a text is stripped is the one such text that it is made of, with nothing but characters of
the class around it.
-/

namespace ChunkRelay

variable {p : Char → Bool} {text before after : List Char}

structure Stripped (p : Char → Bool) (text : List Char) : Prop where
  first : ∀ c ∈ text.head?, p c = false
  last : ∀ c ∈ text.getLast?, p c = false

theorem stripWhere_before (all : ∀ c ∈ before, p c) :
    stripWhere p (before ++ text) = stripWhere p text := by
  rw [stripWhere, List.dropWhile_append_of_pos all, ← stripWhere]

theorem stripWhere_nil_iff : stripWhere p text = [] ↔ ∀ c ∈ text, p c := by
  rw [stripWhere, List.reverse_eq_nil_iff, List.dropWhile_eq_nil_iff]
  constructor
  · intro left c member
    by_contra other
    have kept : c ∈ text.dropWhile p := by
      rw [← List.takeWhile_append_dropWhile (p := p) (l := text), List.mem_append] at member
      rcases member with dropped | kept
      · exact absurd (List.mem_takeWhile_imp dropped) other
      · exact kept
    exact other (left c (List.mem_reverse.mpr kept))
  · intro all c member
    exact all c ((List.dropWhile_sublist p).subset (List.mem_reverse.mp member))

theorem stripWhere_after (all : ∀ c ∈ after, p c) :
    stripWhere p (text ++ after) = stripWhere p text := by
  -- If all of the text is of the class, what follows it goes with it from the left.
  by_cases blank : ∀ c ∈ text, p c
  · rw [stripWhere_before blank, stripWhere_nil_iff.mpr all, stripWhere_nil_iff.mpr blank]
  · have some : text.dropWhile p ≠ [] := fun none => blank (List.dropWhile_eq_nil_iff.mp none)
    have reversed : ∀ c ∈ after.reverse, p c := fun c member => all c (List.mem_reverse.mp member)
    rw [stripWhere, List.dropWhile_append, if_neg (by simpa using some), List.reverse_append,
      List.dropWhile_append_of_pos reversed, ← stripWhere]

theorem stripWhere_stripped (stripped : Stripped p text) : stripWhere p text = text := by
  have first : text.dropWhile p = text := by
    cases text with
    | nil => rfl
    | cons c rest => exact List.dropWhile_cons_of_neg (by simp [stripped.first c rfl])
  have last : text.rdropWhile p = text := by
    rw [List.rdropWhile_eq_self_iff]
    intro some
    simp [stripped.last _ (List.getLast?_eq_some_getLast some)]
  rw [stripWhere, first]
  exact last

theorem stripped_stripWhere (p : Char → Bool) (text : List Char) :
    Stripped p (stripWhere p text) where
  first c begins := by
    obtain ⟨rest, kept⟩ := List.rdropWhile_prefix p (l := text.dropWhile p)
    have begun : (text.dropWhile p).head? = some c := by
      have begins' : ((text.dropWhile p).rdropWhile p).head? = some c := begins
      rw [← kept, List.head?_append, begins', Option.some_or]
    have first := List.head?_dropWhile_not p text
    rw [begun] at first
    exact first
  last c ends := by
    have some : stripWhere p text ≠ [] := by
      rintro none
      rw [none] at ends
      cases ends
    have last := List.rdropWhile_last_not p (text.dropWhile p) some
    rw [List.getLast?_eq_some_getLast some] at ends
    cases ends
    exact Bool.eq_false_iff.mpr last

/-- What is left is the one stripped text that stands among nothing but characters of the class. -/
theorem stripWhere_eq_iff {core : List Char} :
    stripWhere p text = core ↔ Stripped p core ∧ ∃ before after, (∀ c ∈ before, p c) ∧
      (∀ c ∈ after, p c) ∧ text = before ++ core ++ after := by
  constructor
  · rintro rfl
    refine ⟨stripped_stripWhere p text, text.takeWhile p, (text.dropWhile p).rtakeWhile p,
    ?_, ?_, ?_⟩
    · exact fun c member => List.mem_takeWhile_imp member
    · exact fun c member => List.mem_rtakeWhile_imp member
    · calc
        text = text.takeWhile p ++ text.dropWhile p := List.takeWhile_append_dropWhile.symm
        _ = text.takeWhile p ++ (stripWhere p text ++ (text.dropWhile p).rtakeWhile p) := by
          congr 1
          exact List.rdropWhile_append_rtakeWhile.symm
        _ = _ := (List.append_assoc _ _ _).symm
  · rintro ⟨stripped, before, after, allBefore, allAfter, rfl⟩
    rw [stripWhere_after allAfter, stripWhere_before allBefore, stripWhere_stripped stripped]

end ChunkRelay
