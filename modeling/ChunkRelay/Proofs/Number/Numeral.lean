import ChunkRelay.Number.Numeral
import ChunkRelay.Proofs.Text.Blank

/-! # How numerals are read

A run of digits is read as the number that it writes, the first digit first, if nothing that could
belong to it follows. What comes before and after may be blank. The separators among the controls
count as blanks elsewhere, but no numeral may carry one of them.
-/

namespace ChunkRelay

/-- The blanks that separate fields, records, groups and files. -/
def isSeparator (c : Char) : Bool := 0x1C ≤ c.toNat && c.toNat ≤ 0x1F

theorem isSeparator_iff {c : Char} : isSeparator c ↔ 0x1C ≤ c.toNat ∧ c.toNat ≤ 0x1F := by
  rw [isSeparator, Bool.and_eq_true, decide_eq_true_eq, decide_eq_true_eq]

namespace Numeral

variable {base : Nat} {text rest : List Char} {digits : List Nat} {c : Char}

/-! ## Digits -/

/-- The number that digits write, the first one first. -/
def valueOf (base : Nat) (digits : List Nat) : Nat := digits.foldl (fun n d => n * base + d) 0

theorem valueOf_snoc (digits : List Nat) (d : Nat) :
    valueOf base (digits ++ [d]) = valueOf base digits * base + d := by
  rw [valueOf, List.foldl_append, ← valueOf]
  rfl

theorem valueOf_zeros (count : Nat) (digits : List Nat) :
    valueOf base (List.replicate count 0 ++ digits) = valueOf base digits := by
  induction count with
  | zero => rfl
  | succ count ih => simpa [valueOf, List.replicate_succ] using ih

/-- Characters that are digits of a base. -/
def Spells (base : Nat) (text : List Char) (digits : List Nat) : Prop :=
  text.map (digitOf? base) = digits.map some

theorem Spells.append {text' : List Char} {digits' : List Nat} (first : Spells base text digits)
    (second : Spells base text' digits') : Spells base (text ++ text') (digits ++ digits') := by
  rw [Spells, List.map_append, List.map_append, first, second]

theorem Spells.digit (spells : Spells base text digits) (member : c ∈ text) :
    ∃ d, digitOf? base c = some d := by
  have read : digitOf? base c ∈ digits.map some := spells ▸ List.mem_map_of_mem member
  obtain ⟨d, -, found⟩ := List.mem_map.mp read
  exact ⟨d, found.symm⟩

theorem digit?_small (small : c.toNat < 0x30) : digit? c = none := by
  have below (low : Char) (above : 0x30 ≤ low.toNat) : (low ≤ c) = False := by
    rw [Char.le_def, UInt32.le_iff_toNat_le, eq_iff_iff, iff_false]
    exact Nat.not_le.mpr (Nat.lt_of_lt_of_le small above)
  simp [digit?, below '0', below 'a', below 'A']

theorem digit?_large {d : Nat} (isDigit : digit? c = some d) : c.toNat < 0x7F := by
  have above (high : Char) (below : c ≤ high) : c.toNat ≤ high.toNat := by
    rwa [Char.le_def, UInt32.le_iff_toNat_le] at below
  rw [digit?] at isDigit
  simp only [Bool.and_eq_true, decide_eq_true_eq] at isDigit
  split_ifs at isDigit with figure small capital
  · exact Nat.lt_of_le_of_lt (above '9' figure.2) (by decide)
  · exact Nat.lt_of_le_of_lt (above 'z' small.2) (by decide)
  · exact Nat.lt_of_le_of_lt (above 'Z' capital.2) (by decide)

theorem digit?_of_digitOf? {d : Nat} (found : digitOf? base c = some d) : digit? c = some d :=
  (Option.filter_eq_some_iff.mp found).1

/-- A text with which no digit of a base and no underscore begins. -/
def Ends (base : Nat) (text : List Char) : Prop :=
  ∀ c ∈ text.head?, c ≠ '_' ∧ digitOf? base c = none

theorem digitsAfter_spelled (spells : Spells base text digits) (ends : Ends base rest)
    (before : List Nat) :
    digitsAfter base before (text ++ rest) = some (digits.reverse ++ before, rest) := by
  induction text generalizing digits before with
  | nil =>
      obtain rfl : digits = [] := List.map_eq_nil_iff.mp spells.symm
      cases rest with
      | nil => rfl
      | cons c rest =>
          have ⟨noMark, noDigit⟩ := ends c rfl
          simp [digitsAfter, noDigit]
  | cons c text ih =>
      obtain ⟨d, digits, rfl, read, spells⟩ := List.map_eq_cons_iff.mp spells.symm
      have noMark : c ≠ '_' := by
        rintro rfl
        cases digit?_of_digitOf? read.symm
      simp [digitsAfter, ← read, ih spells.symm]

theorem magnitudeIn_spelled (spells : Spells base text digits) (some_ : text ≠ [])
    (ends : Ends base rest) (unlimited : base ≠ 10) :
    magnitudeIn base (text ++ rest) = .ok (valueOf base digits, rest) := by
  cases text with
  | nil => exact absurd rfl some_
  | cons c text =>
      obtain ⟨d, digits, rfl, read, spells⟩ := List.map_eq_cons_iff.mp spells.symm
      have run := digitsAfter_spelled spells.symm ends [d]
      have value : (digits.reverse ++ [d]).foldr (fun d n => n * base + d) 0 =
          valueOf base (d :: digits) := by
        rw [← List.reverse_cons, List.foldr_reverse, valueOf]
      simp [magnitudeIn, ← read, run, unlimited, ← value]

theorem magnitudeIn_other (noDigit : digit? c = none) :
    magnitudeIn base (c :: rest) = .error .malformed := by
  simp [magnitudeIn, digitOf?, noDigit]

/-! ## Base marks -/

theorem magnitude_unmarked (unmarked : ∀ c ∈ text[1]?, markBase? c ≠ some base) :
    magnitude (.inBase base) text = magnitudeIn base text := by
  match text with
  | [] | [_] => simp [magnitude]
  | zero :: c :: rest =>
      by_cases isZero : zero = '0'
      · subst isZero
        cases mark : markBase? c with
        | none => simp [magnitude, mark]
        | some marked =>
            have other : marked ≠ base := fun same => unmarked c rfl (same ▸ mark)
            simp [magnitude, mark, other]
      · simp [magnitude, isZero]

theorem magnitude_other (style : Style) (noDigit : digit? c = none) :
    magnitude style (c :: rest) = .error .malformed := by
  have noZero : c ≠ '0' := by
    rintro rfl
    cases noDigit
  cases style with
  | inBase base => simp [magnitude, noZero, magnitudeIn_other noDigit]
  | marked => simp [magnitude, noZero, magnitudeIn_other noDigit]

/-- A number with the mark of base sixteen is read in the same way with and without a given base. -/
theorem magnitude_marked {x : Char} (isMark : x = 'x' ∨ x = 'X') :
    magnitude (.inBase 16) ('0' :: x :: rest) = magnitude .marked ('0' :: x :: rest) := by
  rcases isMark with rfl | rfl <;> rfl

/-! ## Blanks -/

theorem isAsciiBlank_of_isBlank (small : c.toNat < 0x80) (blank : isBlank c) :
    isAsciiBlank c = !isSeparator c := by
  simp only [isBlank, Bool.or_eq_true, Bool.and_eq_true, decide_eq_true_eq, beq_iff_eq] at blank
  rw [Bool.eq_iff_iff]
  simp only [isAsciiBlank, isSeparator, Bool.or_eq_true, Bool.and_eq_true, decide_eq_true_eq,
    beq_iff_eq, Bool.not_eq_true', Bool.and_eq_false_iff, decide_eq_false_iff_not]
  omega

/-- Simplifying replaces one character by one. What it makes of a blank is a blank of a numeral, but
a separator stays one. -/
theorem simplify_eq_map (text : List Char) :
    ∃ g : Char → Char, simplify text = text.map g ∧ (∀ c, c.toNat < 0x7F → g c = c) ∧
      ∀ c ∈ text, isBlank c → isAsciiBlank (g c) = !isSeparator c := by
  rw [simplify]
  split
  · next ascii =>
      refine ⟨id, (List.map_id text).symm, fun _ _ => rfl, fun c member blank => ?_⟩
      have small : c.toNat < 0x80 := by simpa using List.all_eq_true.mp ascii c member
      exact isAsciiBlank_of_isBlank small blank
  · refine ⟨_, rfl, fun c small => if_pos small, fun c _ blank => ?_⟩
    by_cases small : c.toNat < 0x7F
    · rw [if_pos small]
      exact isAsciiBlank_of_isBlank (by omega) blank
    · rw [if_neg small, if_pos blank]
      have apart : isSeparator c = false := by
        rw [Bool.eq_false_iff, ne_eq, isSeparator_iff]
        omega
      rw [apart]
      rfl

/-- Blanks as the reader of a numeral sees them. -/
structure SeenAs (blanks seen : List Char) : Prop where
  each : ∀ c ∈ seen, isAsciiBlank c ∨ isSeparator c
  clean : seen.all isAsciiBlank = !blanks.any isSeparator

theorem seenAs_map {blanks : List Char} {g : Char → Char} (plain : ∀ c, c.toNat < 0x7F → g c = c)
    (blank : ∀ c ∈ blanks, isAsciiBlank (g c) = !isSeparator c) : SeenAs blanks (blanks.map g) where
  each := by
    rw [List.forall_mem_map]
    intro c member
    cases separator : isSeparator c with
    | false => exact Or.inl (by rw [blank c member, separator]; rfl)
    | true =>
        right
        have ⟨_, high⟩ := isSeparator_iff.mp separator
        rwa [plain c (by omega)]
  clean := by
    rw [List.not_any_eq_all_not, List.all_map, Bool.eq_iff_iff, List.all_eq_true, List.all_eq_true]
    refine forall₂_congr fun c member => ?_
    rw [Function.comp_apply, blank c member]

theorem simplify_around {before core : List Char} (after : List Char)
    (plain : ∀ c ∈ core, c.toNat < 0x7F) (blank : ∀ c ∈ before, isBlank c) :
    ∃ before' after', simplify (before ++ (core ++ after)) = before' ++ (core ++ after') ∧
      SeenAs before before' ∧ ((∀ c ∈ after, isBlank c) → SeenAs after after') := by
  obtain ⟨g, simplified, plainly, blankly⟩ := simplify_eq_map (before ++ (core ++ after))
  have same : core.map g = core :=
    (List.map_congr_left fun c member => plainly c (plain c member)).trans (List.map_id' core)
  refine ⟨before.map g, after.map g, ?_, ?_, fun blankAfter => ?_⟩
  · rw [simplified, List.map_append, List.map_append, same]
  · exact seenAs_map plainly fun c member => blankly c (by simp [member]) (blank c member)
  · exact seenAs_map plainly fun c member => blankly c (by simp [member]) (blankAfter c member)

/-! ## Signed numerals -/

theorem ofAscii_blanks (style : Style) {before : List Char} (blank : ∀ c ∈ before, isAsciiBlank c) :
    ofAscii style (before ++ text) = ofAscii style text := by
  rw [ofAscii, ofAscii, List.dropWhile_append_of_pos blank]

theorem sign_unsigned (noMinus : c ≠ '-') (noPlus : c ≠ '+') :
    sign (c :: rest) = (false, c :: rest) := by
  simp [sign, noMinus, noPlus]

theorem ofAscii_separator (style : Style) (separator : isSeparator c) :
    ofAscii style (c :: rest) = .error .malformed := by
  have ⟨low, high⟩ := isSeparator_iff.mp separator
  have noBlank : ¬isAsciiBlank c := by
    simp [isAsciiBlank]
    omega
  have unsigned : sign (c :: rest) = (false, c :: rest) := by
    apply sign_unsigned <;> (rintro rfl; cases separator)
  rw [ofAscii, List.dropWhile_cons_of_neg noBlank, unsigned]
  dsimp only
  rw [magnitude_other style (digit?_small (by omega))]
  rfl

theorem ofAscii_separated (style : Style) {before : List Char}
    (each : ∀ c ∈ before, isAsciiBlank c ∨ isSeparator c)
    (unclean : ¬∀ c ∈ before, isAsciiBlank c) :
    ofAscii style (before ++ text) = .error .malformed := by
  induction before with
  | nil => exact absurd nofun unclean
  | cons c before ih =>
      rw [List.forall_mem_cons] at each unclean
      rcases each.1 with blank | separator
      · have first : ∀ c' ∈ [c], isAsciiBlank c' := by simpa using blank
        have skipped : ofAscii style (c :: (before ++ text)) = ofAscii style (before ++ text) :=
          ofAscii_blanks style first
        rw [List.cons_append, skipped]
        exact ih each.2 fun all => unclean ⟨blank, all⟩
      · exact ofAscii_separator style separator

/-- What may stand for a sign, and whether it is a minus. -/
inductive IsSign : List Char → Bool → Prop where
  | minus : IsSign ['-'] true
  | plus : IsSign ['+'] false
  | none : IsSign [] false

theorem IsSign.plain {signs : List Char} {negative : Bool} (isSign : IsSign signs negative) :
    ∀ c ∈ signs, c.toNat < 0x7F := by
  cases isSign <;> simp

theorem isSign_sign (text : List Char) :
    ∃ signs, IsSign signs (sign text).1 ∧ text = signs ++ (sign text).2 := by
  fun_cases sign text with
  | case1 rest => exact ⟨_, .minus, rfl⟩
  | case2 rest => exact ⟨_, .plus, rfl⟩
  | case3 => exact ⟨_, .none, rfl⟩

theorem ofAscii_signed (style : Style) {signs : List Char} {negative : Bool} {d : Nat}
    (isSign : IsSign signs negative) (isDigit : digit? c = some d) :
    ofAscii style (signs ++ c :: rest) = (do
      let (n, after) ← magnitude style (c :: rest)
      if after.all isAsciiBlank then pure (if negative then -(n : Int) else n)
      else throw .malformed) := by
  cases isSign with
  | minus | plus => rfl
  | none =>
      have large : 0x30 ≤ c.toNat := by
        refine Nat.le_of_not_lt fun small => ?_
        rw [digit?_small small] at isDigit
        cases isDigit
      have noBlank : ¬isAsciiBlank c := by
        simp [isAsciiBlank]
        omega
      have unsigned : sign (c :: rest) = (false, c :: rest) := by
        apply sign_unsigned <;> (rintro rfl; cases isDigit)
      rw [List.nil_append, ofAscii, List.dropWhile_cons_of_neg noBlank, unsigned]

theorem ofAscii_marked {signs : List Char} {negative : Bool} {x : Char}
    (isSign : IsSign signs negative) (isMark : x = 'x' ∨ x = 'X') :
    ofAscii (.inBase 16) (signs ++ '0' :: x :: rest) =
      ofAscii .marked (signs ++ '0' :: x :: rest) := by
  have isDigit : digit? '0' = some 0 := rfl
  rw [ofAscii_signed _ isSign isDigit, ofAscii_signed _ isSign isDigit, magnitude_marked isMark]

theorem markBase?_digit {d : Nat} (isDigit : digitOf? 16 c = some d) : markBase? c ≠ some 16 := by
  intro mark
  have letter : c = 'x' ∨ c = 'X' := by
    rw [markBase?] at mark
    split_ifs at mark with isMark
    · simpa using isMark
    all_goals cases mark
  rcases letter with rfl | rfl <;> cases isDigit

theorem markBase?_small (small : c.toNat < 0x30) : markBase? c = none := by
  have other (letter : Char) (above : 0x30 ≤ letter.toNat) : c ≠ letter := by
    rintro rfl
    omega
  simp [markBase?, other]

/-- Digits of base sixteen after a sign, with nothing but blanks and controls behind them. -/
theorem ofAscii_hex {signs after : List Char} {negative : Bool} (isSign : IsSign signs negative)
    (spells : Spells 16 text digits) (some_ : text ≠ []) (small : ∀ c ∈ after, c.toNat < 0x30) :
    ofAscii (.inBase 16) (signs ++ (text ++ after)) =
      if after.all isAsciiBlank then
        .ok (if negative then -(valueOf 16 digits : Int) else valueOf 16 digits)
      else .error .malformed := by
  have unmarked : ∀ c ∈ (text ++ after)[1]?, markBase? c ≠ some 16 := by
    intro c second
    rcases List.mem_append.mp (List.mem_of_getElem? second) with inside | behind
    · obtain ⟨d, isDigit⟩ := spells.digit inside
      exact markBase?_digit isDigit
    · simp [markBase?_small (small c behind)]
  have ends : Ends 16 after := by
    intro c first
    have below := small c (List.mem_of_mem_head? first)
    refine ⟨?_, by simp [digitOf?, digit?_small below]⟩
    rintro rfl
    exact absurd below (by decide)
  have read : magnitude (.inBase 16) (text ++ after) = .ok (valueOf 16 digits, after) := by
    rw [magnitude_unmarked unmarked, magnitudeIn_spelled spells some_ ends (by decide)]
  cases text with
  | nil => exact absurd rfl some_
  | cons c text =>
      obtain ⟨d, isDigit⟩ := spells.digit List.mem_cons_self
      rw [List.cons_append] at read ⊢
      rw [ofAscii_signed _ isSign (digit?_of_digitOf? isDigit), read]
      rfl

/-! ## Numerals among blanks -/

theorem SeenAs.small {blanks seen : List Char} (seenAs : SeenAs blanks seen) :
    ∀ c ∈ seen, c.toNat < 0x30 := by
  intro c member
  rcases seenAs.each c member with blank | separator
  · simp [isAsciiBlank] at blank
    omega
  · have ⟨_, high⟩ := isSeparator_iff.mp separator
    omega

/-- Characters that write an integer as a sign and digits of base sixteen. -/
inductive Writes : List Char → Int → Prop where
  | signed {signs text : List Char} {negative : Bool} {digits : List Nat}
      (isSign : IsSign signs negative) (spells : Spells 16 text digits) (some_ : text ≠ []) :
      Writes (signs ++ text) (if negative then -(valueOf 16 digits : Int) else valueOf 16 digits)

theorem Writes.plain {n : Int} (writes : Writes text n) : ∀ c ∈ text, c.toNat < 0x7F := by
  obtain ⟨isSign, spells, -⟩ := writes
  refine List.forall_mem_append.mpr ⟨isSign.plain, fun c member => ?_⟩
  obtain ⟨d, isDigit⟩ := spells.digit member
  exact digit?_large (digit?_of_digitOf? isDigit)

theorem Writes.apart {n : Int} (writes : Writes text n) (noDigit : digit? c = none)
    (noMinus : c ≠ '-') (noPlus : c ≠ '+') : c ∉ text := by
  obtain ⟨isSign, spells, -⟩ := writes
  rw [List.mem_append]
  rintro (inSign | inText)
  · cases isSign <;> simp_all
  · obtain ⟨d, isDigit⟩ := spells.digit inText
    rw [digit?_of_digitOf? isDigit] at noDigit
    cases noDigit

/-- What writes an integer is read among blanks, unless a separator is one of them. -/
theorem ofChars_written {n : Int} {before after : List Char} (writes : Writes text n)
    (blankBefore : ∀ c ∈ before, isBlank c) (blankAfter : ∀ c ∈ after, isBlank c) :
    ofChars (.inBase 16) (before ++ (text ++ after)) =
      if (before ++ after).any isSeparator then .error .malformed else .ok n := by
  obtain ⟨before', after', simplified, seenBefore, seenAfter⟩ :=
    simplify_around after writes.plain blankBefore
  obtain ⟨isSign, spells, some_⟩ := writes
  rw [ofChars, simplified, List.any_append]
  cases separated : before.any isSeparator with
  | true =>
      have unclean : ¬∀ c ∈ before', isAsciiBlank c := by
        rw [← List.all_eq_true, seenBefore.clean, separated]
        exact Bool.false_ne_true
      rw [ofAscii_separated _ seenBefore.each unclean]
      rfl
  | false =>
      have clean : ∀ c ∈ before', isAsciiBlank c := by
        rw [← List.all_eq_true, seenBefore.clean, separated]
        rfl
      have seenAfter := seenAfter blankAfter
      rw [ofAscii_blanks _ clean, List.append_assoc,
        ofAscii_hex isSign spells some_ seenAfter.small, seenAfter.clean]
      cases after.any isSeparator <;> rfl

/-- A text that after its blanks and its sign begins with the mark of base sixteen. -/
def HexMarked (text : List Char) : Prop :=
  ∃ x rest, (x = 'x' ∨ x = 'X') ∧ (sign (strip text)).2 = '0' :: x :: rest

/-- A numeral with the mark of base sixteen is read in the same way with and without a given base,
and so is a text that has the mark but is no numeral. -/
theorem ofChars_marked (marked : HexMarked text) :
    ofChars (.inBase 16) text = ofChars .marked text := by
  obtain ⟨x, rest, isMark, unsigned⟩ := marked
  obtain ⟨-, before, after, blank, -, made⟩ := stripWhere_eq_iff.mp (Eq.refl (strip text))
  obtain ⟨signs, isSign, signed⟩ := isSign_sign (strip text)
  have regrouped : text = before ++ (signs ++ ['0', x] ++ (rest ++ after)) := by
    calc
      text = before ++ strip text ++ after := made
      _ = before ++ (signs ++ '0' :: x :: rest) ++ after := by rw [← unsigned, ← signed]
      _ = before ++ (signs ++ ['0', x] ++ (rest ++ after)) := by simp
  have plain : ∀ c ∈ signs ++ ['0', x], c.toNat < 0x7F := by
    refine List.forall_mem_append.mpr ⟨isSign.plain, ?_⟩
    rcases isMark with rfl | rfl <;> simp
  obtain ⟨before', rest', simplified, seenBefore, -⟩ :=
    simplify_around (rest ++ after) plain blank
  rw [ofChars, ofChars, regrouped, simplified]
  by_cases clean : ∀ c ∈ before', isAsciiBlank c
  · have read : ofAscii (.inBase 16) (signs ++ '0' :: x :: rest') =
        ofAscii .marked (signs ++ '0' :: x :: rest') := ofAscii_marked isSign isMark
    simpa [ofAscii_blanks _ clean] using read
  · rw [ofAscii_separated _ seenBefore.each clean, ofAscii_separated _ seenBefore.each clean]

end Numeral

end ChunkRelay
