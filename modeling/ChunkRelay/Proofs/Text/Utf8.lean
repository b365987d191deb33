import ChunkRelay.Text.Utf8
import Mathlib.Data.List.Basic
import Mathlib.Data.List.TakeWhile

/-! # Decoding what was encoded

A character's bytes are one valid piece, and a proper start of them is one invalid piece. So texts
survive encoding, and of a text cut anywhere in its bytes exactly the characters that are whole
remain. The other way round, the characters of any bytes are encoded by some of these bytes.
-/

namespace ChunkRelay.Utf8

/-- The bytes after the first one of a character, or after the second where that one is narrowed. -/
def IsTail (b : UInt8) : Prop := 0x80 ≤ b.toNat ∧ b.toNat ≤ 0xBF

/-- The value so far with the six bits of one more byte. -/
def carry (value : Nat) (b : UInt8) : Nat := value * 0x40 + (b.toNat - 0x80)

theorem toNat_ofNat {n : Nat} (h : n < 0x100) : (UInt8.ofNat n).toNat = n :=
  UInt8.toNat_ofNat_of_lt' h

theorem ofNat_eq {n : Nat} {b : UInt8} (h : n = b.toNat) : UInt8.ofNat n = b := by
  rw [h, UInt8.ofNat_toNat]

theorem char_toNat {v : Nat} (h : v.isValidChar) : (Char.ofNat v).toNat = v := by
  unfold Char.ofNat
  rw [dif_pos h]
  exact UInt32.toNat_ofNatLT

section Tail

variable {value low high : Nat} {b : UInt8} {bs : List UInt8}

theorem tail_last (rest : List UInt8) (hb : low ≤ b.toNat ∧ b.toNat ≤ high) :
    tail value low high 0 (b :: rest) = (some (carry value b), 1) := by
  rw [tail, if_pos hb]
  rfl

theorem tail_more (more : Nat) (rest : List UInt8) (hb : low ≤ b.toNat ∧ b.toNat ≤ high) :
    tail value low high (more + 1) (b :: rest) =
      ((tail (carry value b) 0x80 0xBF more rest).1,
        (tail (carry value b) 0x80 0xBF more rest).2 + 1) := by
  rw [tail, if_pos hb]
  rfl

theorem tail_outside (more : Nat) (rest : List UInt8) (hb : ¬(low ≤ b.toNat ∧ b.toNat ≤ high)) :
    tail value low high more (b :: rest) = (none, 0) := by
  rw [tail, if_neg hb]

theorem tail_whole (rest : List UInt8) (hb : low ≤ b.toNat ∧ b.toNat ≤ high)
    (hbs : ∀ c ∈ bs, IsTail c) :
    tail value low high bs.length (b :: (bs ++ rest)) =
      (some ((b :: bs).foldl carry value), bs.length + 1) := by
  induction bs generalizing value low high b with
  | nil => exact tail_last rest hb
  | cons c cs ih =>
      have hc : 0x80 ≤ c.toNat ∧ c.toNat ≤ 0xBF := hbs c (by simp)
      have hcs : ∀ d ∈ cs, IsTail d := fun d hd => hbs d (by simp [hd])
      rw [List.length_cons, tail_more _ _ hb, List.cons_append, ih hc hcs]
      simp only [List.foldl_cons]

theorem tail_short {more : Nat} (hb : low ≤ b.toNat ∧ b.toNat ≤ high)
    (hbs : ∀ c ∈ bs, IsTail c) (short : bs.length < more) :
    tail value low high more (b :: bs) = (none, bs.length + 1) := by
  obtain ⟨more, rfl⟩ : ∃ n, more = n + 1 := ⟨more - 1, by omega⟩
  induction bs generalizing value low high b more with
  | nil =>
      rw [tail_more _ _ hb, tail]
      rfl
  | cons c cs ih =>
      have hc : 0x80 ≤ c.toNat ∧ c.toNat ≤ 0xBF := hbs c (by simp)
      have hcs : ∀ d ∈ cs, IsTail d := fun d hd => hbs d (by simp [hd])
      obtain ⟨more, rfl⟩ : ∃ n, more = n + 1 := ⟨more - 1, by simp at short; omega⟩
      rw [tail_more _ _ hb, ih hc hcs more (by simpa using short)]
      rfl

theorem tail_inversion {more v taken : Nat}
    (h : tail value low high more bs = (some v, taken)) :
    ∃ b cs rest, bs = b :: (cs ++ rest) ∧ cs.length = more ∧ taken = more + 1 ∧
      (low ≤ b.toNat ∧ b.toNat ≤ high) ∧ (∀ c ∈ cs, IsTail c) ∧
      v = (b :: cs).foldl carry value := by
  induction more generalizing value low high bs v taken with
  | zero =>
      rcases bs with _ | ⟨b, rest⟩
      · simp [tail] at h
      by_cases hb : low ≤ b.toNat ∧ b.toNat ≤ high
      · rw [tail_last _ hb] at h
        obtain ⟨rfl, rfl⟩ : carry value b = v ∧ 1 = taken := by simpa using h
        exact ⟨b, [], rest, rfl, rfl, rfl, hb, by simp, rfl⟩
      · simp [tail_outside _ _ hb] at h
  | succ more ih =>
      rcases bs with _ | ⟨b, rest⟩
      · simp [tail] at h
      by_cases hb : low ≤ b.toNat ∧ b.toNat ≤ high
      · rw [tail_more _ _ hb] at h
        obtain ⟨whole, rfl⟩ := Prod.mk.inj h
        obtain ⟨c, cs, last, rfl, rfl, count, hc, hcs, rfl⟩ := ih (Prod.ext whole rfl)
        refine ⟨b, c :: cs, last, rfl, rfl, congrArg (· + 1) count, hb, ?_, by
          simp only [List.foldl_cons]⟩
        intro d hd
        rcases List.mem_cons.mp hd with rfl | hd
        · exact hc
        · exact hcs d hd
      · simp [tail_outside _ _ hb] at h

end Tail

/-! ## Characters of several bytes -/

theorem lead?_two {v : Nat} (small : 0x80 ≤ v) (large : v < 0x800) :
    lead? (0xC0 + v / 0x40) = some ⟨v / 0x40, 0x80, 0xBF, 0⟩ := by
  rw [lead?, if_neg (by omega), if_pos (by omega), Nat.add_sub_cancel_left]

theorem lead?_three {v : Nat} (small : 0x800 ≤ v) (large : v < 0x10000) (valid : v.isValidChar) :
    ∃ low high, lead? (0xE0 + v / 0x1000) = some ⟨v / 0x1000, low, high, 1⟩ ∧
      low ≤ 0x80 + v / 0x40 % 0x40 ∧ 0x80 + v / 0x40 % 0x40 ≤ high := by
  rw [lead?, if_neg (by omega), if_neg (by omega)]
  by_cases overlong : v / 0x1000 = 0
  · exact ⟨0xA0, 0xBF, by simp [overlong], by omega, by omega⟩
  by_cases surrogate : v / 0x1000 = 0xD
  · refine ⟨0x80, 0x9F, by simp [surrogate], by omega, ?_⟩
    rcases valid with below | ⟨above, _⟩ <;> omega
  · refine ⟨0x80, 0xBF, ?_, by omega, by omega⟩
    rw [if_neg (by omega), if_neg (by omega), if_pos (by omega), Nat.add_sub_cancel_left]

theorem lead?_four {v : Nat} (small : 0x10000 ≤ v) (large : v < 0x110000) :
    ∃ low high, lead? (0xF0 + v / 0x40000) = some ⟨v / 0x40000, low, high, 2⟩ ∧
      low ≤ 0x80 + v / 0x1000 % 0x40 ∧ 0x80 + v / 0x1000 % 0x40 ≤ high := by
  rw [lead?, if_neg (by omega), if_neg (by omega), if_neg (by omega), if_neg (by omega),
    if_neg (by omega)]
  by_cases overlong : v / 0x40000 = 0
  · exact ⟨0x90, 0xBF, by simp [overlong], by omega, by omega⟩
  by_cases beyond : v / 0x40000 = 4
  · exact ⟨0x80, 0x8F, by simp [beyond], by omega, by omega⟩
  · refine ⟨0x80, 0xBF, ?_, by omega, by omega⟩
    rw [if_neg (by omega), if_pos (by omega), Nat.add_sub_cancel_left]

/-- What a first byte announces keeps the value that follows within one class of characters. -/
theorem lead?_inversion {b : Nat} {l : Lead} (h : lead? b = some l) :
    (0xC2 ≤ b ∧ b < 0xE0 ∧ l.bits = b - 0xC0 ∧ l.more = 0 ∧ 0x80 ≤ l.low ∧ l.high ≤ 0xBF) ∨
    (0xE0 ≤ b ∧ b < 0xF0 ∧ l.bits = b - 0xE0 ∧ l.more = 1 ∧ 0x80 ≤ l.low ∧ l.high ≤ 0xBF ∧
      (b = 0xE0 → 0xA0 ≤ l.low) ∧ (b = 0xED → l.high ≤ 0x9F)) ∨
    (0xF0 ≤ b ∧ b ≤ 0xF4 ∧ l.bits = b - 0xF0 ∧ l.more = 2 ∧ 0x80 ≤ l.low ∧ l.high ≤ 0xBF ∧
      (b = 0xF0 → 0x90 ≤ l.low) ∧ (b = 0xF4 → l.high ≤ 0x8F)) := by
  unfold lead? at h
  split_ifs at h <;> obtain rfl := Option.some.inj h <;> dsimp only <;> omega

/-- A first byte with the bytes that it announces, which together carry a value. -/
structure MultiByte (v : Nat) (first second : UInt8) (bs : List UInt8) (l : Lead) : Prop where
  lead : lead? first.toNat = some l
  narrowed : l.low ≤ second.toNat ∧ second.toNat ≤ l.high
  tails : ∀ b ∈ bs, IsTail b
  count : bs.length = l.more
  value : (second :: bs).foldl carry l.bits = v

theorem encodeChar_one {c : Char} (large : c.toNat < 0x80) :
    encodeChar c = [UInt8.ofNat c.toNat] := by
  simp only [encodeChar, large, if_true]

theorem encodeChar_two {c : Char} (small : 0x80 ≤ c.toNat) (large : c.toNat < 0x800) :
    encodeChar c =
      [UInt8.ofNat (0xC0 + c.toNat / 0x40), UInt8.ofNat (0x80 + c.toNat % 0x40)] := by
  simp only [encodeChar, if_neg (Nat.not_lt.mpr small), large, if_true]

theorem encodeChar_three {c : Char} (small : 0x800 ≤ c.toNat) (large : c.toNat < 0x10000) :
    encodeChar c =
      [UInt8.ofNat (0xE0 + c.toNat / 0x1000), UInt8.ofNat (0x80 + c.toNat / 0x40 % 0x40),
        UInt8.ofNat (0x80 + c.toNat % 0x40)] := by
  simp only [encodeChar, if_neg (Nat.not_lt.mpr small), large, if_true,
    if_neg (show ¬c.toNat < 0x80 by omega)]

theorem encodeChar_four {c : Char} (small : 0x10000 ≤ c.toNat) :
    encodeChar c =
      [UInt8.ofNat (0xF0 + c.toNat / 0x40000), UInt8.ofNat (0x80 + c.toNat / 0x1000 % 0x40),
        UInt8.ofNat (0x80 + c.toNat / 0x40 % 0x40), UInt8.ofNat (0x80 + c.toNat % 0x40)] := by
  simp only [encodeChar, if_neg (Nat.not_lt.mpr small), if_neg (show ¬c.toNat < 0x80 by omega),
    if_neg (show ¬c.toNat < 0x800 by omega)]

theorem encodeChar_multiByte {c : Char} (small : 0x80 ≤ c.toNat) :
    ∃ first second bs l, encodeChar c = first :: second :: bs ∧
      MultiByte c.toNat first second bs l := by
  have valid : c.toNat.isValidChar := c.valid
  have top : c.toNat < 0x110000 := by rcases valid with below | ⟨_, above⟩ <;> omega
  have last := toNat_ofNat (show 0x80 + c.toNat % 0x40 < 0x100 by omega)
  have middle := toNat_ofNat (show 0x80 + c.toNat / 0x40 % 0x40 < 0x100 by omega)
  by_cases two : c.toNat < 0x800
  · have first := toNat_ofNat (show 0xC0 + c.toNat / 0x40 < 0x100 by omega)
    refine ⟨_, _, _, ⟨c.toNat / 0x40, 0x80, 0xBF, 0⟩, encodeChar_two small two, ?_⟩
    constructor
    · rw [first, lead?_two small two]
    · simp only [last]; omega
    · simp
    · rfl
    · simp only [List.foldl_cons, List.foldl_nil]
      unfold carry
      simp only [last]
      omega
  by_cases three : c.toNat < 0x10000
  · have first := toNat_ofNat (show 0xE0 + c.toNat / 0x1000 < 0x100 by omega)
    obtain ⟨low, high, lead, narrowed⟩ := lead?_three (by omega) three valid
    refine ⟨_, _, _, ⟨c.toNat / 0x1000, low, high, 1⟩, encodeChar_three (by omega) three, ?_⟩
    constructor
    · rw [first, lead]
    · simp only [middle]; exact narrowed
    · simp only [List.mem_singleton, forall_eq, IsTail, last]; omega
    · rfl
    · simp only [List.foldl_cons, List.foldl_nil]
      unfold carry
      simp only [middle, last]
      omega
  · have first := toNat_ofNat (show 0xF0 + c.toNat / 0x40000 < 0x100 by omega)
    have second := toNat_ofNat (show 0x80 + c.toNat / 0x1000 % 0x40 < 0x100 by omega)
    obtain ⟨low, high, lead, narrowed⟩ := lead?_four (by omega) top
    refine ⟨_, _, _, ⟨c.toNat / 0x40000, low, high, 2⟩, encodeChar_four (by omega), ?_⟩
    constructor
    · rw [first, lead]
    · simp only [second]; exact narrowed
    · simp only [List.mem_cons, List.not_mem_nil, or_false, forall_eq_or_imp, forall_eq, IsTail,
        middle, last]
      omega
    · rfl
    · simp only [List.foldl_cons, List.foldl_nil]
      unfold carry
      simp only [second, middle, last]
      omega

namespace MultiByte

variable {v : Nat} {first second : UInt8} {bs : List UInt8} {l : Lead}

/-- The narrowed second bytes leave no value that another number of bytes could carry, and none
    that is no character. -/
theorem encoded (m : MultiByte v first second bs l) :
    v.isValidChar ∧ encodeChar (Char.ofNat v) = first :: second :: bs := by
  obtain ⟨lead, narrowed, tails, count, rfl⟩ := m
  rcases lead?_inversion lead with ⟨low, high, bits, more, _⟩ | ⟨low, high, bits, more, _⟩ |
    ⟨low, high, bits, more, _⟩
  · obtain rfl := List.length_eq_zero_iff.mp (count.trans more)
    have value : [second].foldl carry l.bits = l.bits * 0x40 + (second.toNat - 0x80) := rfl
    generalize [second].foldl carry l.bits = v at value
    have valid : v.isValidChar := by left; omega
    refine ⟨valid, ?_⟩
    have number := char_toNat valid
    rw [encodeChar_two (by omega) (by omega), number]
    rw [ofNat_eq (b := first) (by omega), ofNat_eq (b := second) (by omega)]
  · obtain ⟨third, rfl⟩ := List.length_eq_one_iff.mp (count.trans more)
    have hthird : 0x80 ≤ third.toNat ∧ third.toNat ≤ 0xBF := tails third (by simp)
    have value : [second, third].foldl carry l.bits =
        (l.bits * 0x40 + (second.toNat - 0x80)) * 0x40 + (third.toNat - 0x80) := rfl
    generalize [second, third].foldl carry l.bits = v at value
    have valid : v.isValidChar := by
      by_cases surrogate : first.toNat = 0xED
      · left; omega
      · unfold Nat.isValidChar; omega
    refine ⟨valid, ?_⟩
    have number := char_toNat valid
    rw [encodeChar_three (by omega) (by omega), number]
    rw [ofNat_eq (b := first) (by omega), ofNat_eq (b := second) (by omega),
      ofNat_eq (b := third) (by omega)]
  · obtain ⟨third, fourth, rfl⟩ := List.length_eq_two.mp (count.trans more)
    have hthird : 0x80 ≤ third.toNat ∧ third.toNat ≤ 0xBF := tails third (by simp)
    have hfourth : 0x80 ≤ fourth.toNat ∧ fourth.toNat ≤ 0xBF := tails fourth (by simp)
    have value : [second, third, fourth].foldl carry l.bits =
        ((l.bits * 0x40 + (second.toNat - 0x80)) * 0x40 + (third.toNat - 0x80)) * 0x40 +
          (fourth.toNat - 0x80) := rfl
    generalize [second, third, fourth].foldl carry l.bits = v at value
    have valid : v.isValidChar := by right; omega
    refine ⟨valid, ?_⟩
    have number := char_toNat valid
    rw [encodeChar_four (by omega), number]
    rw [ofNat_eq (b := first) (by omega), ofNat_eq (b := second) (by omega),
      ofNat_eq (b := third) (by omega), ofNat_eq (b := fourth) (by omega)]

theorem first_large (m : MultiByte v first second bs l) : ¬first.toNat < 0x80 := by
  rcases lead?_inversion m.lead with h | h | h <;> omega

theorem piece_whole (m : MultiByte v first second bs l) (rest : List UInt8) :
    piece first (second :: (bs ++ rest)) = (some (Char.ofNat v), bs.length + 1) := by
  rw [piece, if_neg m.first_large, m.lead]
  simp only
  rw [← m.count, tail_whole rest m.narrowed m.tails, m.value, Option.map_some]

theorem piece_start (m : MultiByte v first second bs l) {start : List UInt8}
    (isStart : start <+: second :: bs) (proper : start.length < bs.length + 1) :
    piece first start = (none, start.length) := by
  rw [piece, if_neg m.first_large, m.lead]
  simp only
  rcases start with _ | ⟨b, start⟩
  · rw [tail]
    rfl
  obtain ⟨rfl, inside⟩ := List.cons_prefix_cons.mp isStart
  have short : start.length < l.more := by rw [← m.count]; simpa using proper
  rw [tail_short m.narrowed (fun d hd => m.tails d (inside.subset hd)) short]
  rfl

end MultiByte

theorem piece_inversion {b : UInt8} {rest : List UInt8} {c : Char} {taken : Nat}
    (h : piece b rest = (some c, taken)) : b :: rest.take taken = encodeChar c := by
  unfold piece at h
  split at h
  · rename_i small
    obtain ⟨rfl, rfl⟩ : Char.ofNat b.toNat = c ∧ 0 = taken := by simpa using h
    have number : (Char.ofNat b.toNat).toNat = b.toNat := char_toNat (by left; omega)
    rw [encodeChar_one (by omega), number, UInt8.ofNat_toNat, List.take_zero]
  · split at h
    · simp at h
    · rename_i l lead
      obtain ⟨value, count⟩ := Prod.mk.inj h
      obtain ⟨v, found, rfl⟩ := Option.map_eq_some_iff.mp value
      obtain ⟨second, bs, last, rfl, length, total, narrowed, tails, carried⟩ :=
        tail_inversion (Prod.ext found count)
      have m : MultiByte v b second bs l := ⟨lead, narrowed, tails, length, carried.symm⟩
      rw [m.encoded.2, total, ← length, List.take_succ_cons, List.take_left' rfl]

/-! ## Texts -/

theorem pieces_encodeChar (c : Char) (rest : List UInt8) :
    pieces (encodeChar c ++ rest) = some c :: pieces rest := by
  by_cases small : c.toNat < 0x80
  · have number := toNat_ofNat (show c.toNat < 0x100 by omega)
    rw [encodeChar_one small, List.cons_append, pieces, piece, number, if_pos small,
      Char.ofNat_toNat]
    rfl
  · obtain ⟨first, second, bs, l, encoded, m⟩ := encodeChar_multiByte (Nat.not_lt.mp small)
    rw [encoded, List.cons_append, List.cons_append, pieces, m.piece_whole, Char.ofNat_toNat,
      List.drop_succ_cons, List.drop_left' rfl]

/-- Of a character that is cut, nothing remains but one invalid piece. -/
theorem pieces_cut_char {c : Char} {n : Nat} (some_bytes : 0 < n)
    (not_all : n < (encodeChar c).length) : pieces ((encodeChar c).take n) = [none] := by
  by_cases small : c.toNat < 0x80
  · rw [encodeChar_one small, List.length_singleton] at not_all
    omega
  · obtain ⟨first, second, bs, l, encoded, m⟩ := encodeChar_multiByte (Nat.not_lt.mp small)
    obtain ⟨n, rfl⟩ : ∃ k, n = k + 1 := ⟨n - 1, by omega⟩
    rw [encoded] at not_all ⊢
    have proper : ((second :: bs).take n).length < bs.length + 1 := by
      simp only [List.length_take, List.length_cons] at not_all ⊢
      omega
    rw [List.take_succ_cons, pieces, m.piece_start (List.take_prefix n _) proper,
      List.drop_length, pieces]

@[simp] theorem encodeChars_cons (c : Char) (text : List Char) :
    encodeChars (c :: text) = encodeChar c ++ encodeChars text := rfl

@[simp] theorem pieces_nil : pieces [] = [] := by
  rw [pieces]

@[simp] theorem toList_decodeDropping (bytes : List UInt8) :
    (decodeDropping bytes).toList = (pieces bytes).filterMap id := by
  rw [decodeDropping, String.toList_ofList]

/-- The characters at the start of a text that fit as a whole into `n` bytes. -/
def fitting (n : Nat) : List Char → List Char
  | [] => []
  | c :: text =>
    if (encodeChar c).length ≤ n then c :: fitting (n - (encodeChar c).length) text else []

theorem fitting_starts (n : Nat) (text : List Char) : fitting n text <+: text := by
  induction text generalizing n with
  | nil => exact List.prefix_rfl
  | cons c text ih =>
      rw [fitting]
      split
      · exact List.cons_prefix_cons.mpr ⟨rfl, ih _⟩
      · exact List.nil_prefix

theorem fitting_fits (n : Nat) (text : List Char) : (encodeChars (fitting n text)).length ≤ n := by
  induction text generalizing n with
  | nil => exact Nat.zero_le n
  | cons c text ih =>
      rw [fitting]
      split
      · have rest := ih (n - (encodeChar c).length)
        rw [encodeChars_cons, List.length_append]
        omega
      · exact Nat.zero_le n

theorem fitting_longest {n : Nat} {text start : List Char} (isStart : start <+: text)
    (fits : (encodeChars start).length ≤ n) : start <+: fitting n text := by
  induction text generalizing n start with
  | nil => rw [List.prefix_nil.mp isStart]; exact List.nil_prefix
  | cons c text ih =>
      rcases start with _ | ⟨d, start⟩
      · exact List.nil_prefix
      obtain ⟨rfl, inside⟩ := List.cons_prefix_cons.mp isStart
      rw [encodeChars_cons, List.length_append] at fits
      rw [fitting, if_pos (by omega)]
      exact List.cons_prefix_cons.mpr ⟨rfl, ih inside (by omega)⟩

theorem fitting_of_fits {n : Nat} {text : List Char} (fits : (encodeChars text).length ≤ n) :
    fitting n text = text :=
  (fitting_starts n text).eq_of_length_le (fitting_longest List.prefix_rfl fits).length_le

/-- Of the bytes of a text, cut anywhere, exactly the whole characters remain. -/
theorem decodeDropping_cut (n : Nat) (text : List Char) :
    (decodeDropping ((encodeChars text).take n)).toList = fitting n text := by
  induction text generalizing n with
  | nil => rw [encodeChars, List.flatMap_nil, List.take_nil]; simp [fitting]
  | cons c text ih =>
      have rest := ih (n - (encodeChar c).length)
      rw [toList_decodeDropping] at rest ⊢
      rw [encodeChars_cons, List.take_append, fitting]
      split
      · rename_i whole
        rw [List.take_of_length_le whole, pieces_encodeChar,
          List.filterMap_cons_some (f := id) rfl, rest]
      · rename_i cut
        rw [Nat.sub_eq_zero_of_le (by omega), List.take_zero, List.append_nil]
        rcases Nat.eq_zero_or_pos n with rfl | some_bytes
        · rw [List.take_zero, pieces_nil]; rfl
        · rw [pieces_cut_char some_bytes (by omega)]; rfl

theorem decodeDropping_encode (text : String) : decodeDropping (encode text) = text := by
  have whole := decodeDropping_cut (encodeChars text.toList).length text.toList
  rw [fitting_of_fits (Nat.le_refl _), List.take_length] at whole
  exact String.toList_inj.mp whole

theorem pieces_encodeChars (text : List Char) (rest : List UInt8) :
    pieces (encodeChars text ++ rest) = text.map some ++ pieces rest := by
  induction text with
  | nil => rfl
  | cons c text ih =>
      rw [encodeChars_cons, List.append_assoc, pieces_encodeChar, ih, List.map_cons,
        List.cons_append]

theorem decode?_encode (text : String) : decode? (encode text) = some text := by
  have whole := pieces_encodeChars text.toList []
  rw [List.append_nil, pieces_nil, List.append_nil] at whole
  have found : (text.toList.map some).mapM id = some text.toList := by
    induction text.toList with
    | nil => rfl
    | cons c rest ih => rw [List.map_cons, List.mapM_cons, ih]; rfl
  rw [decode?, encode, whole, found, Option.map_some, String.ofList_toList]

/-- Of a text with the start of one more character behind it the text remains. -/
theorem decodeDropping_encode_start (text : String) {c : Char} {start : List UInt8}
    (isStart : start <+: encodeChar c) (proper : start.length < (encodeChar c).length) :
    decodeDropping (encode text ++ start) = text := by
  have lost : (pieces start).filterMap id = [] := by
    rw [List.prefix_iff_eq_take.mp isStart]
    rcases Nat.eq_zero_or_pos start.length with none | some_bytes
    · rw [none, List.take_zero, pieces_nil, List.filterMap_nil]
    · rw [pieces_cut_char some_bytes proper]
      rfl
  apply String.toList_inj.mp
  rw [toList_decodeDropping, encode, pieces_encodeChars, List.filterMap_append, lost,
    List.append_nil, List.filterMap_map, Function.id_comp, List.filterMap_some]

/-- What remains of any bytes is encoded by some of them, in their order. -/
theorem encode_decodeDropping_sublist (bytes : List UInt8) :
    (encode (decodeDropping bytes)).Sublist bytes := by
  rw [encode, toList_decodeDropping]
  induction bytes using pieces.induct with
  | case1 => simp [encodeChars]
  | case2 b rest ih =>
      rw [pieces]
      have split := List.take_append_drop (piece b rest).2 rest
      cases found : (piece b rest).1 with
      | none =>
          rw [List.filterMap_cons_none rfl]
          exact ih.trans ((List.drop_sublist _ rest).trans (List.sublist_cons_self b rest))
      | some c =>
          have encoded := piece_inversion (Prod.ext found rfl)
          rw [List.filterMap_cons_some (f := id) rfl, encodeChars_cons, ← encoded]
          conv_rhs => rw [← split]
          exact (List.Sublist.refl _).append ih

/-! ## Zero bytes -/

theorem zero_mem_encodeChar {c : Char} (h : 0 ∈ encodeChar c) : c = '\x00' := by
  by_cases small : c.toNat < 0x80
  · rw [encodeChar_one small, List.mem_singleton] at h
    have number := toNat_ofNat (show c.toNat < 0x100 by omega)
    rw [← h] at number
    rw [← Char.ofNat_toNat c, ← number]
    rfl
  · obtain ⟨first, second, bs, l, encoded, m⟩ := encodeChar_multiByte (Nat.not_lt.mp small)
    have large : ∀ b ∈ first :: second :: bs, b.toNat ≠ 0 := by
      intro b hb
      have leading := m.first_large
      have narrowed := m.narrowed
      rcases List.mem_cons.mp hb with rfl | hb
      · omega
      rcases List.mem_cons.mp hb with rfl | hb
      · rcases lead?_inversion m.lead with found | found | found <;> omega
      · have := (m.tails b hb).1
        omega
    rw [encoded] at h
    exact absurd rfl (large 0 h)

theorem encodeChar_zero : encodeChar '\x00' = [0] := rfl

/-- Bytes end at their first zero where the text ends at its first NUL. -/
theorem encodeChars_untilZero (text : List Char) :
    (encodeChars text).takeWhile (· ≠ 0) = encodeChars (text.takeWhile (· ≠ '\x00')) := by
  induction text with
  | nil => rfl
  | cons c text ih =>
      by_cases zero : c = '\x00'
      · subst zero
        rfl
      · rw [encodeChars_cons, List.takeWhile_append_of_pos, ih,
          List.takeWhile_cons_of_pos (by simpa using zero), encodeChars_cons]
        intro b hb
        by_contra isZero
        obtain rfl : b = 0 := by simpa using isZero
        exact zero (zero_mem_encodeChar hb)

end ChunkRelay.Utf8
