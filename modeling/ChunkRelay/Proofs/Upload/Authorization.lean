import ChunkRelay.Upload.Authorization
import ChunkRelay.Proofs.Text.Blank

/-! # Reading an authorization

Every text either names no header, for want of a colon or of anything but blanks before its first
one, or it is one canonical header with blanks around its two parts. Blanks put in there change
nothing.
-/

namespace ChunkRelay.AuthHeader

/-- Nothing but blanks. -/
def Blank (text : List Char) : Prop :=
  ∀ c ∈ text, isBlank c

instance (text : List Char) : Decidable (Blank text) :=
  decidable_of_iff (text.all isBlank) List.all_eq_true

/-- A text that names no header. -/
def Nameless (text : List Char) : Prop :=
  ':' ∉ text ∨ ∃ before rest, Blank before ∧ text = before ++ ':' :: rest

/-- A text, and the same one with blanks put in at both ends and on both sides of its first
    colon. -/
inductive Padded : List Char → List Char → Prop where
  | plain {before text after : List Char} (plain : ':' ∉ text) (start : Blank before)
      (stop : Blank after) : Padded text (before ++ text ++ after)
  | colon {before name after before' value after' : List Char} (first : ':' ∉ name)
      (start : Blank before) (left : Blank after) (right : Blank before') (stop : Blank after') :
      Padded (name ++ ':' :: value) (before ++ name ++ after ++ ':' :: (before' ++ value ++ after'))

/-- A header in the form that it is read in. -/
structure Canonical (header : AuthHeader) : Prop where
  named : header.name ≠ ""
  colonFree : ':' ∉ header.name.toList
  name : Stripped isBlank header.name.toList
  value : Stripped isBlank header.value.toList

section Colon

variable {name text : List Char}

theorem splitAtColon_first (first : ':' ∉ name) (value : List Char) :
    splitAtColon? (name ++ ':' :: value) = some (name, value) := by
  induction name with
  | nil => rfl
  | cons c name ih =>
      simp only [List.mem_cons, not_or] at first
      have other : c ≠ ':' := Ne.symm first.1
      simp [splitAtColon?, other, ih first.2]

theorem splitAtColon_plain (plain : ':' ∉ text) : splitAtColon? text = none := by
  induction text with
  | nil => rfl
  | cons c text ih =>
      simp only [List.mem_cons, not_or] at plain
      have other : c ≠ ':' := Ne.symm plain.1
      simp [splitAtColon?, other, ih plain.2]

theorem parse_colon (first : ':' ∉ name) (value : List Char) :
    let text := String.ofList (name ++ ':' :: value)
    parse text = if (strip name).isEmpty then .error (.authorizationFormat text.length)
      else .ok ⟨String.ofList (strip name), String.ofList (strip value)⟩ := by
  simp [parse, splitAtColon_first first]

theorem parse_plain {text : String} (plain : ':' ∉ text.toList) :
    parse text = .error (.authorizationFormat text.length) := by
  simp [parse, splitAtColon_plain plain]

theorem plain_or_colon (text : List Char) :
    ':' ∉ text ∨ ∃ name value, ':' ∉ name ∧ text = name ++ ':' :: value := by
  by_cases member : ':' ∈ text
  · obtain ⟨name, value, split, first⟩ := List.eq_append_cons_of_mem member
    exact Or.inr ⟨name, value, first, split⟩
  · exact Or.inl member

end Colon

section Blanks

variable {text before after : List Char}

theorem Blank.no_colon (blank : Blank text) : ':' ∉ text := by
  intro member
  cases blank _ member

theorem Blank.strip (blank : Blank before) (blank' : Blank after) :
    ChunkRelay.strip (before ++ text ++ after) = ChunkRelay.strip text :=
  (stripWhere_after blank').trans (stripWhere_before blank)

theorem strip_isEmpty : (strip text).isEmpty ↔ Blank text := by
  rw [List.isEmpty_iff]
  exact stripWhere_nil_iff

theorem strip_around (text : List Char) :
    ∃ before after, Blank before ∧ Blank after ∧ text = before ++ strip text ++ after :=
  (stripWhere_eq_iff.mp rfl).2

theorem strip_idem (text : List Char) : strip (strip text) = strip text :=
  stripWhere_stripped (stripped_stripWhere isBlank text)

end Blanks

/-- Only the first colon of a text decides whether the text names a header. -/
theorem nameless_colon {name value : List Char} (first : ':' ∉ name) :
    Nameless (name ++ ':' :: value) ↔ Blank name := by
  constructor
  · rintro (plain | ⟨before, rest, blank, split⟩)
    · simp at plain
    · have same := splitAtColon_first first value
      rw [split, splitAtColon_first blank.no_colon] at same
      cases same
      exact blank
  · intro blank
    exact Or.inr ⟨name, value, blank, rfl⟩

theorem Padded.parse {text text' : List Char} {header : AuthHeader} (padded : Padded text text')
    (parsed : AuthHeader.parse (String.ofList text) = .ok header) :
    AuthHeader.parse (String.ofList text') = .ok header := by
  cases padded with
  | plain plain =>
      rw [parse_plain (by rwa [String.toList_ofList])] at parsed
      cases parsed
  | colon first start left right stop =>
      rw [parse_colon first] at parsed
      rw [parse_colon (by simp [start.no_colon, first, left.no_colon]), start.strip left,
        right.strip stop]
      split at parsed
      · cases parsed
      · rename_i named
        rw [if_neg named]
        exact parsed

section Named

variable {name : List Char}

theorem strip_no_colon (first : ':' ∉ name) : ':' ∉ strip name := by
  obtain ⟨before, after, -, -, split⟩ := strip_around name
  rw [split] at first
  simp only [List.mem_append, not_or] at first
  exact first.1.2

theorem canonical_strip (first : ':' ∉ name) (named : ¬ Blank name) (value : List Char) :
    Canonical ⟨String.ofList (strip name), String.ofList (strip value)⟩ where
  named := by
    intro empty
    have none : strip name = [] := by simpa using congrArg String.toList empty
    exact named (stripWhere_nil_iff.mp none)
  colonFree := by
    rw [String.toList_ofList]
    exact strip_no_colon first
  name := by
    rw [String.toList_ofList]
    exact stripped_stripWhere isBlank name
  value := by
    rw [String.toList_ofList]
    exact stripped_stripWhere isBlank value

theorem padded_strip (first : ':' ∉ name) (value : List Char) :
    Padded (strip name ++ ':' :: strip value) (name ++ ':' :: value) := by
  obtain ⟨before, after, start, left, split⟩ := strip_around name
  obtain ⟨before', after', right, stop, split'⟩ := strip_around value
  have padded : Padded (strip name ++ ':' :: strip value) _ :=
    .colon (strip_no_colon first) start left right stop
  rwa [← split, ← split'] at padded

theorem parse_strip (first : ':' ∉ name) (named : ¬ Blank name) (value : List Char) :
    parse (String.ofList (strip name) ++ ":" ++ String.ofList (strip value)) =
      .ok ⟨String.ofList (strip name), String.ofList (strip value)⟩ := by
  have joined : String.ofList (strip name) ++ ":" ++ String.ofList (strip value) =
      String.ofList (strip name ++ ':' :: strip value) := by
    apply String.toList_inj.mp
    simp
  rw [joined, parse_colon (strip_no_colon first), strip_idem, strip_idem,
    if_neg (strip_isEmpty.not.mpr named)]

end Named

/-- A text is refused just if it names no header. Any other text is read as the one canonical header
    that it is made of, which reads as itself, and so does every text that differs in blanks
    only. -/
theorem parse_canonical (text : String) :
    match parse text with
    | .error cause => cause.errorClass = .authorizationFormat ∧ Nameless text.toList
    | .ok header =>
      ¬ Nameless text.toList ∧ header.Canonical ∧
      Padded (header.name.toList ++ ':' :: header.value.toList) text.toList ∧
      parse (header.name ++ ":" ++ header.value) = .ok header ∧
      ∀ padded, Padded text.toList padded → parse (String.ofList padded) = .ok header := by
  obtain ⟨chars, rfl⟩ := text.exists_eq_ofList
  rw [String.toList_ofList]
  rcases plain_or_colon chars with plain | ⟨name, value, first, rfl⟩
  · rw [parse_plain (by rwa [String.toList_ofList])]
    exact ⟨rfl, Or.inl plain⟩
  · have parsed := parse_colon first value
    dsimp only at parsed
    by_cases blank : Blank name
    · rw [if_pos (strip_isEmpty.mpr blank)] at parsed
      rw [parsed]
      exact ⟨rfl, (nameless_colon first).mpr blank⟩
    · rw [if_neg (strip_isEmpty.not.mpr blank)] at parsed
      rw [parsed]
      refine ⟨(nameless_colon first).not.mpr blank, canonical_strip first blank value, ?_,
        parse_strip first blank value, fun padded inserted => inserted.parse parsed⟩
      simp only [String.toList_ofList]
      exact padded_strip first value

/-- Blanks of any script around both parts, and colons in the value. -/
theorem parse_canonical_spaced :
    parse "Name:a:b" = .ok ⟨"Name", "a:b"⟩ ∧
    parse "\t Name\u3000:\u00a0a:b\n" = .ok ⟨"Name", "a:b"⟩ := by
  have parsed : parse "Name:a:b" = .ok ⟨"Name", "a:b"⟩ := by rfl
  refine ⟨parsed, ?_⟩
  have canonical := parse_canonical "Name:a:b"
  rw [parsed] at canonical
  have start : Blank "\t ".toList := by decide
  have left : Blank "\u3000".toList := by decide
  have right : Blank "\u00a0".toList := by decide
  have stop : Blank "\n".toList := by decide
  have first : ':' ∉ "Name".toList := by decide
  exact canonical.2.2.2.2 _ (.colon first start left right stop)

end ChunkRelay.AuthHeader
