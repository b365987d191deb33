import ChunkRelay.Data.Order

/-! # Entries by their keys

Values that hold the same are equal. A text is the same key as itself and as nothing else. In a
mapping without repeated keys an entry with a text as its key is found under that text, and setting
it changes nothing else.

A value alone is in order. More values can be put in order if any two of them have one, and that
adds no other values.
-/

namespace ChunkRelay.Data

variable {α : Type} {key other t : String} {a : Data}

/-! ## Equality -/

mutual
theorem eq_of_same {a b : Data} (alike : a.same b = true) : a = b := by
  cases a with
  | list items =>
      cases b with
      | list others =>
          have alike : sameItems items others = true := alike
          rw [eq_of_sameItems alike]
      | _ => cases alike
  | set items =>
      cases b with
      | set others =>
          have alike : sameItems items others = true := alike
          rw [eq_of_sameItems alike]
      | _ => cases alike
  | map entries =>
      cases b with
      | map others =>
          have alike : sameEntries entries others = true := alike
          rw [eq_of_sameEntries alike]
      | _ => cases alike
  | _ => cases b <;> first | cases alike; done | simp_all [same]
termination_by structural a

theorem eq_of_sameItems {as bs : List Data} (alike : sameItems as bs = true) : as = bs := by
  cases as with
  | nil => cases bs <;> first | rfl | cases alike
  | cons a as =>
      cases bs with
      | nil => cases alike
      | cons b bs =>
          obtain ⟨first, rest⟩ := Bool.and_eq_true_iff.mp alike
          rw [eq_of_same first, eq_of_sameItems rest]
termination_by structural as

theorem eq_of_sameEntries {as bs : List (Data × Data)} (alike : sameEntries as bs = true) :
    as = bs := by
  cases as with
  | nil => cases bs <;> first | rfl | cases alike
  | cons entry as =>
      cases bs with
      | nil => cases alike
      | cons other bs =>
          obtain ⟨both, rest⟩ := Bool.and_eq_true_iff.mp alike
          obtain ⟨key, value⟩ := Bool.and_eq_true_iff.mp both
          rw [Prod.ext (eq_of_same key) (eq_of_same value), eq_of_sameEntries rest]
termination_by structural as
end

@[simp] theorem beq_text : (a == text t) = true ↔ a = text t := by
  refine ⟨eq_of_same, fun same_text => ?_⟩
  rw [same_text]
  simp [BEq.beq, same]

theorem sameKey_text : sameKey a (text t) = true ↔ a = text t := by
  cases a with
  | text => exact beq_text
  | _ => simp [sameKey, quantity?]

/-- No key stands twice in a mapping. -/
def Distinct (entries : List (Data × α)) : Prop :=
  (entries.map (·.1)).Pairwise fun a b => sameKey a b = false

theorem Distinct.of_keys {β : Type} {as : List (Data × α)} {bs : List (Data × β)}
    (distinct : Distinct as) (same : bs.map (·.1) = as.map (·.1)) : Distinct bs := by
  rwa [Distinct, same]

section Insert

variable {entries : List (Data × α)}

theorem insert_keys (k : Data) (value : α) (entries : List (Data × α)) :
    (insert k value entries).map (·.1) =
      if entries.any (sameKey ·.1 k) then entries.map (·.1) else entries.map (·.1) ++ [k] := by
  induction entries with
  | nil => rfl
  | cons entry rest ih =>
      obtain ⟨k', v⟩ := entry
      rw [insert]
      by_cases same : sameKey k' k = true
      · simp [same]
      · rw [if_neg same, List.map_cons, ih, List.any_cons, Bool.eq_false_iff.mpr same,
          Bool.false_or]
        split <;> rfl

theorem Distinct.insert (distinct : Distinct entries) (k : Data) (value : α) :
    Distinct (insert k value entries) := by
  rw [Distinct, insert_keys]
  split
  · exact distinct
  · next fresh =>
      refine List.pairwise_append.mpr ⟨distinct, List.pairwise_singleton _ _, ?_⟩
      rintro k' member _ (_ | ⟨_, ⟨⟩⟩)
      obtain ⟨entry, listed, rfl⟩ := List.mem_map.mp member
      rw [List.any_eq_true, not_exists] at fresh
      exact Bool.eq_false_iff.mpr fun same => fresh entry ⟨listed, same⟩

end Insert

section Lookup

variable {entries : List (Data × Data)} {value v : Data}

theorem lookup?_cons (key : String) (entry : Data × Data) (rest : List (Data × Data)) :
    lookup? key (entry :: rest) =
      (lookup? key rest).or (if entry.1 == text key then some entry.2 else none) := by
  rw [lookup?, List.reverse_cons, List.find?_append, Option.map_or, lookup?]
  cases same : entry.1 == text key <;> simp [same]

theorem lookup?_mem (found : lookup? key entries = some v) : (text key, v) ∈ entries := by
  induction entries with
  | nil => cases found
  | cons entry rest ih =>
      rw [lookup?_cons, Option.or_eq_some_iff] at found
      rcases found with later | ⟨_, here⟩
      · exact List.mem_cons_of_mem _ (ih later)
      · split at here
        · next same =>
            obtain ⟨k, v'⟩ := entry
            cases here
            obtain rfl : k = text key := beq_text.mp same
            exact List.mem_cons_self
        · cases here

theorem lookup?_of_mem (distinct : Distinct entries) (member : (text key, v) ∈ entries) :
    lookup? key entries = some v := by
  induction entries with
  | nil => cases member
  | cons entry rest ih =>
      rw [Distinct, List.map_cons, List.pairwise_cons] at distinct
      rw [lookup?_cons]
      rcases List.mem_cons.mp member with rfl | later
      · have absent : lookup? key rest = none := by
          refine Option.eq_none_iff_forall_ne_some.mpr fun v' found => ?_
          have apart := distinct.1 _ (List.mem_map_of_mem (lookup?_mem found))
          rw [sameKey_text.mpr rfl] at apart
          cases apart
        rw [absent, Option.none_or, if_pos (beq_text.mpr rfl)]
      · rw [ih distinct.2 later, Option.some_or]

theorem lookup?_eq_none :
    lookup? key entries = none ↔ text key ∉ entries.map (·.1) := by
  induction entries with
  | nil => exact iff_of_true rfl List.not_mem_nil
  | cons entry rest ih =>
      rw [lookup?_cons, Option.or_eq_none_iff, ih, List.map_cons, List.mem_cons, not_or, and_comm]
      refine and_congr_left fun _ => ?_
      by_cases same : entry.1 = text key
      · simp [same]
      · simp [same, Ne.symm same]

theorem lookup?_insert_other (apart : other ≠ key) (value : Data) (entries : List (Data × Data)) :
    lookup? other (insert (text key) value entries) = lookup? other entries := by
  induction entries with
  | nil =>
      have differs : ¬(text key == text other) = true := by simpa using Ne.symm apart
      rw [insert, lookup?_cons, if_neg differs, Option.or_none]
  | cons entry rest ih =>
      obtain ⟨k, v⟩ := entry
      rw [insert]
      by_cases same : sameKey k (text key) = true
      · rw [if_pos same, lookup?_cons, lookup?_cons]
        have differs : ¬(k == text other) = true := by
          rw [sameKey_text.mp same]
          simpa using Ne.symm apart
        rw [if_neg differs, if_neg differs]
      · rw [if_neg same, lookup?_cons, lookup?_cons, ih]

theorem lookup?_insert_same (distinct : Distinct entries) (key : String) (value : Data) :
    lookup? key (insert (text key) value entries) = some value := by
  apply lookup?_of_mem (distinct.insert _ _)
  -- It is there whether or not the keys are distinct.
  clear distinct
  induction entries with
  | nil => exact List.mem_cons_self
  | cons entry rest ih =>
      obtain ⟨k, v⟩ := entry
      rw [insert]
      by_cases same : sameKey k (text key) = true
      · rw [if_pos same, sameKey_text.mp same]
        exact List.mem_cons_self
      · rw [if_neg same]
        exact List.mem_cons_of_mem _ ih

theorem insert_keys_found (found : lookup? key entries = some v) (value : Data) :
    (insert (text key) value entries).map (·.1) = entries.map (·.1) := by
  have present : entries.any (sameKey ·.1 (text key)) = true :=
    List.any_eq_true.mpr ⟨_, lookup?_mem found, sameKey_text.mpr rfl⟩
  rw [insert_keys, if_pos present]

end Lookup

/-! ## Order -/

section Order

/-- Any two of some values come one before the other or are alike. -/
def Comparable (values : List Data) : Prop :=
  ∀ a ∈ values, ∀ b ∈ values, (precedes? a b).isSome = true

variable {values pool : List Data} {ordered : Array Data} {x : Data}

theorem orderedRun_within (order : Comparable pool) (falls : Bool) {run : List Data}
    (run_within : run ⊆ pool) (within : values ⊆ pool) :
    ∃ run' rest, orderedRun falls run values = some (run', rest) ∧ run' ⊆ pool ∧ rest ⊆ pool := by
  -- The run so far stays in the pool with what is left, so its last value compares with the next.
  induction values generalizing run with
  | nil => exact ⟨run, [], rfl, run_within, within⟩
  | cons x values ih =>
      have ⟨x_within, rest_within⟩ := List.cons_subset.mp within
      rw [orderedRun.eq_def]
      cases run with
      | nil => exact ih (List.cons_subset.mpr ⟨x_within, run_within⟩) rest_within
      | cons last run =>
          obtain ⟨before, compared⟩ := Option.isSome_iff_exists.mp
            (order x x_within last (run_within List.mem_cons_self))
          simp only [compared]
          split
          · exact ih (List.cons_subset.mpr ⟨x_within, run_within⟩) rest_within
          · exact ⟨_, _, rfl, run_within, within⟩

theorem placeOf_isSome (order : Comparable pool) (x_within : x ∈ pool)
    (within : ordered.toList ⊆ pool) (low : Nat) {high : Nat} (inside : high ≤ ordered.size)
    (fuel : Nat) : (placeOf x ordered low high fuel).isSome = true := by
  induction fuel generalizing low high with
  | zero => rfl
  | succ fuel ih =>
      rw [placeOf]
      split
      · next span =>
          have bound : low + (high - low) / 2 < ordered.size := by omega
          have member := within (Array.getElem_mem_toList bound)
          obtain ⟨before, compared⟩ := Option.isSome_iff_exists.mp (order x x_within _ member)
          simp only [Array.getElem?_eq_getElem bound, Option.bind_some, compared]
          cases before
          · exact ih _ inside
          · exact ih _ (by omega)
      · rfl

theorem insertAll_within (order : Comparable pool) (ordered_within : ordered.toList ⊆ pool)
    (within : values ⊆ pool) :
    ∃ all, insertAll ordered values = some all ∧ all.toList ⊆ pool := by
  induction values generalizing ordered with
  | nil => exact ⟨ordered, rfl, ordered_within⟩
  | cons x values ih =>
      have ⟨x_within, rest_within⟩ := List.cons_subset.mp within
      obtain ⟨place, found⟩ := Option.isSome_iff_exists.mp
        (placeOf_isSome order x_within ordered_within 0 (Nat.le_refl _) (ordered.size + 1))
      rw [insertAll, found]
      refine ih (fun a member => ?_) rest_within
      rw [Array.insertIdxIfInBounds] at member
      split at member
      · next bound =>
          rw [Array.toList_insertIdx, List.mem_insertIdx bound] at member
          rcases member with rfl | member
          · exact x_within
          · exact ordered_within member
      · exact ordered_within member

theorem sorted?_within (order : values.length ≤ 1 ∨ Comparable values) :
    ∃ sorted, sorted? values = some sorted ∧ sorted ⊆ values := by
  rw [sorted?.eq_def]
  split
  · next x y rest =>
      replace order := order.resolve_left (by simp)
      obtain ⟨falls, compared⟩ := Option.isSome_iff_exists.mp (order y (by simp) x (by simp))
      obtain ⟨run, rest', ran, run_within, rest_within⟩ :=
        orderedRun_within order falls (List.nil_subset _) (List.Subset.refl _)
      have start_within :
          ((if falls then run else run.reverse).toArray).toList ⊆ x :: y :: rest := by
        cases falls
        · exact List.reverse_subset.mpr run_within
        · exact run_within
      obtain ⟨all, inserted, all_within⟩ := insertAll_within order start_within rest_within
      refine ⟨all.toList, ?_, all_within⟩
      rw [compared, Option.bind_eq_bind, Option.bind_some, ran, Option.bind_eq_bind,
        Option.bind_some]
      dsimp only
      rw [inserted]
      rfl
  · exact ⟨values, rfl, List.Subset.refl _⟩

end Order

end ChunkRelay.Data
