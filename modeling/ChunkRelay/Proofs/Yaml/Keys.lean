import ChunkRelay.Proofs.Data
import ChunkRelay.Yaml.Value
import Mathlib.Data.List.Forall2

/-! # The keys of a document

No mapping in the value of a document has a key twice. While a document is built, a node becomes a
scalar, which is no mapping, or a mapping whose entries are put in one by one. The values are then
read off the nodes, where a value that has been worked out before is taken as it was.
-/

namespace ChunkRelay

namespace Data

/-- What is neither a list nor a mapping. -/
def IsPlain : Data → Prop
  | list _ | map _ => False
  | _ => True

/-- No mapping inside a value has a key twice. -/
inductive Unambiguous : Data → Prop where
  | plain {d : Data} (isPlain : d.IsPlain) : Unambiguous d
  | list {items : List Data} (inside : ∀ item ∈ items, Unambiguous item) : Unambiguous (.list items)
  | map {entries : List (Data × Data)} (distinct : Distinct entries)
      (inside : ∀ entry ∈ entries, Unambiguous entry.2) : Unambiguous (.map entries)

end Data

namespace Yaml

open Data (Distinct Unambiguous)

/-! ## Scalars -/

namespace Scalar

/-- Whatever is read off a scalar is plain. -/
def ReadsPlain (x : Except Problem Data) : Prop := ∀ v, x = .ok v → v.IsPlain

variable {α : Type}

theorem ReadsPlain.ok {v : Data} (isPlain : v.IsPlain) : ReadsPlain (.ok v) := by
  rintro _ ⟨⟩
  exact isPlain

theorem ReadsPlain.error (problem : Problem) : ReadsPlain (.error problem) := nofun

theorem ReadsPlain.bind {x : Except Problem α} {f : α → Except Problem Data}
    (next : ∀ a, ReadsPlain (f a)) : ReadsPlain (x >>= f) := by
  cases x with
  | error problem => exact .error problem
  | ok a => exact next a

theorem bool_plain (text : List Char) : ReadsPlain (bool text) := by
  fun_cases bool text <;> first | exact .error _ | exact .ok trivial

theorem binary_plain (text : List Char) : ReadsPlain (binary text) := by
  rw [binary]
  split
  · exact .ok trivial
  · exact .error _

theorem timestamp_plain (text : List Char) : ReadsPlain (timestamp text) := by
  fun_cases timestamp text <;> first | exact .error _ | exact .ok trivial

theorem float_plain (mark : Nat) (text : List Char) : ReadsPlain (float mark text) := by
  refine .bind fun ⟨negative, body⟩ => ?_
  dsimp only
  split
  · exact .ok trivial
  · split
    · refine .bind fun magnitude => ?_
      split <;> exact .ok trivial
    · refine .bind fun parts => ?_
      split
      · refine .bind fun magnitude => ?_
        split <;> exact .ok trivial
      · split
        · refine .bind fun magnitude => ?_
          split <;> exact .ok trivial
        · exact .error _

theorem value_plain (mark : Nat) (tag : Tag) (text : RawText) :
    ReadsPlain (value mark tag text) := by
  cases tag with
  | null => exact .ok trivial
  | bool => exact bool_plain _
  | int =>
      rw [value]
      cases int text.softened with
      | error problem => exact .error problem
      | ok n => exact .ok trivial
  | float => exact float_plain mark _
  | binary => exact binary_plain _
  | timestamp => exact timestamp_plain _
  | text =>
      refine .ok ?_
      rw [Data.ofRawText]
      split <;> trivial
  | _ => exact .error _

end Scalar

/-! ## Building -/

/-- What a node may become: a value that is no collection, or a mapping without repeated keys. -/
def Made.Sound : Made → Prop
  | .value v => v.IsPlain
  | .collection (.map entries) => Distinct entries
  | .collection _ => True

/-- All nodes have become what they may. -/
def Building.Sound (b : Building) : Prop :=
  ∀ (id : NodeId) (made : Made), b.made[id]? = some (some made) → made.Sound

namespace Builder

/-- A step that leads from sound buildings to sound ones and returns what fits. -/
def Keeps {α : Type} (P : α → Prop) (x : Builder α) : Prop :=
  ∀ b, b.Sound → ∀ a b', x.run b = .ok (a, b') → b'.Sound ∧ P a

/-- A step that leads from sound buildings to sound ones. -/
abbrev Safe {α : Type} (x : Builder α) : Prop := Keeps (fun _ => True) x

namespace Keeps

variable {α β : Type} {P : α → Prop} {Q : β → Prop}

theorem pure {a : α} (fits : P a) : Keeps P (Pure.pure a : Builder α) := by
  rintro b sound _ _ ⟨⟩
  exact ⟨sound, fits⟩

theorem throw (problem : Problem) : Keeps P (MonadExcept.throw problem : Builder α) := by
  rintro b sound _ _ ⟨⟩

theorem bind {x : Builder α} {f : α → Builder β} (first : Keeps P x)
    (next : ∀ a, P a → Keeps Q (f a)) : Keeps Q (x >>= f) := by
  intro b sound c b' ran
  rw [StateT.run_bind] at ran
  cases begun : x.run b with
  | error problem =>
      rw [begun] at ran
      cases ran
  | ok reached =>
      rw [begun] at ran
      have ⟨still, fits⟩ := first b sound reached.1 reached.2 begun
      exact next reached.1 fits reached.2 still c b' ran

theorem get : Keeps Building.Sound (MonadState.get : Builder Building) := by
  rintro b sound _ _ ⟨⟩
  exact ⟨sound, sound⟩

theorem modify {f : Building → Building} (kept : ∀ b, b.Sound → (f b).Sound) :
    Safe (modify f : Builder PUnit) := by
  rintro b sound _ _ ⟨⟩
  exact ⟨kept b sound, trivial⟩

theorem aside {f : Building → Building} (same : ∀ b, (f b).made = b.made) :
    Safe (MonadState.modifyGet fun b => (PUnit.unit, f b)) :=
  modify fun b sound id made found => sound id made (same b ▸ found)

theorem forM {f : α → Builder PUnit} (each : ∀ a, Safe (f a)) (items : List α) :
    Safe (items.forM f) := by
  induction items with
  | nil => exact pure trivial
  | cons a items ih => exact (each a).bind fun _ _ => ih

theorem mapM {f : α → Builder β} (each : ∀ a, Safe (f a)) (items : List α) :
    Safe (items.mapM f) := by
  induction items with
  | nil => exact pure trivial
  | cons a items ih =>
      rw [List.mapM_cons]
      exact (each a).bind fun _ _ => ih.bind fun _ _ => pure trivial

theorem findM? {f : α → Builder Bool} (each : ∀ a, Safe (f a)) (items : List α) :
    Safe (items.findM? f) := by
  induction items with
  | nil => exact pure trivial
  | cons a items ih =>
      refine (each a).bind fun found _ => ?_
      cases found
      · exact ih
      · exact pure trivial

theorem foldlM {f : β → α → Builder β} (each : ∀ b a, Q b → Keeps Q (f b a)) (items : List α)
    {start : β} (fits : Q start) : Keeps Q (items.foldlM f start) := by
  induction items generalizing start with
  | nil => exact pure fits
  | cons a items ih =>
      rw [List.foldlM_cons]
      exact (each start a fits).bind fun _ => ih

end Keeps

theorem node_safe (id : NodeId) : Safe (node id) := by
  refine .bind .get fun b _ => ?_
  split
  · exact .pure trivial
  · exact .throw _

theorem change_safe (id : NodeId) (f : Node → Node) : Safe (change id f) :=
  .aside fun _ => rfl

theorem entriesOf_safe (id : NodeId) : Safe (entriesOf id) := by
  refine (node_safe id).bind fun n _ => ?_
  split
  · exact .pure trivial
  · exact .throw _

theorem itemsOf_safe (id : NodeId) : Safe (itemsOf id) := by
  refine (node_safe id).bind fun n _ => ?_
  split
  · exact .pure trivial
  · exact .throw _

theorem mergeFrom_safe (fuel : Nat) (id : NodeId) (index : Nat)
    (merged : List (NodeId × NodeId)) : Safe (mergeFrom id index merged fuel) := by
  induction fuel generalizing id index merged with
  | zero => exact .throw _
  | succ fuel ih =>
      rw [mergeFrom]
      have within : ∀ inner, Safe (do mergeFrom inner 0 [] fuel; entriesOf inner) :=
        fun inner => (ih inner 0 []).bind fun _ _ => entriesOf_safe inner
      refine (entriesOf_safe id).bind fun entries _ => ?_
      split
      · exact change_safe _ _
      · next key value _ =>
          refine (node_safe key).bind fun n _ => ?_
          split
          · refine (change_safe _ _).bind fun _ _ => (node_safe value).bind fun n _ => ?_
            split
            · exact (within _).bind fun _ _ => ih _ _ _
            · refine (Keeps.mapM (fun item => ?_) _).bind fun _ _ => ih _ _ _
              exact (entriesOf_safe item).bind fun _ _ => within item
            · exact .throw _
          · exact (change_safe _ _).bind fun _ _ => ih _ _ _
          · exact ih _ _ _

theorem make_safe (id : NodeId) {made : Made} (fits : made.Sound) : Safe (make id made) := by
  refine .modify fun b sound other made' found => ?_
  rw [Array.getElem?_setIfInBounds] at found
  split at found
  · split at found
    · cases found
      exact fits
    · cases found
  · exact sound other made' found

theorem makeEmpty_safe (id : NodeId) {contents : Contents}
    (fits : (Made.collection contents).Sound) : Safe (makeEmpty id contents) :=
  (make_safe id fits).bind fun _ _ => .aside fun _ => rfl

theorem scalarText_safe (fuel : Nat) (id : NodeId) : Safe (scalarText id fuel) := by
  induction fuel generalizing id with
  | zero => exact .throw _
  | succ fuel ih =>
      rw [scalarText]
      refine (node_safe id).bind fun n _ => ?_
      split
      · exact .pure trivial
      · exact .throw _
      · refine (Keeps.findM? (fun entry => ?_) _).bind fun found _ => ?_
        · exact (node_safe _).bind fun _ _ => .pure trivial
        · split
          · exact ih _
          · exact .throw _

theorem makeScalar_safe (id : NodeId) : Safe (makeScalar id) := by
  refine (node_safe id).bind fun n _ => .bind .get fun b _ =>
    (scalarText_safe _ id).bind fun text _ => ?_
  split
  · exact .throw _
  · split
    · next read => exact make_safe id (Scalar.value_plain _ _ _ _ read)
    · exact .throw _

theorem construct_safe (id : NodeId) : Safe (construct id) := by
  refine .bind .get fun b _ => ?_
  split
  · refine (node_safe id).bind fun n _ => ?_
    split
    · exact makeEmpty_safe id trivial
    · exact makeEmpty_safe id trivial
    · exact makeEmpty_safe id List.Pairwise.nil
    · exact makeEmpty_safe id trivial
    · exact .throw _
    · exact .throw _
    · exact .throw _
    all_goals exact makeScalar_safe id
  · exact .pure trivial

theorem key_safe (id : NodeId) : Safe (key id) := by
  refine (construct_safe id).bind fun _ _ => .bind .get fun b _ => ?_
  split
  · exact .pure trivial
  · exact .throw _

theorem mapping_distinct (id : NodeId) : Keeps Distinct (mapping id) := by
  -- Entries may come twice, also from merged mappings: they are put in one by one.
  refine (entriesOf_safe id).bind fun _ _ => (mergeFrom_safe _ id 0 []).bind fun _ _ =>
    (entriesOf_safe id).bind fun entries _ => ?_
  refine Keeps.foldlM (fun entries entry distinct => ?_) _ List.Pairwise.nil
  exact (key_safe _).bind fun _ _ => (construct_safe _).bind fun _ _ => .pure (distinct.insert _ _)

theorem pair_safe (id : NodeId) : Safe (pair id) := by
  refine (entriesOf_safe id).bind fun entries _ => ?_
  split
  · exact (construct_safe _).bind fun _ _ => (construct_safe _).bind fun _ _ => .pure trivial
  · exact .throw _

theorem fill_safe (id : NodeId) : Safe (fill id) := by
  refine (node_safe id).bind fun n _ => ?_
  dsimp only
  split
  · exact (itemsOf_safe id).bind fun items _ => (Keeps.mapM pair_safe items).bind fun _ _ =>
      make_safe id trivial
  · exact (mapping_distinct id).bind fun _ distinct => make_safe id distinct
  · exact (mapping_distinct id).bind fun _ _ => make_safe id trivial
  · exact (itemsOf_safe id).bind fun items _ => (Keeps.forM construct_safe items).bind fun _ _ =>
      make_safe id trivial

theorem fillAll_safe (levels : Nat) : Safe (fillAll levels) := by
  induction levels with
  | zero => exact .pure trivial
  | succ levels ih =>
      refine .bind .get fun b _ => ?_
      split
      · exact .pure trivial
      · refine (Keeps.aside ?_).bind fun _ _ => (Keeps.forM fill_safe _).bind fun _ _ => ih
        exact fun _ => rfl

end Builder

/-! ## Reading the values off -/

namespace Made

/-- All values that have been worked out are unambiguous. -/
def Known.Clear (known : Known) : Prop :=
  ∀ (id : NodeId) (data : Data), known[id]? = some (some data) → data.Unambiguous

/-- From clear values a step leads to clear values and returns what fits. -/
def Reads {α : Type} (P : α → Prop) (x : StateM Known α) : Prop :=
  ∀ known : Known, known.Clear → P (x.run known).1 ∧ (x.run known).2.Clear

theorem all_of_forall₂ {α β : Type} {Q : β → Prop} {as : List α} {bs : List β}
    (related : List.Forall₂ (fun _ b => Q b) as bs) : ∀ b ∈ bs, Q b := by
  induction related with
  | nil => nofun
  | cons fits _ ih => exact List.forall_mem_cons.mpr ⟨fits, ih⟩

theorem keys_of_forall₂ {α β : Type} {as : List (Data × α)} {bs : List (Data × β)}
    (related : List.Forall₂ (fun a b => b.1 = a.1) as bs) : bs.map (·.1) = as.map (·.1) := by
  induction related with
  | nil => rfl
  | cons same _ ih => rw [List.map_cons, List.map_cons, same, ih]

namespace Reads

variable {α β : Type} {P : α → Prop} {Q : β → Prop}

theorem pure {a : α} (fits : P a) : Reads P (Pure.pure a) := fun _ clear => ⟨fits, clear⟩

theorem bind {x : StateM Known α} {f : α → StateM Known β} (first : Reads P x)
    (next : ∀ a, P a → Reads Q (f a)) : Reads Q (x >>= f) :=
  fun known clear => next _ (first known clear).1 _ (first known clear).2

theorem get : Reads Known.Clear MonadState.get := fun _ clear => ⟨clear, clear⟩

theorem mapM {f : α → StateM Known β} {R : α → β → Prop} (each : ∀ a, Reads (R a) (f a))
    (items : List α) : Reads (List.Forall₂ R items) (items.mapM f) := by
  induction items with
  | nil => exact pure .nil
  | cons a items ih =>
      rw [List.mapM_cons]
      exact (each a).bind fun b related => ih.bind fun rest others => pure (.cons related others)

end Reads

theorem remember_reads (id : NodeId) {data : Data} (unambiguous : data.Unambiguous) :
    Reads Data.Unambiguous (do
      modify fun known : Known => known.setIfInBounds id (some data)
      pure data) := by
  refine fun known clear => ⟨unambiguous, fun other data' found => ?_⟩
  replace found : (known.setIfInBounds id (some data))[other]? = some (some data') := found
  rw [Array.getElem?_setIfInBounds] at found
  split at found
  · split at found
    · cases found
      exact unambiguous
    · cases found
  · exact clear other data' found

variable {made : Array (Option Made)}

theorem resolve_reads (sound : ∀ (id : NodeId) (m : Made), made[id]? = some (some m) → m.Sound)
    (fuel : Nat) (around : List NodeId) (id : NodeId) :
    Reads Data.Unambiguous (resolve made around id fuel) := by
  -- On the depth. A collection inside itself is cut off by a plain value, so cycles do no harm.
  induction fuel generalizing around id with
  | zero => exact .pure (.plain trivial)
  | succ fuel ih =>
      rw [resolve]
      refine .bind .get fun known clear => ?_
      split
      · next data found => exact .pure (clear id data found)
      · split
        · next data found => exact .pure (.plain (sound id _ found))
        · next contents found =>
            have fits := sound id _ found
            split
            · exact .pure (.plain trivial)
            · dsimp only
              have within : ∀ inner,
                  Reads Data.Unambiguous (resolve made (id :: around) inner fuel) :=
                ih (id :: around)
              split
              · refine (Reads.mapM within _).bind fun items inside => ?_
                exact .bind (.pure (.list (all_of_forall₂ inside))) fun _ => remember_reads id
              · refine (Reads.mapM (R := fun _ => Data.Unambiguous) (fun pair => ?_) _).bind
                  fun items inside => ?_
                · refine (within _).bind fun first clear => (within _).bind fun second clear' =>
                    .pure (.list ?_)
                  simp [clear, clear']
                · exact .bind (.pure (.list (all_of_forall₂ inside))) fun _ => remember_reads id
              · refine (Reads.mapM (R := fun entry (entry' : Data × Data) =>
                    entry'.1 = entry.1 ∧ entry'.2.Unambiguous) (fun entry => ?_) _).bind
                  fun entries inside => ?_
                · exact (within _).bind fun value clear => .pure ⟨rfl, clear⟩
                · refine .bind (.pure (.map ?_ ?_)) fun _ => remember_reads id
                  · exact Distinct.of_keys fits (keys_of_forall₂ (inside.imp fun _ _ => And.left))
                  · exact all_of_forall₂ (inside.imp fun _ _ => And.right)
              · exact .bind (.pure (.plain trivial)) fun _ => remember_reads id
        · exact .pure (.plain trivial)

end Made

theorem Document.value_unambiguous {document : Document} {d : Data}
    (built : document.value = .ok d) : d.Unambiguous := by
  have build_safe : Builder.Safe (do
      Builder.construct document.root
      Builder.fillAll (document.nodes.size + 1)) :=
    (Builder.construct_safe _).bind fun _ _ => Builder.fillAll_safe _
  have untouched :
      Building.Sound ⟨document.nodes, Array.replicate document.nodes.size none, []⟩ := by
    intro id made found
    rw [Array.getElem?_replicate] at found
    split at found <;> cases found
  rw [Document.value] at built
  dsimp only at built
  cases ran : StateT.run (do
      Builder.construct document.root
      Builder.fillAll (document.nodes.size + 1))
      (⟨document.nodes, Array.replicate document.nodes.size none, []⟩ : Building) with
  | error problem =>
      rw [ran] at built
      cases built
  | ok reached =>
      rw [ran] at built
      cases built
      have sound := (build_safe _ untouched reached.1 reached.2 ran).1
      refine (Made.resolve_reads sound _ _ _ _ fun id data found => ?_).1
      rw [Array.getElem?_replicate] at found
      split at found <;> cases found

/-- No mapping in a document has a key twice. -/
theorem parse_unambiguous {text : List Char} {d : Data} (parsed : parse text = .ok d) :
    d.Unambiguous := by
  rw [parse] at parsed
  split at parsed
  · cases read : Document.ofText? text with
    | error problem =>
        rw [read] at parsed
        cases parsed
    | ok document? =>
        rw [read] at parsed
        cases document? with
        | none =>
            cases parsed
            exact .plain trivial
        | some document => exact Document.value_unambiguous parsed
  · cases parsed

end Yaml

end ChunkRelay
