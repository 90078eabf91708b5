import Mathlib.Data.List.Basic
import WorkflowCheck.Graph.Snapshot

/-!
# What a field of a value holds

The rules read fields leniently: a field that is absent or of the wrong kind reads as none.
`Value.Names` says what it is for a field to read as some text, and the other predicates say the same
of numbers and truth values.
-/

namespace WorkflowCheck

namespace Value

/-- A field holds a text that is not empty. -/
def Names (v : Value) (field text : String) : Prop :=
  v.field field = .str text ∧ text ≠ ""

/-- A value is an integer or a floating number, and so no truth value. -/
def IsNumeric (v : Value) : Prop :=
  (∃ i, v = .int i) ∨ ∃ d, v = .float d

variable {v : Value} {name text : String}

theorem filledText?_eq_some_iff : v.filledText? = some text ↔ v = .str text ∧ text ≠ "" := by
  cases v with
  | str s =>
    rw [filledText?]
    by_cases h : s = ""
    · subst h
      simp
    · have hs : s.isEmpty = false := by
        rw [Bool.eq_false_iff, ne_eq, String.isEmpty_iff]
        exact h
      rw [hs, if_neg Bool.false_ne_true, Option.some.injEq, str.injEq]
      constructor
      · rintro rfl
        exact ⟨rfl, h⟩
      · exact And.left
  | _ => simp [filledText?]

theorem filledText?_str (h : text ≠ "") : (str text).filledText? = some text :=
  filledText?_eq_some_iff.mpr ⟨rfl, h⟩

theorem filledText?_field_iff : (v.field name).filledText? = some text ↔ v.Names name text :=
  filledText?_eq_some_iff

theorem isSome_filledText?_field : (v.field name).filledText?.isSome = true ↔ ∃ s, v.Names name s := by
  rw [Option.isSome_iff_exists]
  exact exists_congr fun s => filledText?_field_iff

theorem Names.unique {s t : String} (hs : v.Names name s) (ht : v.Names name t) : s = t := by
  have h := hs.1.symm.trans ht.1
  injection h

theorem text?_eq_some_iff : v.text? = some text ↔ v = .str text := by
  cases v <;> simp [text?]

theorem isNumber_iff : v.isNumber = true ↔ v.IsNumeric := by
  cases v <;> simp [isNumber, IsNumeric]

theorem isNull_iff : v.isNull = true ↔ v = .null := by
  cases v <;> simp [isNull]

/-- Only an object has fields that are not null. -/
theorem isObject_of_field_ne_null (h : v.field name ≠ .null) : v.isObject = true := by
  unfold field get? at h
  unfold isObject
  split at h
  · rfl
  · exact absurd rfl h

theorem Names.isObject (h : v.Names name text) : v.isObject = true := by
  apply isObject_of_field_ne_null
  rw [h.1]
  rintro ⟨⟩

theorem IsNumeric.isObject (h : (v.field name).IsNumeric) : v.isObject = true := by
  apply isObject_of_field_ne_null
  rcases h with ⟨i, hi⟩ | ⟨d, hd⟩
  · rw [hi]
    rintro ⟨⟩
  · rw [hd]
    rintro ⟨⟩

end Value

/-! ### Lists that are read with their places -/

theorem mem_readIndexed {α : Type} {read : Nat → Value → α} {vs : List Value} {a : α} :
    a ∈ readIndexed read vs ↔ ∃ i v, vs[i]? = some v ∧ a = read i v := by
  rw [readIndexed, List.mem_mapIdx]
  constructor
  · rintro ⟨i, hi, rfl⟩
    exact ⟨i, vs[i], List.getElem?_eq_getElem hi, rfl⟩
  · rintro ⟨i, v, hv, rfl⟩
    obtain ⟨hi, rfl⟩ := List.getElem?_eq_some_iff.mp hv
    exact ⟨i, hi, rfl⟩

theorem take_readIndexed {α : Type} (read : Nat → Value → α) (k : Nat) (vs : List Value) :
    (readIndexed read vs).take k = readIndexed read (vs.take k) :=
  List.ext_getElem (by simp [readIndexed]) fun i _ _ => by simp [readIndexed]

/-- What does not depend on the places can be read without them. -/
theorem map_readIndexed {α β : Type} {read : Nat → Value → α} {f : α → β} {g : Value → β}
    (h : ∀ i v, f (read i v) = g v) (vs : List Value) : (readIndexed read vs).map f = vs.map g := by
  refine List.ext_getElem (by simp [readIndexed]) fun i _ _ => ?_
  simp [readIndexed, h]

/-- Values made in two ways are read alike, up to a function, if each of them is. -/
theorem readIndexed_map_eq_map {α β : Type} {read : Nat → Value → α} {f g : β → Value} {h : α → α}
    (hread : ∀ i b, read i (f b) = h (read i (g b))) (bs : List β) :
    readIndexed read (bs.map f) = (readIndexed read (bs.map g)).map h := by
  refine List.ext_getElem (by simp [readIndexed]) fun i _ _ => ?_
  simp [readIndexed, hread]

theorem readIndexed_map_congr {α β : Type} {read : Nat → Value → α} {f g : β → Value}
    (h : ∀ i b, read i (f b) = read i (g b)) (bs : List β) :
    readIndexed read (bs.map f) = readIndexed read (bs.map g) :=
  (readIndexed_map_eq_map h bs).trans (List.map_id _)

/-- Values that are read alike, up to a function, at whatever place are read alike in lists. -/
theorem map_readIndexed_congr {α β : Type} {R : Value → Value → Prop} {f : α → β} {vs ws : List Value}
    (h : List.Forall₂ R vs ws) : ∀ (read : Nat → Value → α),
      (∀ i v w, R v w → f (read i v) = f (read i w)) →
        (readIndexed read vs).map f = (readIndexed read ws).map f := by
  induction h with
  | nil => exact fun _ _ => rfl
  | cons hvw _ ih =>
    intro read hread
    have hrest := ih (fun i => read (i + 1)) fun i v w => hread (i + 1) v w
    rw [readIndexed, readIndexed, List.mapIdx_cons, List.mapIdx_cons, List.map_cons, List.map_cons,
      hread 0 _ _ hvw]
    exact congrArg (_ :: ·) hrest

/-- What holds of all values that were made holds of what is read of them. -/
theorem forall_mem_readIndexed_map {α β : Type} {read : Nat → Value → α} {w : β → Value} {bs : List β}
    {P : α → Prop} (h : ∀ i, ∀ b ∈ bs, P (read i (w b))) : ∀ a ∈ readIndexed read (bs.map w), P a := by
  intro a ha
  obtain ⟨i, v, hv, rfl⟩ := mem_readIndexed.mp ha
  obtain ⟨b, hb, rfl⟩ := List.mem_map.mp (List.mem_of_getElem? hv)
  exact h i b hb

/-- What is collected from values that are read does not depend on their places if it does for none. -/
theorem flatMap_readIndexed {α β γ : Type} {w : β → Value} {f : α → List γ} {g : β → List γ} :
    ∀ {read : Nat → Value → α} (bs : List β), (∀ i, ∀ b ∈ bs, f (read i (w b)) = g b) →
      (readIndexed read (bs.map w)).flatMap f = bs.flatMap g
  | _, [], _ => rfl
  | read, b :: bs, h => by
    have hrest : (readIndexed (fun i => read (i + 1)) (bs.map w)).flatMap f = bs.flatMap g :=
      flatMap_readIndexed bs fun i b' hb' => h (i + 1) b' (List.mem_cons_of_mem b hb')
    rw [readIndexed, List.map_cons, List.mapIdx_cons, List.flatMap_cons, List.flatMap_cons,
      h 0 b List.mem_cons_self]
    exact congrArg (g b ++ ·) hrest

/-- What holds of all that is read is what holds of all values at their places. -/
theorem forall_mem_readIndexed {α : Type} {read : Nat → Value → α} {vs : List Value} {P : α → Prop}
    {Q : Value → Prop} (h : ∀ i, ∀ v ∈ vs, P (read i v) ↔ Q v) :
    (∀ a ∈ readIndexed read vs, P a) ↔ ∀ v ∈ vs, Q v := by
  constructor
  · intro hall v hv
    obtain ⟨i, hi⟩ := List.mem_iff_getElem?.mp hv
    exact (h i v hv).mp (hall _ (mem_readIndexed.mpr ⟨i, v, hi, rfl⟩))
  · intro hall a ha
    obtain ⟨i, v, hi, rfl⟩ := mem_readIndexed.mp ha
    have hv : v ∈ vs := List.mem_of_getElem? hi
    exact (h i v hv).mpr (hall v hv)

theorem exists_mem_readIndexed {α : Type} {read : Nat → Value → α} {vs : List Value} {P : α → Prop}
    {Q : Value → Prop} (h : ∀ i v, P (read i v) ↔ Q v) :
    (∃ a ∈ readIndexed read vs, P a) ↔ ∃ v ∈ vs, Q v := by
  have hnot : (∀ a ∈ readIndexed read vs, ¬ P a) ↔ ∀ v ∈ vs, ¬ Q v :=
    forall_mem_readIndexed fun i v _ => not_congr (h i v)
  rw [← not_iff_not]
  push Not
  exact hnot

/-- The first of what is read that passes a test is read from the first value that does. -/
theorem exists_find?_readIndexed {α : Type} {p : α → Bool} {q : Value → Bool} {P : α → Prop}
    {Q : Value → Prop} :
    ∀ {read : Nat → Value → α} (vs : List Value), (∀ i v, p (read i v) = q v) →
      (∀ i v, P (read i v) ↔ Q v) →
      ((∃ a, (readIndexed read vs).find? p = some a ∧ P a) ↔ ∃ v, vs.find? q = some v ∧ Q v)
  | _, [], _, _ => by simp [readIndexed]
  | read, v :: vs, hp, hP => by
    rw [readIndexed, List.mapIdx_cons, List.find?_cons, List.find?_cons, hp]
    cases q v with
    | true => simp [hP]
    | false => exact exists_find?_readIndexed vs (fun i v => hp (i + 1) v) fun i v => hP (i + 1) v

theorem pairwise_readIndexed {α : Type} {R : α → α → Prop} {S : Value → Value → Prop} :
    ∀ {read : Nat → Value → α} (vs : List Value), (∀ i j v w, R (read i v) (read j w) ↔ S v w) →
      ((readIndexed read vs).Pairwise R ↔ vs.Pairwise S)
  | _, [], _ => by simp [readIndexed]
  | read, v :: vs, h => by
    have hrest : (readIndexed (fun i => read (i + 1)) vs).Pairwise R ↔ vs.Pairwise S :=
      pairwise_readIndexed vs fun i j => h (i + 1) (j + 1)
    have hfirst : (∀ a ∈ readIndexed (fun i => read (i + 1)) vs, R (read 0 v) a) ↔ ∀ w ∈ vs, S v w :=
      forall_mem_readIndexed fun i w _ => h 0 (i + 1) v w
    rw [readIndexed, List.mapIdx_cons, List.pairwise_cons, List.pairwise_cons]
    exact and_congr hfirst hrest

end WorkflowCheck
