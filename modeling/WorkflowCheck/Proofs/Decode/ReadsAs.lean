import Mathlib.Tactic.SplitIfs
import WorkflowCheck.Decode.Record

/-!
# Two readers of one value

A value can be read as a record of more fields or as one of fewer.  `ReadsAs read read' f` says that what
`read` accepts is accepted by `read'`, which makes of it the image under `f`.  The relation goes through
lists, records and fields with defaults, so it has to be shown of the smallest parts only.
-/

namespace WorkflowCheck.Decode

variable {α β : Type}

/-! ### Results without a problem -/

namespace Checked

theorem map_eq_valid_iff {f : α → β} {x : Checked α} {b : β} :
    f <$> x = .valid b ↔ ∃ a, x = .valid a ∧ f a = b := by
  cases x with
  | valid a =>
    constructor
    · rintro ⟨⟩
      exact ⟨a, rfl, rfl⟩
    · rintro ⟨_, ⟨⟩, rfl⟩
      rfl
  | faulty ps => exact iff_of_false (fun h => nomatch h) fun ⟨_, h, _⟩ => nomatch h

theorem seq_eq_valid_iff {f : Checked (α → β)} {x : Checked α} {b : β} :
    f <*> x = .valid b ↔ ∃ g a, f = .valid g ∧ x = .valid a ∧ g a = b := by
  cases f with
  | valid g =>
    cases x with
    | valid a =>
      constructor
      · rintro ⟨⟩
        exact ⟨g, a, rfl, rfl, rfl⟩
      · rintro ⟨_, _, ⟨⟩, ⟨⟩, rfl⟩
        rfl
    | faulty ps => exact iff_of_false (fun h => nomatch h) fun ⟨_, _, _, h, _⟩ => nomatch h
  | faulty ps =>
    refine iff_of_false ?_ fun ⟨_, _, h, _⟩ => nomatch h
    cases x with
    | valid a => exact fun h => nomatch h
    | faulty qs => exact fun h => nomatch h

theorem under_eq_valid_iff {step : Step} {x : Checked α} {a : α} :
    x.under step = .valid a ↔ x = .valid a := by
  cases x with
  | valid b => exact Iff.rfl
  | faulty ps => exact iff_of_false (fun h => nomatch h) fun h => nomatch h

theorem places_cons_eq_valid_iff {read : β → Checked α} {i : Nat} {x : β} {xs : List β} {bs : List α} :
    places read i (x :: xs) = .valid bs ↔
      ∃ a as, read x = .valid a ∧ places read (i + 1) xs = .valid as ∧ a :: as = bs := by
  have hplaces : places read i (x :: xs) =
      (List.cons <$> (read x).under (.place i)) <*> places read (i + 1) xs := rfl
  rw [hplaces, seq_eq_valid_iff]
  constructor
  · rintro ⟨_, as, hcons, has, rfl⟩
    obtain ⟨a, ha, rfl⟩ := map_eq_valid_iff.mp hcons
    exact ⟨a, as, under_eq_valid_iff.mp ha, has, rfl⟩
  · rintro ⟨a, as, ha, has, rfl⟩
    exact ⟨_, as, map_eq_valid_iff.mpr ⟨a, under_eq_valid_iff.mpr ha, rfl⟩, has, rfl⟩

end Checked

namespace Checked

/-- Whatever is read has a property. -/
def Ensures (x : Checked α) (P : α → Prop) : Prop :=
  ∀ a, x = .valid a → P a

theorem Ensures.map {f : α → β} {x : Checked α} {P : β → Prop} (h : x.Ensures fun a => P (f a)) :
    (f <$> x).Ensures P := by
  intro b hb
  obtain ⟨a, ha, rfl⟩ := map_eq_valid_iff.mp hb
  exact h a ha

/-- A property of the whole for every last part. -/
theorem Ensures.seq {make : Checked (α → β)} {x : Checked α} {P : β → Prop}
    (h : make.Ensures fun m => ∀ a, P (m a)) : (make <*> x).Ensures P := by
  intro b hb
  obtain ⟨m, a, hm, -, rfl⟩ := seq_eq_valid_iff.mp hb
  exact h m hm a

/-- A property of the whole for every last part of a kind. -/
theorem Ensures.seq_of {make : Checked (α → β)} {x : Checked α} {P : β → Prop} {Q : α → Prop}
    (h : make.Ensures fun m => ∀ a, Q a → P (m a)) (hx : x.Ensures Q) : (make <*> x).Ensures P := by
  intro b hb
  obtain ⟨m, a, hm, ha, rfl⟩ := seq_eq_valid_iff.mp hb
  exact h m hm a (hx a ha)

/-- A property of what a further check lets through, from one of what it is given. -/
theorem Ensures.andThen {x : Checked α} {f : α → Checked β} {P : α → Prop} {Q : β → Prop} (hx : x.Ensures P)
    (hf : ∀ a, P a → (f a).Ensures Q) : (x.andThen f).Ensures Q := by
  intro b hb
  cases x with
  | valid a => exact hf a (hx a rfl) b hb
  | faulty ps => cases hb

theorem ensures_places {read : β → Checked α} {P : α → Prop} (h : ∀ x, (read x).Ensures P) :
    ∀ (i : Nat) (xs : List β), (places read i xs).Ensures fun as => ∀ a ∈ as, P a
  | _, [], as, has => by
    cases has
    exact fun _ ha => nomatch ha
  | i, x :: xs, _, has => by
    obtain ⟨a, as, ha, hrest, rfl⟩ := places_cons_eq_valid_iff.mp has
    exact List.forall_mem_cons.mpr ⟨h x a ha, ensures_places h (i + 1) xs as hrest⟩

end Checked

/-! ### Properties of what readers read -/

section Ensures

variable {read : Value → Checked α} {P : α → Prop} {n : FieldName} {v : Value}

theorem ensures_record {name : String} (h : (read v).Ensures P) :
    (Decode.record name read v).Ensures P := by
  unfold Decode.record
  split_ifs
  · exact h
  · exact fun _ ha => nomatch ha

theorem ensures_required (h : ∀ x, (read x).Ensures P) : (required v n read).Ensures P := by
  intro a ha
  unfold required at ha
  split at ha
  · exact h _ a (Checked.under_eq_valid_iff.mp ha)
  · cases ha

theorem ensures_withDefault {default : α} (h : ∀ x, (read x).Ensures P) (hdefault : P default) :
    (withDefault v n read default).Ensures P := by
  intro a ha
  unfold withDefault at ha
  split at ha
  · exact h _ a (Checked.under_eq_valid_iff.mp ha)
  · cases ha
    exact hdefault

theorem ensures_list (h : ∀ x, (read x).Ensures P) : (list read v).Ensures fun as => ∀ a ∈ as, P a := by
  unfold list
  split
  · exact Checked.ensures_places h 0 _
  · split_ifs
    · exact Checked.ensures_places h 0 _
    · exact fun _ ha => nomatch ha

end Ensures

/-! ### The relation -/

/-- What the first reader reads, the second one reads as its image. -/
def ReadsAs (read : Value → Checked α) (read' : Value → Checked β) (f : α → β) : Prop :=
  ∀ v, (read v).Ensures fun a => read' v = .valid (f a)

namespace ReadsAs

variable {read : Value → Checked α} {read' : Value → Checked β} {f : α → β}

theorem places (h : ReadsAs read read' f) :
    ∀ (i : Nat) (vs : List Value) (as : List α),
      Checked.places read i vs = .valid as → Checked.places read' i vs = .valid (as.map f)
  | _, [], as, has => by
    cases has
    rfl
  | i, v :: vs, _, has => by
    obtain ⟨a, as, ha, hrest, rfl⟩ := Checked.places_cons_eq_valid_iff.mp has
    exact Checked.places_cons_eq_valid_iff.mpr
      ⟨f a, as.map f, h v a ha, places h (i + 1) vs as hrest, rfl⟩

theorem list (h : ReadsAs read read' f) :
    ReadsAs (Decode.list read) (Decode.list read') (List.map f) := by
  intro v as has
  unfold Decode.list at has ⊢
  split at has
  · exact h.places 0 _ as has
  · split_ifs at has with harray
    · rw [if_pos harray]
      exact h.places 0 _ as has
    · cases has

theorem record {name name' : String} (h : ReadsAs read read' f) :
    ReadsAs (Decode.record name read) (Decode.record name' read') f := by
  intro v a ha
  unfold Decode.record at ha ⊢
  split_ifs at ha ⊢ with hobject
  · exact h v a ha
  · cases ha

theorem withDefault {n : FieldName} {a : α} (h : ReadsAs read read' f) :
    ReadsAs (fun v => Decode.withDefault v n read a) (fun v => Decode.withDefault v n read' (f a)) f := by
  intro v b hb
  dsimp only [Decode.withDefault] at hb ⊢
  cases hfound : n.find? v with
  | none =>
    rw [hfound] at hb
    cases hb
    rfl
  | some found =>
    rw [hfound] at hb
    exact Checked.under_eq_valid_iff.mpr (h _ b (Checked.under_eq_valid_iff.mp hb))

end ReadsAs

end WorkflowCheck.Decode
