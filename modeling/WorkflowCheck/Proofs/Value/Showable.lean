import WorkflowCheck.Value.Display

/-!
# Values that cannot be shown

`Value.HoldsLong` says where an integer of too many digits may stand in a value: at the top, or as an
item, a key, a member or a half of what the value holds, at any depth.  A value is shown exactly if it
holds none.
-/

namespace WorkflowCheck

/-- An integer of more digits than are shown. -/
def IsLong (i : Int) : Prop :=
  Double.tenTo shownDigits ≤ i.natAbs

namespace Value

/-- A value holds an integer of too many digits. -/
inductive HoldsLong : Value → Prop
  | int {i : Int} : IsLong i → HoldsLong (.int i)
  | item {xs : List Value} {x : Value} : x ∈ xs → HoldsLong x → HoldsLong (.arr xs)
  | key {fields : List (Key × Value)} {i : Int} {x : Value} :
      (.int i, x) ∈ fields → IsLong i → HoldsLong (.obj fields)
  | field {fields : List (Key × Value)} {k : Key} {x : Value} :
      (k, x) ∈ fields → HoldsLong x → HoldsLong (.obj fields)
  | member {members : List Key} {i : Int} : .int i ∈ members → IsLong i → HoldsLong (.set members)
  | first {a b : Value} : HoldsLong a → HoldsLong (.pair a b)
  | second {a b : Value} : HoldsLong b → HoldsLong (.pair a b)
  | body {mark : Nat} {body : Value} : HoldsLong body → HoldsLong (.loop mark body)

theorem isShowableInt_eq_false_iff {i : Int} : isShowableInt i = false ↔ IsLong i := by
  rw [isShowableInt, decide_eq_false_iff_not, Nat.not_lt, IsLong]

theorem isShowable_key_eq_false_iff {k : Key} :
    k.isShowable = false ↔ ∃ i, k = .int i ∧ IsLong i := by
  cases k with
  | int i =>
    refine isShowableInt_eq_false_iff.trans ⟨fun h => ⟨i, rfl, h⟩, ?_⟩
    rintro ⟨_, ⟨⟩, h⟩
    exact h
  | _ => exact iff_of_false Bool.noConfusion fun ⟨_, h, _⟩ => nomatch h

mutual

theorem isShowable_eq_false_iff : ∀ v : Value, v.isShowable = false ↔ v.HoldsLong
  | .int i => by
    refine isShowableInt_eq_false_iff.trans ⟨.int, ?_⟩
    rintro ⟨h⟩
    exact h
  | .arr xs => by
    refine (itemsShowable_eq_false_iff xs).trans ⟨fun ⟨x, hx, hlong⟩ => .item hx hlong, fun h => ?_⟩
    cases h with
    | item hx hlong => exact ⟨_, hx, hlong⟩
  | .obj fields => by
    refine (fieldsShowable_eq_false_iff fields).trans ⟨?_, fun h => ?_⟩
    · rintro ⟨k, x, hmem, ⟨i, rfl, hlong⟩ | hlong⟩
      · exact .key hmem hlong
      · exact .field hmem hlong
    · cases h with
      | key hmem hlong => exact ⟨_, _, hmem, Or.inl ⟨_, rfl, hlong⟩⟩
      | field hmem hlong => exact ⟨_, _, hmem, Or.inr hlong⟩
  | .set members => by
    rw [isShowable, List.all_eq_false]
    constructor
    · rintro ⟨k, hk, hnot⟩
      obtain ⟨i, rfl, hlong⟩ := isShowable_key_eq_false_iff.mp (Bool.eq_false_iff.mpr hnot)
      exact .member hk hlong
    · intro h
      cases h with
      | member hk hlong =>
        exact ⟨_, hk, Bool.eq_false_iff.mp (isShowable_key_eq_false_iff.mpr ⟨_, rfl, hlong⟩)⟩
  | .pair a b => by
    rw [isShowable, Bool.and_eq_false_iff, isShowable_eq_false_iff a, isShowable_eq_false_iff b]
    constructor
    · rintro (h | h)
      · exact .first h
      · exact .second h
    · intro h
      cases h with
      | first h => exact Or.inl h
      | second h => exact Or.inr h
  | .loop mark body => by
    refine (isShowable_eq_false_iff body).trans ⟨.body, fun h => ?_⟩
    cases h with
    | body h => exact h
  | .null | .bool _ | .float _ | .str _ | .moment _ | .bytes _ | .again _ =>
    iff_of_false Bool.noConfusion fun h => nomatch h

theorem itemsShowable_eq_false_iff :
    ∀ xs : List Value, itemsShowable xs = false ↔ ∃ x ∈ xs, x.HoldsLong
  | [] => by simp [itemsShowable]
  | x :: xs => by
    rw [itemsShowable, Bool.and_eq_false_iff, isShowable_eq_false_iff x, itemsShowable_eq_false_iff xs]
    simp

theorem fieldsShowable_eq_false_iff :
    ∀ fields : List (Key × Value), fieldsShowable fields = false ↔
      ∃ k x, (k, x) ∈ fields ∧ ((∃ i, k = .int i ∧ IsLong i) ∨ x.HoldsLong)
  | [] => by simp [fieldsShowable]
  | (k, x) :: fields => by
    rw [fieldsShowable, Bool.and_eq_false_iff, Bool.and_eq_false_iff, isShowable_key_eq_false_iff,
      isShowable_eq_false_iff x, fieldsShowable_eq_false_iff fields]
    constructor
    · rintro (h | ⟨k', x', hmem, h⟩)
      · exact ⟨k, x, List.mem_cons_self, h⟩
      · exact ⟨k', x', List.mem_cons_of_mem _ hmem, h⟩
    · rintro ⟨k', x', hmem, h⟩
      rcases List.mem_cons.mp hmem with heq | hmem
      · cases heq
        exact Or.inl h
      · exact Or.inr ⟨k', x', hmem, h⟩

end

/-! ### What a value with a long integer is not -/

theorem tenTo_pos (n : Nat) : 0 < Double.tenTo n :=
  Nat.pow_pos (by decide)

theorem HoldsLong.text?_eq_none {v : Value} (h : v.HoldsLong) : v.text? = none := by
  cases h <;> rfl

theorem HoldsLong.isNull_eq_false {v : Value} (h : v.HoldsLong) : v.isNull = false := by
  cases h <;> rfl

/-- What holds an integer, and one that is not zero, is not void. -/
theorem HoldsLong.isVoid_eq_false {v : Value} (h : v.HoldsLong) : v.isVoid = false := by
  cases h with
  | int hlong =>
    rw [isVoid, beq_eq_false_iff_ne]
    rintro rfl
    exact absurd hlong (Nat.not_le_of_lt (tenTo_pos _))
  | item hx _ => exact List.isEmpty_eq_false_iff_exists_mem.mpr ⟨_, hx⟩
  | key hmem _ => exact List.isEmpty_eq_false_iff_exists_mem.mpr ⟨_, hmem⟩
  | field hmem _ => exact List.isEmpty_eq_false_iff_exists_mem.mpr ⟨_, hmem⟩
  | member hmem _ => exact List.isEmpty_eq_false_iff_exists_mem.mpr ⟨_, hmem⟩
  | _ => rfl

end Value

end WorkflowCheck
