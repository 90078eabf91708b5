import WorkflowCheck.Value.Basic

/-!
# Changes inside a value

`Value.mapField` changes what a field of an object holds, and `Value.mapItems` and `Value.mapIdxItems` change
the items of an array; a value of another kind stays as it is.  The kind of a value stays, and so do all other
fields.
-/

namespace WorkflowCheck

/-! ### One entry of a table -/

namespace Table

variable {κ α : Type} [DecidableEq κ] {k k' : κ} {f : α → α}

/-- The table with a function applied to what is under `k`. -/
def mapAt (k : κ) (f : α → α) (t : Table κ α) : Table κ α :=
  t.map fun e => if e.1 = k then (e.1, f e.2) else e

theorem get?_mapAt_self : ∀ t : Table κ α, (t.mapAt k f).get? k = (t.get? k).map f
  | [] => rfl
  | e :: t => by
    have ih : Table.get? k (mapAt k f t) = (Table.get? k t).map f := get?_mapAt_self t
    rw [mapAt] at ih ⊢
    by_cases h : e.1 = k
    · simp [get?, h]
    · simp [get?, h, ih]

theorem get?_mapAt_of_ne (h : k' ≠ k) : ∀ t : Table κ α, (t.mapAt k f).get? k' = t.get? k'
  | [] => rfl
  | e :: t => by
    have ih : Table.get? k' (mapAt k f t) = Table.get? k' t := get?_mapAt_of_ne h t
    rw [mapAt] at ih ⊢
    by_cases he : e.1 = k
    · simp [get?, he, h.symm, ih]
    · simp [get?, he, ih]

/-- Of the entries of some keys those keys are read as before, and the others are not there. -/
theorem get?_filter_keys (kept : κ → Bool) :
    ∀ t : Table κ α, Table.get? k (t.filter fun e => kept e.1) = if kept k then Table.get? k t else none
  | [] => (ite_self none).symm
  | e :: t => by
    have ih := get?_filter_keys kept t
    by_cases he : e.1 = k
    · subst he
      cases hkept : kept e.1 with
      | true => simp [get?, hkept]
      | false => simpa [hkept] using ih
    · cases hkept : kept e.1 with
      | true => simp [get?, hkept, he, ih]
      | false => simp [get?, hkept, he, ih]

end Table

namespace Value

variable {name other : String} {f : Value → Value} {v : Value}

/-! ### One field of an object -/

/-- The value with a function applied to what is in a field, if it is an object that has the field. -/
def mapField (name : String) (f : Value → Value) (v : Value) : Value :=
  match v.opened with
  | .obj fields => .obj (Table.mapAt (.str name) f fields)
  | _ => v

theorem get?_mapField_self : (v.mapField name f).get? name = (v.get? name).map f := by
  rw [get?, get?, mapField]
  cases hv : v.opened with
  | obj fields => exact Table.get?_mapAt_self fields
  | _ => simp only [hv, Option.map_none]

theorem get?_mapField_of_ne (h : other ≠ name) : (v.mapField name f).get? other = v.get? other := by
  rw [get?, get?, mapField]
  cases hv : v.opened with
  | obj fields =>
    refine Table.get?_mapAt_of_ne ?_ fields
    rintro ⟨⟩
    exact h rfl
  | _ => simp only [hv]

theorem field_mapField_self (hnull : f .null = .null) :
    (v.mapField name f).field name = f (v.field name) := by
  rw [field, field, get?_mapField_self]
  cases v.get? name with
  | none => exact hnull.symm
  | some x => rfl

theorem field_mapField_of_ne (h : other ≠ name) : (v.mapField name f).field other = v.field other := by
  rw [field, field, get?_mapField_of_ne h]

theorem isObject_mapField : (v.mapField name f).isObject = v.isObject := by
  rw [isObject, isObject, mapField]
  cases hv : v.opened with
  | obj fields => rfl
  | _ => simp only [hv]

theorem isNull_mapField : (v.mapField name f).isNull = v.isNull := by
  rw [mapField]
  cases hv : v.opened with
  | obj fields =>
    cases v with
    | null => cases hv
    | _ => rfl
  | _ => rfl

/-! ### The items of an array -/

/-- The value with a function applied to its items, if it is an array or a pair. -/
def mapItems (f : Value → Value) (v : Value) : Value :=
  match v.opened with
  | .arr xs => .arr (xs.map f)
  | .pair a b => .pair (f a) (f b)
  | _ => v

theorem items_mapItems : (v.mapItems f).items = v.items.map f := by
  rw [items, items, mapItems]
  cases hv : v.opened with
  | arr xs => rfl
  | pair a b => rfl
  | _ => simp only [hv, List.map_nil]

theorem isArray_mapItems : (v.mapItems f).isArray = v.isArray := by
  rw [isArray, isArray, mapItems]
  cases hv : v.opened with
  | arr xs => rfl
  | pair a b => rfl
  | _ => simp only [hv]

/-- The value with a function of their places applied to its items, if it is an array or a pair. -/
def mapIdxItems (f : Nat → Value → Value) (v : Value) : Value :=
  match v.opened with
  | .arr xs => .arr (xs.mapIdx f)
  | .pair a b => .pair (f 0 a) (f 1 b)
  | _ => v

theorem items_mapIdxItems {f : Nat → Value → Value} : (v.mapIdxItems f).items = v.items.mapIdx f := by
  rw [items, items, mapIdxItems]
  cases hv : v.opened with
  | arr xs => rfl
  | pair a b => rfl
  | _ => simp only [hv, List.mapIdx_nil]

theorem isArray_mapIdxItems {f : Nat → Value → Value} : (v.mapIdxItems f).isArray = v.isArray := by
  rw [isArray, isArray, mapIdxItems]
  cases hv : v.opened with
  | arr xs => rfl
  | pair a b => rfl
  | _ => simp only [hv]

end Value

end WorkflowCheck
