/-!
# Ordered tables

Finite maps that remember the order in which their keys first came: lists of pairs, read at the
first pair of a key.  Every change goes through `alter`, which works on the entry of one key in its
place, or adds the entry at the end when there is none.
-/

namespace WorkflowCheck

/-- A finite map in order of first insertion. -/
abbrev Table (κ α : Type) := List (κ × α)

namespace Table

variable {κ α : Type} [DecidableEq κ]

/-- The entry of a key. -/
def get? (k : κ) : Table κ α → Option α
  | [] => none
  | (k', a) :: t => if k' = k then some a else get? k t

/-- The keys in order. -/
def keys (t : Table κ α) : List κ :=
  t.map (·.1)

/-- The table with the entry of `k` replaced by `f` of the old one; a new key goes to the end. -/
def alter (k : κ) (f : Option α → α) : Table κ α → Table κ α
  | [] => [(k, f none)]
  | (k', a) :: t => if k' = k then (k', f (some a)) :: t else (k', a) :: alter k f t

/-- The table with `a` as the entry of `k`. -/
def put (k : κ) (a : α) (t : Table κ α) : Table κ α :=
  t.alter k fun _ => a

/-- The table with `a` as the entry of `k` unless `k` has one. -/
def putNew (k : κ) (a : α) (t : Table κ α) : Table κ α :=
  t.alter k fun old => old.getD a

/-- The table of lists with `a` added at the end of the list of `k`. -/
def push (k : κ) (a : α) (t : Table κ (List α)) : Table κ (List α) :=
  t.alter k fun old => old.getD [] ++ [a]

/-- The table of counts with the count of `k` one higher. -/
def count (k : κ) (t : Table κ Nat) : Table κ Nat :=
  t.alter k fun old => old.getD 0 + 1

/-! ### Reading after a change -/

/-- A change works on the entry of its own key. -/
@[simp] theorem get?_alter_self (k : κ) (f : Option α → α) (t : Table κ α) :
    (t.alter k f).get? k = some (f (t.get? k)) := by
  induction t with
  | nil => simp [alter, get?]
  | cons e t ih =>
    by_cases h : e.1 = k
    · simp [alter, get?, h]
    · simp [alter, get?, h, ih]

/-- A change leaves the entries of all other keys. -/
theorem get?_alter_of_ne {k k' : κ} (h : k ≠ k') (f : Option α → α) (t : Table κ α) :
    (t.alter k f).get? k' = t.get? k' := by
  induction t with
  | nil => simp [alter, get?, h]
  | cons e t ih =>
    by_cases hk : e.1 = k
    · have hne : e.1 ≠ k' := fun he => h (hk ▸ he)
      simp [alter, get?, hk, h]
    · simp only [alter, hk, if_false, get?, ih]

/-- A change keeps the keys, and adds its own at the end when it is new. -/
theorem keys_alter (k : κ) (f : Option α → α) (t : Table κ α) :
    (t.alter k f).keys = if k ∈ t.keys then t.keys else t.keys ++ [k] := by
  induction t with
  | nil => simp [alter, keys]
  | cons e t ih =>
    by_cases h : e.1 = k
    · simp [alter, keys, h]
    · have h' : ¬ k = e.1 := fun he => h he.symm
      simp only [keys] at ih
      by_cases hm : k ∈ t.map (·.1) <;> simp [alter, keys, h, h', ih, hm]

/-- A change leaves no key twice. -/
theorem nodup_keys_alter {k : κ} {f : Option α → α} {t : Table κ α} (h : t.keys.Nodup) :
    (t.alter k f).keys.Nodup := by
  rw [keys_alter]
  split
  case isTrue => exact h
  case isFalse hnew => exact List.nodup_append.mpr ⟨h, List.pairwise_singleton _ k, fun _ hk _ hk' heq =>
      hnew (List.mem_singleton.mp hk' ▸ heq ▸ hk)⟩

/-- A change of a new key adds its entry at the end. -/
theorem alter_of_not_mem {k : κ} {t : Table κ α} (h : k ∉ t.keys) (f : Option α → α) :
    t.alter k f = t ++ [(k, f none)] := by
  induction t with
  | nil => rfl
  | cons e t ih =>
    have hne : e.1 ≠ k := fun he => h (List.mem_cons.mpr (Or.inl he.symm))
    rw [alter, if_neg hne, ih fun hmem => h (List.mem_cons_of_mem e.1 hmem), List.cons_append]

/-- A key is listed exactly when it has an entry. -/
theorem mem_keys_iff (k : κ) (t : Table κ α) : k ∈ t.keys ↔ (t.get? k).isSome := by
  induction t with
  | nil => simp [keys, get?]
  | cons e t ih =>
    by_cases h : e.1 = k
    · simp [keys, get?, h]
    · have h' : ¬ k = e.1 := fun he => h he.symm
      simpa [keys, get?, h, h'] using ih

/-- When no key comes twice, every entry is the one of its key. -/
theorem get?_of_mem {t : Table κ α} (h : t.keys.Nodup) {e : κ × α} (he : e ∈ t) :
    t.get? e.1 = some e.2 := by
  induction t with
  | nil => cases he
  | cons e' t ih =>
    obtain ⟨hnew, htail⟩ := List.nodup_cons.mp h
    rcases List.mem_cons.mp he with rfl | he
    · exact if_pos rfl
    · have hne : e'.1 ≠ e.1 := fun heq => hnew (List.mem_map.mpr ⟨e, he, heq.symm⟩)
      exact (if_neg hne).trans (ih htail he)

end Table

end WorkflowCheck
