import WorkflowCheck.Value.Same

/-!
# When a value is the same as itself

Sameness is decided by content, so a value may fail to be the same as itself: a NaN without a name is the
same as nothing, and so is everything that holds one.  `Value.IsPlain` leaves these out, together with
objects that have a key twice, of which sameness sees the first only, and with loops.  A plain value is
the same as itself (`Value.IsPlain.same_self`).  Keys that are texts are the same if they are equal.
-/

namespace WorkflowCheck

/-! ### Plain values -/

/-- A value without NaNs that have no name, with each key once in every object, and without loops. -/
inductive Value.IsPlain : Value → Prop
  | null : IsPlain .null
  | bool (b : Bool) : IsPlain (.bool b)
  | int (i : Int) : IsPlain (.int i)
  | float {d : Double} : d ≠ .nan none → IsPlain (.float d)
  | str (s : String) : IsPlain (.str s)
  | moment (m : Moment) : IsPlain (.moment m)
  | bytes (bs : List UInt8) : IsPlain (.bytes bs)
  | arr {xs : List Value} : (∀ x ∈ xs, IsPlain x) → IsPlain (.arr xs)
  | obj {fields : Fields} : (∀ e ∈ fields, e.1 ≠ .float (.nan none)) →
      fields.keys.Pairwise (fun k l => k.same l = false) → (∀ e ∈ fields, IsPlain e.2) → IsPlain (.obj fields)
  | set {members : List Key} : (∀ k ∈ members, k ≠ .float (.nan none)) → IsPlain (.set members)
  | pair {a b : Value} : IsPlain a → IsPlain b → IsPlain (.pair a b)

/-! ### Scalars and keys -/

theorem Quantity.same_self {q : Quantity} (h : q ≠ .nan none) : q.same q = true := by
  cases q with
  | nan name =>
    cases name with
    | none => exact absurd rfl h
    | some name => exact decide_eq_true rfl
  | _ => exact decide_eq_true rfl

theorem Quantity.same_ofInt (i : Int) : (ofInt i).same (ofInt i) = true :=
  same_self nofun

theorem Quantity.ofDouble_ne {d : Double} (h : d ≠ .nan none) : ofDouble d ≠ .nan none := by
  cases d with
  | nan name =>
    intro heq
    cases heq
    exact h rfl
  | _ => nofun

theorem Moment.same_self (m : Moment) : m.same m = true := by
  unfold same
  split
  · exact beq_self_eq_true _
  · exact decide_eq_true rfl

theorem Key.same_self {k : Key} (h : k ≠ .float (.nan none)) : k.same k = true := by
  cases k with
  | null => rfl
  | bool b => exact Quantity.same_ofInt _
  | int i => exact Quantity.same_ofInt _
  | float d => exact Quantity.same_self (Quantity.ofDouble_ne fun hd => h (congrArg Key.float hd))
  | str s => exact beq_self_eq_true s
  | moment m => exact m.same_self
  | bytes bs => exact beq_self_eq_true bs

/-- A text is the same as no other key. -/
theorem Key.same_str_iff {k : Key} {s : String} : k.same (.str s) = true ↔ k = .str s := by
  cases k <;> simp [same, toValue, Value.sameScalar, Value.quantity?]

/-- Texts that are different are no keys that are the same. -/
theorem Key.pairwise_str {names : List String} (h : names.Nodup) :
    (names.map Key.str).Pairwise fun k l => k.same l = false := by
  refine List.pairwise_map.mpr (h.imp fun hne => ?_)
  exact Bool.eq_false_iff.mpr fun hsame => hne (Key.str.inj (same_str_iff.mp hsame))

namespace Value

/-! ### Arrays and objects -/

theorem sameItems_map_iff {α : Type} {f g : α → Value} {as : List α} :
    sameItems (as.map f) (as.map g) = true ↔ ∀ a ∈ as, (f a).same (g a) = true := by
  induction as with
  | nil => simp [sameItems]
  | cons a as ih => simp [sameItems, ih]

theorem sameFields_iff {fs gs : Fields} :
    sameFields fs gs = true ↔ ∀ e ∈ fs, ∃ y, fieldLike? e.1 gs = some y ∧ e.2.same y = true := by
  induction fs with
  | nil => simp [sameFields]
  | cons e fs ih =>
    obtain ⟨k, x⟩ := e
    rw [sameFields, Bool.and_eq_true, ih, List.forall_mem_cons]
    refine and_congr_left' ?_
    cases fieldLike? k gs <;> simp

theorem fieldLike?_cons (k : Key) (f : Key × Value) (fs : Fields) :
    fieldLike? k (f :: fs) = if f.1.same k then some f.2 else fieldLike? k fs := by
  rw [fieldLike?, List.find?_cons]
  cases f.1.same k <;> rfl

/-- Among keys that are all different the field of a key is found under it, if it is the same as itself. -/
theorem fieldLike?_of_mem {fs : Fields} (hkeys : fs.keys.Pairwise fun k l => k.same l = false)
    {e : Key × Value} (he : e ∈ fs) (hself : e.1.same e.1 = true) : fieldLike? e.1 fs = some e.2 := by
  induction fs with
  | nil => cases he
  | cons f fs ih =>
    obtain ⟨hfirst, hrest⟩ := List.pairwise_cons.mp hkeys
    rw [fieldLike?_cons]
    rcases List.mem_cons.mp he with rfl | he
    · exact if_pos hself
    · have hne : f.1.same e.1 = false := hfirst e.1 (List.mem_map_of_mem he)
      exact (if_neg (Bool.eq_false_iff.mp hne)).trans (ih hrest he)

/-- Under a text the field is found that has it as its key. -/
theorem fieldLike?_str (s : String) (fs : Fields) : fieldLike? (.str s) fs = fs.get? (.str s) := by
  induction fs with
  | nil => rfl
  | cons f fs ih =>
    rw [fieldLike?_cons, Table.get?, ih]
    exact ite_congr (propext Key.same_str_iff) (fun _ => rfl) fun _ => rfl

/-- A record is plain if its names are different and its values plain. -/
theorem isPlain_record_of_nodup {es : List (String × Value)} (hnames : (es.map (·.1)).Nodup)
    (h : ∀ e ∈ es, IsPlain e.2) : (record es).IsPlain := by
  refine .obj (fun f hf => ?_) ?_ fun f hf => ?_
  · obtain ⟨e, -, rfl⟩ := List.mem_map.mp hf
    exact Key.noConfusion
  · rw [Table.keys, List.map_map]
    have hkeys := Key.pairwise_str hnames
    rwa [List.map_map] at hkeys
  · obtain ⟨e, he, rfl⟩ := List.mem_map.mp hf
    exact h e he

/-- A plain value is the same as itself. -/
theorem IsPlain.same_self {v : Value} (h : v.IsPlain) : v.same v = true := by
  induction h with
  | null => rfl
  | bool b => exact Quantity.same_ofInt _
  | int i => exact Quantity.same_ofInt _
  | float hd => exact Quantity.same_self (Quantity.ofDouble_ne hd)
  | str s => exact beq_self_eq_true s
  | moment m => exact m.same_self
  | bytes bs => exact beq_self_eq_true bs
  | @arr xs _ ih =>
    have hitems : sameItems (xs.map id) (xs.map id) = true := sameItems_map_iff.mpr ih
    rwa [List.map_id] at hitems
  | @obj fields hknown hkeys _ ih =>
    have hfields : sameFields fields fields = true := sameFields_iff.mpr fun e he =>
      ⟨e.2, fieldLike?_of_mem hkeys he (Key.same_self (hknown e he)), ih e he⟩
    rw [same, hfields, beq_self_eq_true]
    rfl
  | @set members hmembers =>
    rw [same, sameMembers, beq_self_eq_true, Bool.true_and, List.all_eq_true]
    exact fun k hk => List.any_eq_true.mpr ⟨k, hk, Key.same_self (hmembers k hk)⟩
  | pair _ _ iha ihb => rw [same, iha, ihb, Bool.true_and]

end Value

end WorkflowCheck
