import Mathlib.Data.List.Forall2
import Mathlib.Data.List.Perm.Subperm
import WorkflowCheck.Proofs.Number.Range
import WorkflowCheck.Proofs.Value.Same

/-!
# Sameness as an equivalence

Sameness is transitive for all values (`Value.same_trans`).  It looks for each field of the first object in
the second one and for each member of the first set in the second one, so it is symmetric only for values that
have no key and no member twice: `Value.HoldsTwice` says where a member may come twice.  Of plain values that
hold none it is symmetric (`Value.IsPlain.same_symm`).
-/

namespace WorkflowCheck

/-! ### Scalars -/

/-- What tells a moment from others: its place in universal time if that is known, else all of it. -/
def Moment.key : Moment → Int ⊕ Moment
  | .time d c (some ahead) => .inl (instant d c ahead)
  | m => .inr m

theorem Moment.same_iff {m n : Moment} : m.same n = true ↔ m.key = n.key := by
  rcases m with d | ⟨d, c, _ | x⟩ <;> rcases n with d' | ⟨d', c', _ | x'⟩ <;> simp [same, key]

theorem Quantity.same_iff {p q : Quantity} : p.same q = true ↔ p = q ∧ q ≠ .nan none := by
  rcases p with (_ | name) | negative | count <;> rcases q with (_ | name') | negative' | count' <;>
    simp [same]

theorem Quantity.ofInt_injective : Function.Injective ofInt := by
  intro i j h
  have hunits : (Double.unitsPerOne : Int) ≠ 0 := Int.natCast_ne_zero.mpr (Double.twoTo_pos 1074).ne'
  injection h with hcount
  exact Int.eq_of_mul_eq_mul_right hunits hcount

/-- What a scalar stands for. -/
inductive Meaning where
  | null
  | text (s : String)
  | moment (key : Int ⊕ Moment)
  | bytes (bs : List UInt8)
  | number (q : Quantity)

namespace Value

/-- The meaning of a scalar; what is no scalar has none. -/
def meaning? : Value → Option Meaning
  | .null => some .null
  | .str s => some (.text s)
  | .moment m => some (.moment m.key)
  | .bytes bs => some (.bytes bs)
  | v => v.quantity?.map .number

/-- Scalars are the same if they have one meaning, and that is no NaN without a name. -/
theorem sameScalar_iff {v w : Value} :
    v.sameScalar w = true ↔
      ∃ m, w.meaning? = some m ∧ v.meaning? = some m ∧ m ≠ .number (.nan none) := by
  cases v <;> cases w <;>
    simp [sameScalar, meaning?, quantity?, Quantity.same_iff, Moment.same_iff]

theorem sameScalar_symm {v w : Value} (h : v.sameScalar w = true) : w.sameScalar v = true := by
  obtain ⟨m, hw, hv, hm⟩ := sameScalar_iff.mp h
  exact sameScalar_iff.mpr ⟨m, hv, hw, hm⟩

theorem sameScalar_trans {u v w : Value} (h : u.sameScalar v = true) (h' : v.sameScalar w = true) :
    u.sameScalar w = true := by
  obtain ⟨m, hv, hu, hm⟩ := sameScalar_iff.mp h
  obtain ⟨m', hw, hv', -⟩ := sameScalar_iff.mp h'
  cases hv.symm.trans hv'
  exact sameScalar_iff.mpr ⟨m, hw, hu, hm⟩

/-! ### What is the same as a value of a kind -/

theorem same_eq_sameScalar {v w : Value} (hv : v.meaning?.isSome) : v.same w = v.sameScalar w := by
  cases v with
  | arr | obj | set | pair | loop | again => cases hv
  | _ => cases w <;> rfl

theorem same_str_iff {s t : String} : (str s).same (str t) = true ↔ s = t := by
  rw [same_eq_sameScalar rfl]
  exact beq_iff_eq

/-- Numbers and truth values are the same if they have one value, and that is no NaN without a name. -/
theorem same_iff_of_quantity? {v w : Value} {p q : Quantity} (hv : v.quantity? = some p)
    (hw : w.quantity? = some q) : v.same w = true ↔ p = q ∧ q ≠ .nan none := by
  rw [← Quantity.same_iff]
  cases v <;> cases hv <;> cases w <;> cases hw <;> rfl

theorem same_bool_iff {a b : Bool} : (bool a).same (bool b) = true ↔ a = b := by
  rw [same_iff_of_quantity? rfl rfl, and_iff_left nofun, Quantity.ofInt_injective.eq_iff]
  cases a <;> cases b <;> decide

theorem same_arr_iff {xs : List Value} {v : Value} :
    (arr xs).same v = true ↔ ∃ ys, v = .arr ys ∧ sameItems xs ys = true := by
  cases v <;> simp [same, sameScalar, quantity?]

theorem same_obj_iff {fs : Fields} {v : Value} :
    (obj fs).same v = true ↔ ∃ gs, v = .obj gs ∧ fs.length = gs.length ∧ sameFields fs gs = true := by
  cases v <;> simp [same, sameScalar, quantity?]

theorem same_pair_iff {a b v : Value} :
    (pair a b).same v = true ↔ ∃ c d, v = .pair c d ∧ a.same c = true ∧ b.same d = true := by
  cases v <;> simp [same, sameScalar, quantity?]

theorem same_set_iff {ks : List Key} {v : Value} :
    (set ks).same v = true ↔ ∃ ls, v = .set ls ∧ sameMembers ks ls = true := by
  cases v <;> simp [same, sameScalar, quantity?]

theorem not_same_loop {mark : Nat} {body v : Value} : (loop mark body).same v = false := by
  cases v <;> rfl

theorem not_same_again {mark : Nat} {v : Value} : (again mark).same v = false := by
  cases v <;> rfl

theorem sameItems_iff {xs ys : List Value} :
    sameItems xs ys = true ↔ List.Forall₂ (fun x y => x.same y = true) xs ys := by
  induction xs generalizing ys with
  | nil => cases ys <;> simp [sameItems]
  | cons x xs ih => cases ys <;> simp [sameItems, ih]

/-! ### Chains of values that are the same -/

theorem sameMembers_iff {ks ls : List Key} :
    sameMembers ks ls = true ↔ ks.length = ls.length ∧ ∀ k ∈ ks, ∃ l ∈ ls, k.same l = true := by
  rw [sameMembers, Bool.and_eq_true, beq_iff_eq, List.all_eq_true]
  simp only [List.any_eq_true]

theorem sameMembers_trans {ks ls ms : List Key} (h : sameMembers ks ls = true)
    (h' : sameMembers ls ms = true) : sameMembers ks ms = true := by
  obtain ⟨hlength, hfound⟩ := sameMembers_iff.mp h
  obtain ⟨hlength', hfound'⟩ := sameMembers_iff.mp h'
  refine sameMembers_iff.mpr ⟨hlength.trans hlength', fun k hk => ?_⟩
  obtain ⟨l, hl, hkl⟩ := hfound k hk
  obtain ⟨m, hm, hlm⟩ := hfound' l hl
  exact ⟨m, hm, sameScalar_trans hkl hlm⟩

theorem exists_mem_of_fieldLike? {fs : Fields} {k : Key} {v : Value} (h : fieldLike? k fs = some v) :
    ∃ l, (l, v) ∈ fs ∧ l.same k = true := by
  obtain ⟨f, hf, rfl⟩ := Option.map_eq_some_iff.mp h
  have hlike := List.find?_some hf
  exact ⟨f.1, List.mem_of_find?_eq_some hf, hlike⟩

/-- Under keys that are the same one field is found. -/
theorem fieldLike?_congr {fs : Fields} {k l : Key} (h : k.same l = true) : fieldLike? k fs = fieldLike? l fs := by
  have hsame : (fun f : Key × Value => f.1.same k) = fun f => f.1.same l := by
    funext f
    exact Bool.eq_iff_iff.mpr
      ⟨fun hk => sameScalar_trans hk h, fun hl => sameScalar_trans hl (sameScalar_symm h)⟩
  rw [fieldLike?, fieldLike?, hsame]

theorem same_trans_of_scalar {u v w : Value} (hu : u.meaning?.isSome) (h : u.same v = true)
    (h' : v.same w = true) : u.same w = true := by
  rw [same_eq_sameScalar hu] at h ⊢
  obtain ⟨m, hv, -, -⟩ := sameScalar_iff.mp h
  have hscalar : v.meaning?.isSome := by rw [hv]; rfl
  rw [same_eq_sameScalar hscalar] at h'
  exact sameScalar_trans h h'

mutual

/-- Values that are the same as a third one are the same. -/
theorem same_trans : ∀ {u v w : Value}, u.same v = true → v.same w = true → u.same w = true
  | .arr xs, _, _, h, h' => by
    obtain ⟨ys, rfl, hys⟩ := same_arr_iff.mp h
    obtain ⟨zs, rfl, hzs⟩ := same_arr_iff.mp h'
    exact same_arr_iff.mpr ⟨zs, rfl, sameItems_trans hys hzs⟩
  | .obj fs, _, _, h, h' => by
    obtain ⟨gs, rfl, hlength, hgs⟩ := same_obj_iff.mp h
    obtain ⟨hs, rfl, hlength', hhs⟩ := same_obj_iff.mp h'
    exact same_obj_iff.mpr ⟨hs, rfl, hlength.trans hlength', sameFields_trans hgs hhs⟩
  | .pair a b, _, _, h, h' => by
    obtain ⟨c, d, rfl, hac, hbd⟩ := same_pair_iff.mp h
    obtain ⟨e, f, rfl, hce, hdf⟩ := same_pair_iff.mp h'
    exact same_pair_iff.mpr ⟨e, f, rfl, same_trans hac hce, same_trans hbd hdf⟩
  | .set ks, _, _, h, h' => by
    obtain ⟨ls, rfl, hls⟩ := same_set_iff.mp h
    obtain ⟨ms, rfl, hms⟩ := same_set_iff.mp h'
    exact same_set_iff.mpr ⟨ms, rfl, sameMembers_trans hls hms⟩
  | .loop _ _, _, _, h, _ => absurd h (Bool.eq_false_iff.mp not_same_loop)
  | .again _, _, _, h, _ => absurd h (Bool.eq_false_iff.mp not_same_again)
  | .null, _, _, h, h' | .bool _, _, _, h, h' | .int _, _, _, h, h' | .float _, _, _, h, h'
  | .str _, _, _, h, h' | .moment _, _, _, h, h' | .bytes _, _, _, h, h' => same_trans_of_scalar rfl h h'

theorem sameItems_trans :
    ∀ {xs ys zs : List Value}, sameItems xs ys = true → sameItems ys zs = true → sameItems xs zs = true
  | [], [], [], _, _ => rfl
  | x :: xs, y :: ys, z :: zs, h, h' => by
    obtain ⟨hhead, htail⟩ := Bool.and_eq_true_iff.mp h
    obtain ⟨hhead', htail'⟩ := Bool.and_eq_true_iff.mp h'
    rw [sameItems, same_trans hhead hhead', sameItems_trans htail htail']
    rfl

theorem sameFields_trans :
    ∀ {fs gs hs : Fields}, sameFields fs gs = true → sameFields gs hs = true → sameFields fs hs = true
  | [], _, _, _, _ => rfl
  | (k, x) :: fs, gs, hs, h, h' => by
    obtain ⟨hhead, htail⟩ := List.forall_mem_cons.mp (sameFields_iff.mp h)
    obtain ⟨y, hy, hxy⟩ := hhead
    obtain ⟨l, hmem, hlike⟩ := exists_mem_of_fieldLike? hy
    obtain ⟨z, hz, hyz⟩ := sameFields_iff.mp h' (l, y) hmem
    rw [sameFields, ← fieldLike?_congr hlike, hz, sameFields_trans (sameFields_iff.mpr htail) h', Bool.and_true]
    exact same_trans hxy hyz

end

/-! ### Values without repeated members -/

/-- A set in the value, at any depth, has two members that are the same. -/
inductive HoldsTwice : Value → Prop
  | set {members : List Key} :
      ¬ members.Pairwise (fun k l => k.same l = false) → HoldsTwice (.set members)
  | item {xs : List Value} {x : Value} : x ∈ xs → HoldsTwice x → HoldsTwice (.arr xs)
  | field {fields : Fields} {e : Key × Value} : e ∈ fields → HoldsTwice e.2 → HoldsTwice (.obj fields)
  | first {a b : Value} : HoldsTwice a → HoldsTwice (.pair a b)
  | second {a b : Value} : HoldsTwice b → HoldsTwice (.pair a b)

/-- A relation that can be turned round at the members of the first list can be turned round. -/
theorem forall₂_symm {α : Type} {R : α → α → Prop} {as bs : List α}
    (hsymm : ∀ a ∈ as, ∀ b, R a b → R b a) (h : List.Forall₂ R as bs) : List.Forall₂ R bs as := by
  have hmem : List.Forall₂ (fun a b => a ∈ as ∧ R a b) as bs :=
    (List.forall₂_and_left as bs).mpr ⟨fun _ => id, h⟩
  exact (hmem.imp fun a b hab => hsymm a hab.1 b hab.2).flip

/-- Of two lists of one length, if the first has no member twice and all of its members are in the second,
the second is a rearrangement of it. -/
theorem perm_of_subset_of_length_eq {α : Type} {as bs : List α} (hnodup : as.Nodup) (hsub : as ⊆ bs)
    (hlength : as.length = bs.length) : as.Perm bs :=
  (hnodup.subperm hsub).perm_of_length_le (Nat.le_of_eq hlength.symm)

/-- When every field of an object has its like in another one, different fields have different ones there. -/
theorem exists_likes_of_sameFields {fs gs : Fields} (hkeys : fs.keys.Pairwise fun k l => k.same l = false)
    (h : sameFields fs gs = true) :
    ∃ like : Key × Value → Key × Value, (fs.map like).Nodup ∧ fs.map like ⊆ gs ∧
      ∀ e ∈ fs, (like e).1.same e.1 = true ∧ e.2.same (like e).2 = true := by
  have hfound : ∀ e ∈ fs, ∃ g ∈ gs, g.1.same e.1 = true ∧ e.2.same g.2 = true := by
    intro e he
    obtain ⟨y, hy, hsame⟩ := sameFields_iff.mp h e he
    obtain ⟨l, hmem, hlike⟩ := exists_mem_of_fieldLike? hy
    exact ⟨(l, y), hmem, hlike, hsame⟩
  choose! like hmem hlike hsame using hfound
  refine ⟨like, ?_, ?_, fun e he => ⟨hlike e he, hsame e he⟩⟩
  · refine List.pairwise_map.mpr ((List.pairwise_map.mp hkeys).imp_of_mem ?_)
    intro e f he hf hne heq
    have hboth : e.1.same f.1 = true := sameScalar_trans (sameScalar_symm (hlike e he)) (heq ▸ hlike f hf)
    exact absurd hboth (Bool.eq_false_iff.mp hne)
  · intro g hg
    obtain ⟨e, he, rfl⟩ := List.mem_map.mp hg
    exact hmem e he

/-- When every field of an object has its like in an object of as many fields, the fields of the second
have theirs in the first. -/
theorem sameFields_symm {fs gs : Fields} (hkeys : fs.keys.Pairwise fun k l => k.same l = false)
    (hlength : fs.length = gs.length)
    (hsymm : ∀ e ∈ fs, ∀ y, e.2.same y = true → y.same e.2 = true) (h : sameFields fs gs = true) :
    sameFields gs fs = true := by
  obtain ⟨like, hnodup, hsub, hlike⟩ := exists_likes_of_sameFields hkeys h
  have hperm : (fs.map like).Perm gs :=
    perm_of_subset_of_length_eq hnodup hsub (by rwa [List.length_map])
  refine sameFields_iff.mpr fun g hg => ?_
  obtain ⟨e, he, rfl⟩ := List.mem_map.mp (hperm.mem_iff.mpr hg)
  obtain ⟨hkey, hsame⟩ := hlike e he
  have hself : e.1.same e.1 = true := sameScalar_trans (sameScalar_symm hkey) hkey
  exact ⟨e.2, (fieldLike?_congr hkey).trans (fieldLike?_of_mem hkeys he hself), hsymm e he _ hsame⟩

theorem sameMembers_symm {ks ls : List Key} (hks : ks.Pairwise fun k l => k.same l = false)
    (h : sameMembers ks ls = true) : sameMembers ls ks = true := by
  obtain ⟨hlength, hfound⟩ := sameMembers_iff.mp h
  choose! like hmem hlike using hfound
  have hnodup : (ks.map like).Nodup := by
    refine List.pairwise_map.mpr (hks.imp_of_mem ?_)
    intro k k' hk hk' hne heq
    have hsame : k.same k' = true := sameScalar_trans (heq ▸ hlike k hk) (sameScalar_symm (hlike k' hk'))
    exact absurd hsame (Bool.eq_false_iff.mp hne)
  have hsub : ks.map like ⊆ ls := by
    intro l hl
    obtain ⟨k, hk, rfl⟩ := List.mem_map.mp hl
    exact hmem k hk
  have hperm : (ks.map like).Perm ls :=
    perm_of_subset_of_length_eq hnodup hsub (by rwa [List.length_map])
  refine sameMembers_iff.mpr ⟨hlength.symm, fun l hl => ?_⟩
  obtain ⟨k, hk, rfl⟩ := List.mem_map.mp (hperm.mem_iff.mpr hl)
  exact ⟨k, hk, sameScalar_symm (hlike k hk)⟩

theorem same_symm_of_scalar {v w : Value} (hv : v.meaning?.isSome) (h : v.same w = true) :
    w.same v = true := by
  rw [same_eq_sameScalar hv] at h
  obtain ⟨m, hw, -, -⟩ := sameScalar_iff.mp h
  rw [same_eq_sameScalar (by rw [hw]; rfl)]
  exact sameScalar_symm h

/-- Sameness is symmetric where a plain value without repeated members is the first. -/
theorem IsPlain.same_symm {v : Value} (hplain : v.IsPlain) (honce : ¬ v.HoldsTwice) {w : Value}
    (h : v.same w = true) : w.same v = true := by
  induction hplain generalizing w with
  | null | bool | int | float | str | moment | bytes => exact same_symm_of_scalar rfl h
  | @arr xs _ ih =>
    obtain ⟨ys, rfl, hys⟩ := same_arr_iff.mp h
    have hitems : ∀ x ∈ xs, ∀ y, x.same y = true → y.same x = true :=
      fun x hx y => ih x hx fun htwice => honce (.item hx htwice)
    exact same_arr_iff.mpr ⟨xs, rfl, sameItems_iff.mpr (forall₂_symm hitems (sameItems_iff.mp hys))⟩
  | @obj fs _ hkeys _ ih =>
    obtain ⟨gs, rfl, hlength, hgs⟩ := same_obj_iff.mp h
    have hfields : ∀ e ∈ fs, ∀ y, e.2.same y = true → y.same e.2 = true :=
      fun e he y => ih e he fun htwice => honce (.field he htwice)
    exact same_obj_iff.mpr ⟨fs, rfl, hlength.symm, sameFields_symm hkeys hlength hfields hgs⟩
  | @set ks _ =>
    obtain ⟨ls, rfl, hls⟩ := same_set_iff.mp h
    have hks : ks.Pairwise fun k l => k.same l = false := by_contra fun hks => honce (.set hks)
    exact same_set_iff.mpr ⟨ks, rfl, sameMembers_symm hks hls⟩
  | @pair a b _ _ iha ihb =>
    obtain ⟨c, d, rfl, hac, hbd⟩ := same_pair_iff.mp h
    exact same_pair_iff.mpr
      ⟨a, b, rfl, iha (fun ha => honce (.first ha)) hac, ihb (fun hb => honce (.second hb)) hbd⟩

end Value

end WorkflowCheck
