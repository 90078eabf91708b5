import Mathlib.Data.Finset.Card
import Mathlib.Order.Interval.Finset.Nat
import WorkflowCheck.Flow.Id

/-!
# Fresh ids of nodes

An id is generated by trying the numbers from 1 on.  `IdSearch` is that search without any bound on the
numbers that are tried, and `freshNodeId` is where it ends: it always does, since different numbers give
different ids (`numberedId_injective`) and only as many of them can be taken as there are ids
(`exists_free_number`).  The number is the least one that is free, and ids that are generated one after the
other never come twice (`freshNodeId_least`).
-/

namespace WorkflowCheck

variable {type : String} {taken : List String} {k last : Nat}

/-! ### Numbered ids -/

/-- The number is read off the end of the id, whatever the type is. -/
theorem numberedId_injective (type : String) : Function.Injective (numberedId type) := by
  intro j k h
  have hchars := congrArg String.toList h
  simp only [numberedId, String.toList_append] at hchars
  have hdigits : Nat.toDigits 10 j = Nat.toDigits 10 k := by
    simpa only [Nat.toString_eq_ofList_toDigits, String.toList_ofList] using List.append_cancel_left hchars
  calc
    j = Nat.ofDigitChars 10 (Nat.toDigits 10 j) 0 := Nat.ofDigitChars_ten_toDigits.symm
    _ = Nat.ofDigitChars 10 (Nat.toDigits 10 k) 0 := by rw [hdigits]
    _ = k := Nat.ofDigitChars_ten_toDigits

/-- Of one more numbers than there are different ids one gives an id that is free. -/
theorem exists_free_number (type : String) (taken : List String) (k : Nat) :
    ∃ j, k ≤ j ∧ j ≤ k + taken.toFinset.card ∧ numberedId type j ∉ taken := by
  by_contra hnone
  push Not at hnone
  have hmaps : ∀ j ∈ Finset.Icc k (k + taken.toFinset.card), numberedId type j ∈ taken.toFinset := by
    intro j hj
    obtain ⟨hlow, hhigh⟩ := Finset.mem_Icc.mp hj
    exact List.mem_toFinset.mpr (hnone j hlow hhigh)
  have hcard : (Finset.Icc k (k + taken.toFinset.card)).card ≤ taken.toFinset.card :=
    Finset.card_le_card_of_injOn (numberedId type) hmaps (numberedId_injective type).injOn
  rw [Nat.card_Icc] at hcard
  omega

/-! ### The search -/

/-- A search from a number on ends at the first number whose id is free. -/
inductive IdSearch (type : String) (taken : List String) : Nat → Nat → Prop
  | found {k : Nat} : numberedId type k ∉ taken → IdSearch type taken k k
  | next {k last : Nat} : numberedId type k ∈ taken → IdSearch type taken (k + 1) last →
      IdSearch type taken k last

theorem IdSearch.isLeast (h : IdSearch type taken k last) :
    IsLeast {j | k ≤ j ∧ numberedId type j ∉ taken} last := by
  induction h with
  | found hfree => exact ⟨⟨le_rfl, hfree⟩, fun j hj => hj.1⟩
  | @next k last htaken _ ih =>
    obtain ⟨⟨hstart, hfree⟩, hleast⟩ := ih
    refine ⟨⟨Nat.le_of_succ_le hstart, hfree⟩, ?_⟩
    rintro j ⟨hj, hjfree⟩
    have hne : k ≠ j := by
      rintro rfl
      exact hjfree htaken
    exact hleast ⟨Nat.lt_of_le_of_ne hj hne, hjfree⟩

/-- A search has no more than one end. -/
theorem IdSearch.eq_of_isLeast (h : IdSearch type taken k last) {j : Nat}
    (hj : IsLeast {j | k ≤ j ∧ numberedId type j ∉ taken} j) : last = j :=
  h.isLeast.unique hj

/-- With tries enough for one free number, the bounded search goes the way of the unbounded one. -/
theorem idSearch_freeNumber :
    ∀ (tries k : Nat), (∃ j, k ≤ j ∧ j ≤ k + tries ∧ numberedId type j ∉ taken) →
      IdSearch type taken k (freeNumber type taken tries k)
  | 0, k, ⟨j, hlow, hhigh, hfree⟩ => by
    cases Nat.le_antisymm hlow hhigh
    exact .found hfree
  | tries + 1, k, ⟨j, hlow, hhigh, hfree⟩ => by
    rw [freeNumber]
    split
    case isTrue htaken =>
      have hne : k ≠ j := by
        rintro rfl
        exact hfree htaken
      have hnext : k + 1 ≤ j := Nat.lt_of_le_of_ne hlow hne
      exact .next htaken (idSearch_freeNumber tries (k + 1) ⟨j, hnext, by omega, hfree⟩)
    case isFalse hk => exact .found hk

/-- As many tries as there are ids are enough. -/
theorem idSearch_freshNodeId (type : String) (taken : List String) :
    IdSearch type taken 1 (freeNumber type taken taken.length 1) := by
  obtain ⟨j, hlow, hhigh, hfree⟩ := exists_free_number type taken 1
  have hcard : taken.toFinset.card ≤ taken.length := taken.toFinset_card_le
  exact idSearch_freeNumber taken.length 1 ⟨j, hlow, by omega, hfree⟩

theorem freshNodeId_not_mem (type : String) (taken : List String) : freshNodeId type taken ∉ taken :=
  (idSearch_freshNodeId type taken).isLeast.1.2

/-- The generated ids are those with a number from 1 on: it is the one that is generated where all before it
are taken. -/
theorem exists_freshNodeId_iff {text : String} :
    (∃ type taken, text = freshNodeId type taken) ↔ ∃ type k, 0 < k ∧ text = numberedId type k := by
  constructor
  · rintro ⟨type, taken, rfl⟩
    exact ⟨type, _, (idSearch_freshNodeId type taken).isLeast.1.1, rfl⟩
  · rintro ⟨type, k, hk, rfl⟩
    have hmem : ∀ j, numberedId type j ∈ (List.range k).map (numberedId type) ↔ j < k := fun j => by
      rw [List.mem_map_of_injective (numberedId_injective type), List.mem_range]
    have hleast : IsLeast {j | 1 ≤ j ∧ numberedId type j ∉ (List.range k).map (numberedId type)} k :=
      ⟨⟨hk, fun h => Nat.lt_irrefl k ((hmem k).mp h)⟩, fun j hj => Nat.not_lt.mp (mt (hmem j).mpr hj.2)⟩
    refine ⟨type, (List.range k).map (numberedId type), ?_⟩
    rw [freshNodeId, (idSearch_freshNodeId type _).eq_of_isLeast hleast]

/-! ### One id after the other -/

/-- The ids that are generated for some types in turn, each of them taken when the next one is generated. -/
def freshNodeIds (taken : List String) : List String → List String
  | [] => []
  | type :: types =>
    let id := freshNodeId type taken
    id :: freshNodeIds (id :: taken) types

theorem freshNodeIds_fresh :
    ∀ (types taken : List String),
      (freshNodeIds taken types).Nodup ∧ ∀ id ∈ freshNodeIds taken types, id ∉ taken
  | [], _ => ⟨List.nodup_nil, List.forall_mem_nil _⟩
  | type :: types, taken => by
    obtain ⟨hnodup, hfresh⟩ := freshNodeIds_fresh types (freshNodeId type taken :: taken)
    refine ⟨List.nodup_cons.mpr ⟨fun hmem => ?_, hnodup⟩, List.forall_mem_cons.mpr ⟨?_, fun id hid => ?_⟩⟩
    · exact hfresh _ hmem List.mem_cons_self
    · exact freshNodeId_not_mem type taken
    · exact fun htaken => hfresh id hid (List.mem_cons_of_mem _ htaken)

/-- **The search for a fresh id ends**, at one number and no other: the least one from 1 on whose id is
free, which is at most one more than there are different ids.  The generated id is the type with that number
in decimal digits.  Generating ids for any types in turn, each of them taken from then on, gives no id twice
and none of those that were taken before. -/
theorem freshNodeId_least (type : String) (taken : List String) :
    (∃ k, (∀ last, IdSearch type taken 1 last ↔ last = k) ∧
      IsLeast {j | 1 ≤ j ∧ numberedId type j ∉ taken} k ∧ k ≤ taken.toFinset.card + 1 ∧
      freshNodeId type taken = type ++ "_" ++ String.ofList (Nat.toDigits 10 k)) ∧
    ∀ types, (freshNodeIds taken types).Nodup ∧ ∀ id ∈ freshNodeIds taken types, id ∉ taken := by
  have hsearch := idSearch_freshNodeId type taken
  refine ⟨⟨_, fun last => ⟨fun h => ?_, ?_⟩, hsearch.isLeast, ?_, rfl⟩,
    fun types => freshNodeIds_fresh types taken⟩
  · exact h.eq_of_isLeast hsearch.isLeast
  · rintro rfl
    exact hsearch
  · obtain ⟨j, hlow, hhigh, hfree⟩ := exists_free_number type taken 1
    have hleast := hsearch.isLeast.2 ⟨hlow, hfree⟩
    omega

end WorkflowCheck
