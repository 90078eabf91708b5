import Mathlib.Data.List.Forall2
import Mathlib.Data.List.Induction
import WorkflowCheck.Proofs.Registry.Construction

/-!
# Registries made in bulk

A registry of many contracts at once is the registry that has them added one by one, if no type comes twice,
and otherwise there is an error about the first type that came before (`FirstClash`).  The contracts of a
payload are all read before any of them is added, so the first one that is not right is told about even behind
a type that comes twice (`ofContracts_ofPayload_iff`).
-/

namespace WorkflowCheck.Registry

open Decode

variable {r : Registry} {cs : List Contract} {c : Contract} {v : Value} {vs items : List Value}
  {e : RegistryError}

/-! ### Adding many contracts -/

theorem contains_iff (r : Registry) (type : String) : r.contains type = true ↔ type ∈ r.types :=
  (Table.mem_keys_iff type r.contracts).symm

theorem add_of_mem (h : c.type ∈ r.types) : r.add c = .error (.duplicate c.type) :=
  if_pos ((r.contains_iff c.type).mpr h)

theorem add_of_not_mem (h : c.type ∉ r.types) : r.add c = .ok (r.withContract c) :=
  if_neg (mt (r.contains_iff c.type).mp h)

/-- A contract of a new type comes last. -/
theorem contracts_withContract_of_not_mem (h : c.type ∉ r.types) :
    (r.withContract c).contracts = r.contracts ++ [(c.type, c)] :=
  Table.alter_of_not_mem h _

/-- Contracts of different types, all of them new, are added one after the other. -/
theorem foldlM_add_of_nodup :
    ∀ {cs : List Contract} {r : Registry}, (r.types ++ cs.map (·.type)).Nodup →
      cs.foldlM add r = .ok (cs.foldl withContract r) ∧
        (cs.foldl withContract r).contracts = r.contracts ++ cs.map fun c => (c.type, c)
  | [], r, _ => ⟨rfl, (List.append_nil r.contracts).symm⟩
  | c :: cs, r, h => by
    have hnew : c.type ∉ r.types := fun hmem =>
      List.disjoint_of_nodup_append h hmem List.mem_cons_self
    have hcontracts := contracts_withContract_of_not_mem hnew
    have htypes : (r.withContract c).types = r.types ++ [c.type] := by
      rw [types_withContract, if_neg hnew]
    have hrest : ((r.withContract c).types ++ cs.map (·.type)).Nodup := by
      rwa [htypes, List.append_assoc]
    obtain ⟨hadded, hlisted⟩ := foldlM_add_of_nodup hrest
    constructor
    · rw [List.foldlM_cons, add_of_not_mem hnew]
      exact hadded
    · rw [List.foldl_cons, hlisted, hcontracts, List.append_assoc]
      rfl

theorem ofContracts_of_nodup (h : (cs.map (·.type)).Nodup) :
    ofContracts cs = .ok (cs.foldl withContract empty) :=
  (foldlM_add_of_nodup (r := empty) h).1

theorem contracts_foldl_withContract (h : (cs.map (·.type)).Nodup) :
    (cs.foldl withContract empty).contracts = cs.map fun c => (c.type, c) :=
  (foldlM_add_of_nodup (r := empty) h).2

/-! ### The first clash -/

/-- The contract is the first one of the list whose type came before. -/
def FirstClash (cs : List Contract) (c : Contract) : Prop :=
  ∃ before after, cs = before ++ c :: after ∧ (before.map (·.type)).Nodup ∧ c.type ∈ before.map (·.type)

theorem FirstClash.not_nodup (h : FirstClash cs c) : ¬ (cs.map (·.type)).Nodup := by
  obtain ⟨before, after, rfl, -, hmem⟩ := h
  rw [List.map_append]
  exact fun hnodup => List.disjoint_of_nodup_append hnodup hmem List.mem_cons_self

/-- Either no type comes twice, or there is a first one that came before. -/
theorem nodup_or_exists_firstClash (cs : List Contract) :
    (cs.map (·.type)).Nodup ∨ ∃ c, FirstClash cs c := by
  induction cs using List.reverseRecOn with
  | nil => exact .inl List.nodup_nil
  | append_singleton cs c ih =>
    rcases ih with hnodup | ⟨c', before, after, rfl, hbefore, hmem⟩
    · by_cases hmem : c.type ∈ cs.map (·.type)
      · exact .inr ⟨c, cs, [], rfl, hnodup, hmem⟩
      · refine .inl ?_
        rw [List.map_append, List.map_singleton, ← List.concat_eq_append]
        exact hnodup.concat hmem
    · exact .inr ⟨c', before, after ++ [c], by simp, hbefore, hmem⟩

theorem ofContracts_of_firstClash (h : FirstClash cs c) : ofContracts cs = .error (.duplicate c.type) := by
  obtain ⟨before, after, rfl, hbefore, hmem⟩ := h
  have htypes : (before.foldl withContract empty).types = before.map (·.type) := by
    rw [types, contracts_foldl_withContract hbefore, Table.keys, List.map_map]
    rfl
  have hprefix : before.foldlM add empty = .ok (before.foldl withContract empty) :=
    ofContracts_of_nodup hbefore
  rw [ofContracts, List.foldlM_append, hprefix]
  show (c :: after).foldlM add (before.foldl withContract empty) = _
  rw [List.foldlM_cons, add_of_mem (htypes ▸ hmem)]
  rfl

theorem ofContracts_eq_ok_iff :
    ofContracts cs = .ok r ↔ (cs.map (·.type)).Nodup ∧ r = cs.foldl withContract empty := by
  rcases nodup_or_exists_firstClash cs with hnodup | ⟨c, hclash⟩
  · rw [ofContracts_of_nodup hnodup, Except.ok.injEq, eq_comm]
    exact (and_iff_right hnodup).symm
  · rw [ofContracts_of_firstClash hclash]
    exact iff_of_false nofun fun h => hclash.not_nodup h.1

theorem ofContracts_eq_error_iff :
    ofContracts cs = .error e ↔ ∃ c, FirstClash cs c ∧ e = .duplicate c.type := by
  rcases nodup_or_exists_firstClash cs with hnodup | ⟨c, hclash⟩
  · rw [ofContracts_of_nodup hnodup]
    refine iff_of_false nofun ?_
    rintro ⟨c, hclash, -⟩
    exact hclash.not_nodup hnodup
  · constructor
    · intro h
      rw [ofContracts_of_firstClash hclash, Except.error.injEq] at h
      exact ⟨c, hclash, h.symm⟩
    · rintro ⟨c', hclash', rfl⟩
      exact ofContracts_of_firstClash hclash'

/-! ### Reading the contracts of a payload -/

/-- Every value of the list is read as the contract at its place. -/
def ReadAll (items : List Value) (cs : List Contract) : Prop :=
  List.Forall₂ (fun v c => Contract.read v = .valid c) items cs

/-- The problems are those of the first value of the list that is no contract. -/
def FirstFaulty (items : List Value) (ps : List Problem) : Prop :=
  ∃ before v after, items = before ++ v :: after ∧ (∀ u ∈ before, ∃ c, Contract.read u = .valid c) ∧
    Contract.read v = .faulty ps

theorem readContracts_eq_ok_iff :
    ∀ {items : List Value} {cs : List Contract}, readContracts items = .ok cs ↔ ReadAll items cs
  | [], cs => by
    rw [readContracts, ReadAll, List.forall₂_nil_left_iff, Except.ok.injEq, eq_comm]
  | v :: vs, cs => by
    rw [readContracts, ReadAll, List.forall₂_cons_left_iff]
    cases hread : Contract.read v with
    | faulty ps =>
      refine iff_of_false (fun h => ?_) ?_
      · cases h
      · rintro ⟨c, rest, hc, -⟩
        cases hc
    | valid c =>
      constructor
      · intro h
        obtain ⟨rest, hrest, rfl⟩ := exists_ok_of_map h
        exact ⟨c, rest, rfl, readContracts_eq_ok_iff.mp hrest, rfl⟩
      · rintro ⟨c', rest, hc, hrest, rfl⟩
        cases hc
        dsimp only
        rw [readContracts_eq_ok_iff.mpr hrest]
        rfl

theorem readContracts_eq_error_iff {items : List Value} :
    readContracts items = .error e ↔ ∃ ps, FirstFaulty items ps ∧ e = .faulty ps := by
  induction items with
  | nil =>
    refine iff_of_false nofun ?_
    rintro ⟨ps, ⟨before, v, after, hitems, -⟩, -⟩
    exact absurd hitems (by simp)
  | cons v vs ih =>
    rw [readContracts]
    cases hread : Contract.read v with
    | faulty ps =>
      constructor
      · rintro ⟨⟩
        exact ⟨ps, ⟨[], v, vs, rfl, List.forall_mem_nil _, hread⟩, rfl⟩
      · rintro ⟨qs, ⟨before, u, after, hitems, hbefore, hfaulty⟩, rfl⟩
        cases before with
        | nil =>
          cases hitems
          cases hread.symm.trans hfaulty
          rfl
        | cons w before =>
          cases hitems
          obtain ⟨c, hc⟩ := hbefore v List.mem_cons_self
          cases hread.symm.trans hc
    | valid c =>
      have hmap : (readContracts vs).map (c :: ·) = .error e ↔ readContracts vs = .error e := by
        cases readContracts vs <;> simp [Except.map]
      refine hmap.trans (ih.trans (exists_congr fun ps => and_congr_left' ?_))
      constructor
      · rintro ⟨before, u, after, rfl, hbefore, hfaulty⟩
        exact ⟨v :: before, u, after, rfl, List.forall_mem_cons.mpr ⟨⟨c, hread⟩, hbefore⟩, hfaulty⟩
      · rintro ⟨before, u, after, hitems, hbefore, hfaulty⟩
        cases before with
        | nil =>
          cases hitems
          cases hread.symm.trans hfaulty
        | cons w before =>
          cases hitems
          exact ⟨before, u, after, rfl, (List.forall_mem_cons.mp hbefore).2, hfaulty⟩

/-- The value is an object with a list under the name of the types. -/
def ListsTypes (v : Value) (items : List Value) : Prop :=
  v.isObject = true ∧ ∃ types, v.get? "node_types" = some types ∧ types.opened = .arr items

theorem listsTypes_iff : ListsTypes v items ↔ (v.field "node_types").opened = .arr items := by
  rw [ListsTypes, Value.field]
  cases hget : v.get? "node_types" with
  | none =>
    refine iff_of_false ?_ Value.noConfusion
    rintro ⟨-, types, h, -⟩
    cases h
  | some types =>
    have hobject : v.isObject = true := by
      rw [Value.get?] at hget
      rw [Value.isObject]
      cases hv : v.opened with
      | obj fields => rfl
      | _ => simp [hv] at hget
    simp [hobject]

theorem ofPayload_of_listsTypes (h : ListsTypes v items) :
    ofPayload v = (readContracts items).bind ofContracts := by
  rw [ofPayload, listsTypes_iff.mp h]

theorem ofPayload_of_noList (h : ∀ items, ¬ ListsTypes v items) : ofPayload v = .error .noList := by
  unfold ofPayload
  split
  case h_1 items hitems => exact absurd (listsTypes_iff.mpr hitems) (h items)
  case h_2 => rfl

theorem ofPayload_eq_ok_iff :
    ofPayload v = .ok r ↔
      ∃ items cs, ListsTypes v items ∧ ReadAll items cs ∧ ofContracts cs = .ok r := by
  constructor
  · intro h
    by_cases hlist : ∃ items, ListsTypes v items
    · obtain ⟨items, hitems⟩ := hlist
      rw [ofPayload_of_listsTypes hitems] at h
      obtain ⟨cs, hread, hcs⟩ := exists_ok_of_bind h
      exact ⟨items, cs, hitems, readContracts_eq_ok_iff.mp hread, hcs⟩
    · rw [ofPayload_of_noList (not_exists.mp hlist)] at h
      cases h
  · rintro ⟨items, cs, hitems, hread, hcs⟩
    rw [ofPayload_of_listsTypes hitems, readContracts_eq_ok_iff.mpr hread]
    exact hcs

/-- A payload gives no registry because it has no list, because of the first item that is no contract, or,
when all of them are contracts, because of the first clash of two types. -/
inductive PayloadFault (v : Value) : RegistryError → Prop
  | noList : (∀ items, ¬ ListsTypes v items) → PayloadFault v .noList
  | faulty {items : List Value} {ps : List Problem} : ListsTypes v items → FirstFaulty items ps →
      PayloadFault v (.faulty ps)
  | duplicate {items : List Value} {cs : List Contract} {c : Contract} : ListsTypes v items →
      ReadAll items cs → FirstClash cs c → PayloadFault v (.duplicate c.type)

theorem ofPayload_eq_error_iff : ofPayload v = .error e ↔ PayloadFault v e := by
  constructor
  · intro h
    by_cases hlist : ∃ items, ListsTypes v items
    · obtain ⟨items, hitems⟩ := hlist
      rw [ofPayload_of_listsTypes hitems] at h
      cases hread : readContracts items with
      | error e' =>
        rw [hread] at h
        cases h
        obtain ⟨ps, hfirst, rfl⟩ := readContracts_eq_error_iff.mp hread
        exact .faulty hitems hfirst
      | ok cs =>
        rw [hread] at h
        obtain ⟨c, hclash, rfl⟩ := ofContracts_eq_error_iff.mp h
        exact .duplicate hitems (readContracts_eq_ok_iff.mp hread) hclash
    · rw [ofPayload_of_noList (not_exists.mp hlist)] at h
      cases h
      exact .noList (not_exists.mp hlist)
  · rintro (hlist | ⟨hitems, hfirst⟩ | ⟨hitems, hread, hclash⟩)
    · exact ofPayload_of_noList hlist
    · rw [ofPayload_of_listsTypes hitems, readContracts_eq_error_iff.mpr ⟨_, hfirst, rfl⟩]
      rfl
    · rw [ofPayload_of_listsTypes hitems, readContracts_eq_ok_iff.mpr hread]
      exact ofContracts_of_firstClash hclash

/-- **Contracts make a registry in bulk exactly if no two of them have one type**, and then it is the one
that the empty registry becomes when they are added one by one, in their order; otherwise the error names the
type of the first one whose type came before.  A payload makes a registry exactly if it has a list of types,
all of them are read as contracts, and these make one.  If some are not, the error is that of the first of
them, whether or not a type comes twice before it. -/
theorem ofContracts_ofPayload_iff (cs : List Contract) (v : Value) :
    ((∃ r, ofContracts cs = .ok r) ↔ (cs.map (·.type)).Nodup) ∧
      (∀ r, ofContracts cs = .ok r ↔ (cs.map (·.type)).Nodup ∧ r = cs.foldl withContract empty ∧
        r.contracts = cs.map fun c => (c.type, c)) ∧
      (∀ e, ofContracts cs = .error e ↔ ∃ c, FirstClash cs c ∧ e = .duplicate c.type ∧
        e.message = "duplicate node type in registry: " ++ c.type) ∧
      (∀ r, ofPayload v = .ok r ↔
        ∃ items cs, ListsTypes v items ∧ ReadAll items cs ∧ ofContracts cs = .ok r) ∧
      (∀ e, ofPayload v = .error e ↔ PayloadFault v e) := by
  refine ⟨?success, fun r => ?folded, fun e => ?clash, fun r => ofPayload_eq_ok_iff,
    fun e => ofPayload_eq_error_iff⟩
  case success =>
    simp only [ofContracts_eq_ok_iff, exists_and_left, exists_eq, and_true]
  case folded =>
    rw [ofContracts_eq_ok_iff]
    refine and_congr_right fun hnodup => ⟨?_, And.left⟩
    rintro rfl
    exact ⟨rfl, contracts_foldl_withContract hnodup⟩
  case clash =>
    rw [ofContracts_eq_error_iff]
    refine exists_congr fun c => and_congr_right fun _ => ⟨?_, And.left⟩
    rintro rfl
    exact ⟨rfl, rfl⟩

/-- Behind a type that comes twice, the item that is no contract is what is told about. -/
example :
    let news := Value.record [("type", .str "news_node"), ("category", .str "input")]
    ofPayload (.record [("node_types", .arr [news, news, .null])]) =
      .error (.faulty [⟨[], .notRecord "NodeTypeContract"⟩]) := by
  decide +kernel

end WorkflowCheck.Registry
