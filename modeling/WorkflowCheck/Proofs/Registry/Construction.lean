import Mathlib.Data.List.Nodup
import WorkflowCheck.Proofs.Decode.ReadBack
import WorkflowCheck.Registry.Builtin

/-!
# How registries are made

A registry is made in one of five ways (`Maker`), two of which can fail, and a program makes one after the
other.  Whatever it makes is sound (`Registry.Sound`): it lists every type once, answers for the types that it
lists, each by a contract of that type, and holds only contracts that keep the rules about inputs.  What holds of the
empty registry and is kept when a contract comes in holds of all that are made (`Registry.Invariant`).  No
registry changes once it is made, and one more contract is seen under its own type only (`made_sound`).
-/

namespace WorkflowCheck

open Decode

/-! ### Results that are no errors -/

section Results

variable {ε α β : Type}

theorem exists_ok_of_bind {x : Except ε α} {f : α → Except ε β} {b : β} (h : x.bind f = .ok b) :
    ∃ a, x = .ok a ∧ f a = .ok b := by
  cases x with
  | error e => cases h
  | ok a => exact ⟨a, rfl, h⟩

theorem exists_ok_of_map {x : Except ε α} {f : α → β} {b : β} (h : x.map f = .ok b) :
    ∃ a, x = .ok a ∧ f a = b := by
  cases x with
  | error e => cases h
  | ok a => exact ⟨a, rfl, Except.ok.inj h⟩

theorem eq_ok_of_toOption {x : Except ε α} {a : α} (h : x.toOption = some a) : x = .ok a := by
  cases x with
  | error e => cases h
  | ok a' => exact congrArg Except.ok (Option.some.inj h)

end Results

/-! ### The contracts that can be read -/

/-- A contract that keeps the rules: it has a type, no input is both required and optional, and the input
that lists further ones is declared. -/
structure Contract.Sound (c : Contract) : Prop where
  typed : c.type ≠ ""
  disjoint : c.requiredInputs.Disjoint c.optionalInputs
  dynamic : ∀ name, c.dynamicField = some name → name = "" ∨ name ∈ c.declaredInputs

namespace Contract

theorem dynamicName?_of_ne {c : Contract} {name : String} (h : c.dynamicField = some name)
    (hname : name ≠ "") : c.dynamicName? = some name := by
  have hfilled : (!name.isEmpty) = true := by simpa [String.isEmpty_iff] using hname
  rw [dynamicName?, h, Option.filter_some, if_pos hfilled]

theorem brokenRule?_eq_none_iff {c : Contract} :
    c.brokenRule? = none ↔
      c.requiredInputs.Disjoint c.optionalInputs ∧
        ∀ name, c.dynamicName? = some name → name ∈ c.declaredInputs := by
  have hdisjoint : (c.requiredInputs.filter (· ∈ c.optionalInputs)).isEmpty = true ↔
      c.requiredInputs.Disjoint c.optionalInputs := by
    simp [List.Disjoint, List.filter_eq_nil_iff]
  rw [← hdisjoint, brokenRule?]
  by_cases hboth : (c.requiredInputs.filter (· ∈ c.optionalInputs)).isEmpty = true
  · simp only [hboth, if_true, true_and]
    cases c.dynamicName? with
    | none => simp
    | some name => simp
  · refine iff_of_false ?_ fun h => hboth h.1
    simp only [hboth]
    exact nofun

theorem sound_of_brokenRule? {c : Contract} (htype : c.type ≠ "") (hrule : c.brokenRule? = none) :
    c.Sound := by
  obtain ⟨hdisjoint, hdynamic⟩ := brokenRule?_eq_none_iff.mp hrule
  refine ⟨htype, hdisjoint, fun name hname => ?_⟩
  by_cases hempty : name = ""
  · exact .inl hempty
  · exact .inr (hdynamic name (dynamicName?_of_ne hname hempty))

/-- Whatever is read as a contract has a type that is a filled text, and breaks no rule. -/
theorem ensures_read_filled (v : Value) :
    (read v).Ensures fun c => IsFilled c.type ∧ c.brokenRule? = none := by
  refine ensures_record (.andThen (P := fun c => IsFilled c.type) ?fields fun c hc => ?rules)
  case fields =>
    exact .seq (.seq (.seq (.seq (.seq (.seq (.map fun _ htype _ _ _ _ _ _ =>
      ensures_required ensures_filledText _ htype))))))
  case rules =>
    intro c' hc'
    cases hrule : c.brokenRule? with
    | some rule => simp [hrule, Checked.fault] at hc'
    | none =>
      rw [hrule] at hc'
      cases hc'
      exact ⟨hc, hrule⟩

theorem ensures_read (v : Value) : (read v).Ensures Sound := fun c hc =>
  have hkept := ensures_read_filled v c hc
  sound_of_brokenRule? hkept.1.1 hkept.2

end Contract

/-- A contract that was read from a value. -/
abbrev ReadContract : Type :=
  {c : Contract // ∃ v, Contract.read v = .valid c}

/-! ### Sound registries -/

namespace Registry

variable {r r' : Registry}

/-- A registry that lists every type once, has a contract of its own for each type that it lists and for no
other one, and holds only contracts that keep the rules. -/
structure Sound (r : Registry) : Prop where
  nodup : r.types.Nodup
  length : r.types.length = r.size
  contains_iff : ∀ type, r.contains type = true ↔ type ∈ r.types
  listed_iff : ∀ type, type ∈ r.types ↔ ∃ c, r.get? type = some c
  typed : ∀ type c, r.get? type = some c → c.type = type
  stored : ∀ e ∈ r.contracts, e.2.Sound

/-- All the rest follows when no type comes twice and what is found is right. -/
theorem Sound.of_get? (hnodup : r.types.Nodup)
    (hfound : ∀ type c, r.get? type = some c → c.type = type ∧ c.Sound) : r.Sound where
  nodup := hnodup
  length := List.length_map _
  contains_iff type := (Table.mem_keys_iff type r.contracts).symm
  listed_iff type := (Table.mem_keys_iff type r.contracts).trans Option.isSome_iff_exists
  typed type c hc := (hfound type c hc).1
  stored e he := (hfound e.1 e.2 (Table.get?_of_mem hnodup he)).2

theorem Sound.found (h : r.Sound) {type : String} {c : Contract} (hc : r.get? type = some c) : c.Sound := by
  obtain ⟨e, he, rfl⟩ := List.mem_map.mp ((h.listed_iff type).mpr ⟨c, hc⟩)
  have hentry : r.get? e.1 = some e.2 := Table.get?_of_mem h.nodup he
  cases hc.symm.trans hentry
  exact h.stored e he

theorem get?_withContract (r : Registry) (c : Contract) (type : String) :
    (r.withContract c).get? type = if type = c.type then some c else r.get? type := by
  split
  case isTrue heq =>
    subst heq
    exact Table.get?_alter_self _ _ _
  case isFalse hne => exact Table.get?_alter_of_ne (Ne.symm hne) _ _

theorem types_withContract (r : Registry) (c : Contract) :
    (r.withContract c).types = if c.type ∈ r.types then r.types else r.types ++ [c.type] :=
  Table.keys_alter _ _ _

theorem sound_empty : empty.Sound :=
  .of_get? List.nodup_nil nofun

theorem Sound.withContract (h : r.Sound) {c : Contract} (hc : c.Sound) : (r.withContract c).Sound := by
  refine .of_get? ?nodup fun type c' hc' => ?found
  case nodup =>
    rw [types_withContract]
    split
    case isTrue => exact h.nodup
    case isFalse hnew =>
      rw [← List.concat_eq_append]
      exact List.Nodup.concat hnew h.nodup
  case found =>
    rw [get?_withContract] at hc'
    split at hc'
    case isTrue htype =>
      cases hc'
      exact ⟨htype.symm, hc⟩
    case isFalse => exact ⟨h.typed type c' hc', h.found hc'⟩

/-- The built-in registry is the one of the built-in contracts: their types differ. -/
theorem ofContracts_builtinContracts : ofContracts builtinContracts = .ok builtin :=
  rfl

theorem builtinContracts_filled : ∀ c ∈ builtinContracts, IsFilled c.type ∧ c.brokenRule? = none := by
  unfold IsFilled
  decide

/-! ### What all registries have -/

/-- The empty registry has a property, and keeps it when contracts of some kind come in, one by one; all
contracts that are read are of that kind, and so are the built-in ones. -/
structure Invariant (I : Registry → Prop) (P : Contract → Prop) : Prop where
  empty : I Registry.empty
  withContract : ∀ {r : Registry} {c : Contract}, I r → P c → I (r.withContract c)
  read : ∀ v, (Contract.read v).Ensures P
  builtinContracts : ∀ c ∈ Registry.builtinContracts, P c

namespace Invariant

variable {I : Registry → Prop} {P : Contract → Prop}

theorem add (h : Invariant I P) {c : Contract} (hr : I r) (hc : P c) (hr' : r.add c = .ok r') : I r' := by
  rw [Registry.add] at hr'
  split at hr'
  case isTrue => cases hr'
  case isFalse =>
    cases hr'
    exact h.withContract hr hc

theorem foldlM_add (h : Invariant I P) :
    ∀ {cs : List Contract} {r r' : Registry},
      I r → (∀ c ∈ cs, P c) → cs.foldlM Registry.add r = .ok r' → I r'
  | [], _, _, hr, _, hr' => by
    cases hr'
    exact hr
  | c :: cs, r, _, hr, hcs, hr' => by
    obtain ⟨hc, hcs⟩ := List.forall_mem_cons.mp hcs
    rw [List.foldlM_cons] at hr'
    obtain ⟨next, hadd, hrest⟩ := exists_ok_of_bind hr'
    exact h.foldlM_add (h.add hr hc hadd) hcs hrest

theorem ofContracts (h : Invariant I P) {cs : List Contract} (hcs : ∀ c ∈ cs, P c)
    (hr : Registry.ofContracts cs = .ok r) : I r :=
  h.foldlM_add h.empty hcs hr

theorem readContracts (h : Invariant I P) :
    ∀ {vs : List Value} {cs : List Contract}, Registry.readContracts vs = .ok cs → ∀ c ∈ cs, P c
  | [], _, hcs => by
    cases hcs
    exact List.forall_mem_nil _
  | v :: vs, _, hcs => by
    rw [Registry.readContracts] at hcs
    cases hread : Contract.read v with
    | faulty ps =>
      rw [hread] at hcs
      cases hcs
    | valid c =>
      rw [hread] at hcs
      obtain ⟨rest, hrest, rfl⟩ := exists_ok_of_map hcs
      exact List.forall_mem_cons.mpr ⟨h.read v c hread, h.readContracts hrest⟩

theorem ofPayload (h : Invariant I P) {v : Value} (hr : Registry.ofPayload v = .ok r) : I r := by
  unfold Registry.ofPayload at hr
  split at hr
  case h_1 =>
    obtain ⟨cs, hread, hcs⟩ := exists_ok_of_bind hr
    exact h.ofContracts (h.readContracts hread) hcs
  case h_2 => cases hr

theorem builtin (h : Invariant I P) : I Registry.builtin :=
  h.ofContracts h.builtinContracts ofContracts_builtinContracts

theorem readContract (h : Invariant I P) (c : ReadContract) : P c.val :=
  let ⟨v, hv⟩ := c.property
  h.read v _ hv

end Invariant

theorem invariant_sound : Invariant Sound Contract.Sound where
  empty := sound_empty
  withContract hr hc := hr.withContract hc
  read := Contract.ensures_read
  builtinContracts c hc :=
    have hkept := builtinContracts_filled c hc
    Contract.sound_of_brokenRule? hkept.1.1 hkept.2

/-! ### Making one registry after the other -/

/-- A way to make a registry, from contracts that were read and from the registries made so far. -/
inductive Maker where
  | empty
  | builtin
  | contracts (cs : List ReadContract)
  | payload (v : Value)
  /-- The registry at a place among those made so far, with one more contract. -/
  | extended (place : Nat) (c : ReadContract)

/-- The registry that is made, if the contracts and the payload are right and there is one to extend. -/
def Maker.result? (sofar : List Registry) : Maker → Option Registry
  | .empty => some Registry.empty
  | .builtin => some Registry.builtin
  | .contracts cs => (ofContracts (cs.map (·.val))).toOption
  | .payload v => (ofPayload v).toOption
  | .extended place c => sofar[place]?.map (·.withContract c.val)

/-- The registries made so far, and the next one; there is none when it fails. -/
def Maker.after (sofar : List Registry) (m : Maker) : List Registry :=
  sofar ++ (m.result? sofar).toList

/-- All registries that are made, in order. -/
def made (makers : List Maker) : List Registry :=
  makers.foldl Maker.after []

namespace Invariant

variable {I : Registry → Prop} {P : Contract → Prop} {sofar : List Registry}

theorem result? (h : Invariant I P) (hsofar : ∀ r ∈ sofar, I r) {m : Maker} (hr : m.result? sofar = some r) :
    I r := by
  cases m with
  | empty =>
    cases hr
    exact h.empty
  | builtin =>
    cases hr
    exact h.builtin
  | contracts cs =>
    exact h.ofContracts (List.forall_mem_map.mpr fun c _ => h.readContract c) (eq_ok_of_toOption hr)
  | payload v => exact h.ofPayload (eq_ok_of_toOption hr)
  | extended place c =>
    obtain ⟨old, hold, rfl⟩ := Option.map_eq_some_iff.mp hr
    exact h.withContract (hsofar old (List.mem_of_getElem? hold)) (h.readContract c)

theorem after (h : Invariant I P) (hsofar : ∀ r ∈ sofar, I r) (m : Maker) : ∀ r ∈ m.after sofar, I r := by
  intro r hr
  rcases List.mem_append.mp hr with hr | hr
  · exact hsofar r hr
  · exact h.result? hsofar (Option.mem_toList.mp hr)

theorem foldl (h : Invariant I P) :
    ∀ (makers : List Maker) {sofar : List Registry},
      (∀ r ∈ sofar, I r) → ∀ r ∈ makers.foldl Maker.after sofar, I r
  | [], _, hsofar => hsofar
  | m :: makers, _, hsofar => h.foldl makers (h.after hsofar m)

/-- Whatever is made has the property, since each maker keeps it. -/
theorem made (h : Invariant I P) (makers : List Maker) : ∀ r ∈ made makers, I r :=
  h.foldl makers (List.forall_mem_nil _)

end Invariant

theorem Maker.prefix_foldl :
    ∀ (makers : List Maker) (sofar : List Registry), sofar <+: makers.foldl after sofar
  | [], _ => List.prefix_rfl
  | m :: makers, sofar => (List.prefix_append sofar _).trans (prefix_foldl makers (m.after sofar))

/-- **Every registry that can be made is sound**, whatever is made before it and whichever attempts fail.
What is made later leaves it at its place as it is.  With one more contract there is a further registry, which
answers with that contract for its type and as before for all others; the type keeps its place if it was
listed, and else comes last. -/
theorem made_sound (makers : List Maker) :
    (∀ r ∈ made makers, r.Sound) ∧
      (∀ later, made makers <+: made (makers ++ later)) ∧
      ∀ (place : Nat) (r : Registry) (c : ReadContract), (made makers)[place]? = some r →
        ∃ r', made (makers ++ [.extended place c]) = made makers ++ [r'] ∧
          (∀ type, r'.get? type = if type = c.val.type then some c.val else r.get? type) ∧
          r'.types = if c.val.type ∈ r.types then r.types else r.types ++ [c.val.type] := by
  refine ⟨invariant_sound.made makers, fun later => ?unchanged,
    fun place r c hr => ?extended⟩
  case unchanged =>
    rw [made, made, List.foldl_append]
    exact Maker.prefix_foldl later _
  case extended =>
    refine ⟨r.withContract c.val, ?_, get?_withContract r c.val, types_withContract r c.val⟩
    rw [made, List.foldl_append, List.foldl_cons, List.foldl_nil, ← made, Maker.after, Maker.result?, hr,
      Option.map_some, Option.toList_some]

/-- The contract of a source of news, as it is read. -/
def newsContract : ReadContract :=
  ⟨⟨"news_node", .input, "", ["topic"], [], ["items"], some "topic"⟩,
    .record
      [("type", .str "news_node"), ("category", .str "input"), ("required_inputs", .arr [.str "topic"]),
        ("outputs", .arr [.str "items"]), ("dynamic_inputs_field", .str "topic")],
    rfl⟩

/-- One registry, two attempts that fail (a payload that is no object, one type twice), and one more
registry. -/
def newsMakers : List Maker :=
  [.builtin, .payload (.int 0), .contracts [newsContract, newsContract], .extended 0 newsContract]

theorem newsMakers_sound :
    (made newsMakers).length = 2 ∧ (∀ r ∈ made newsMakers, r.Sound) ∧
      (made newsMakers)[0]? = some builtin ∧
      ∃ r, (made newsMakers)[1]? = some r ∧ r.get? "news_node" = some newsContract.val ∧
        r.types = builtin.types ++ ["news_node"] := by
  have hfirst : made [.builtin, .payload (.int 0), .contracts [newsContract, newsContract]] = [builtin] := rfl
  obtain ⟨-, -, hextended⟩ :=
    made_sound [.builtin, .payload (.int 0), .contracts [newsContract, newsContract]]
  obtain ⟨r, hr, hget, htypes⟩ := hextended 0 builtin newsContract (by rw [hfirst]; rfl)
  have hmade : made newsMakers = [builtin, r] := hr.trans (congrArg (· ++ [r]) hfirst)
  refine ⟨?_, (made_sound newsMakers).1, ?_, r, ?_, ?_, ?_⟩
  · rw [hmade]
    rfl
  · rw [hmade]
    rfl
  · rw [hmade]
    rfl
  · exact (hget "news_node").trans (if_pos rfl)
  · exact htypes.trans (if_neg (by decide))

end Registry

end WorkflowCheck
