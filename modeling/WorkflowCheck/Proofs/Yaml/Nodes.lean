import WorkflowCheck.Proofs.Yaml.Tokens
import WorkflowCheck.Yaml.Content

/-!
# Nodes of JSON texts

The tokens of a value are read as nodes of a graph that hold it (`Holds`): a scalar by its tag, a collection by
its children, which come later in the table.  Nodes are only added to the table, and a collection is filled in
when its children are there; what a node holds does not change by that.
-/

namespace WorkflowCheck.Yaml

open Json (Plain)

/-! ### Graphs of values -/

/-- A scalar without an alias stands for a value. -/
inductive IsLeaf : Tag → String → Value → Prop
  | null : IsLeaf .null "null" .null
  | bool (b : Bool) : IsLeaf .truth (Json.boolText b) (.bool b)
  | str (s : String) : IsLeaf .text s (.str s)

/-- A place in a table of nodes holds a value.  Children come behind their parents; a field has the places of its key
and of its value. -/
inductive Holds (nodes : Array Node) : Nat → Value → Prop
  | leaf {p : Nat} {tag : Tag} {text : String} {v : Value} (hnode : nodes[p]? = some (.scalar tag text))
    (hleaf : IsLeaf tag text v) : Holds nodes p v
  | arr {p : Nat} {items : List (Nat × Value)} (hnode : nodes[p]? = some (.sequence .sequence (items.map (·.1))))
    (hlater : ∀ e ∈ items, p < e.1) (h : ∀ e ∈ items, Holds nodes e.1 e.2) : Holds nodes p (.arr (items.map (·.2)))
  | record {p : Nat} {fields : List ((Nat × Nat) × (String × Value))}
    (hnode : nodes[p]? = some (.mapping .mapping (fields.map (·.1)))) (hlater : ∀ f ∈ fields, p < f.1.1 ∧ p < f.1.2)
    (hnodup : (fields.map (·.2.1)).Nodup) (hkeys : ∀ f ∈ fields, nodes[f.1.1]? = some (.scalar .text f.2.1))
    (h : ∀ f ∈ fields, Holds nodes f.1.2 f.2.2) : Holds nodes p (.record (fields.map (·.2)))

/-- What a place holds depends on the nodes from there on. -/
theorem Holds.mono {nodes nodes' : Array Node} {p : Nat} {v : Value} (h : Holds nodes p v)
    (hsame : ∀ q n, p ≤ q → nodes[q]? = some n → nodes'[q]? = some n) : Holds nodes' p v := by
  induction h with
  | leaf hnode hleaf => exact .leaf (hsame _ _ (Nat.le_refl _) hnode) hleaf
  | arr hnode hlater _ ih =>
    refine .arr (hsame _ _ (Nat.le_refl _) hnode) hlater fun e he => ih e he fun q n hq => ?_
    exact hsame q n (Nat.le_trans (Nat.le_of_lt (hlater e he)) hq)
  | record hnode hlater hnodup hkeys _ ih =>
    refine .record (hsame _ _ (Nat.le_refl _) hnode) hlater hnodup (fun f hf => ?_) fun f hf => ih f hf fun q n hq => ?_
    · exact hsame _ _ (Nat.le_of_lt (hlater f hf).1) (hkeys f hf)
    · exact hsame q n (Nat.le_trans (Nat.le_of_lt (hlater f hf).2) hq)

theorem Holds.append {nodes : Array Node} {p : Nat} {v : Value} (h : Holds nodes p v) (more : Array Node) :
    Holds (nodes ++ more) p v :=
  h.mono fun q n _ hn => by
    rw [Array.getElem?_append_left (Array.getElem?_eq_some_iff.mp hn).1, hn]

/-! ### Filling in a node -/

section Filling

variable {nodes new : Array Node} {n n' : Node} {p : Nat}

theorem getElem?_filled (nodes new : Array Node) (n : Node) : (nodes ++ (#[n] ++ new))[nodes.size]? = some n := by
  rw [← Array.append_assoc, Array.getElem?_append_left (by simp)]
  simp

theorem getElem?_behind {m : Node} (hp : nodes.size < p) (h : (nodes.push n ++ new)[p]? = some m) :
    (nodes ++ (#[n'] ++ new))[p]? = some m := by
  have hpush : (nodes.push n).size ≤ p := by
    rw [Array.size_push]
    omega
  have hpush' : (nodes ++ #[n']).size ≤ p := by
    rw [Array.size_append]
    exact hp
  rw [Array.getElem?_append_right hpush, Array.size_push] at h
  rw [← Array.append_assoc, Array.getElem?_append_right hpush', Array.size_append]
  exact h

/-- What is held behind a node stays when that node is filled in. -/
theorem Holds.fill {v : Value} (h : Holds (nodes.push n ++ new) p v) (hp : nodes.size < p) :
    Holds (nodes ++ (#[n'] ++ new)) p v :=
  h.mono fun _ _ hq => getElem?_behind (Nat.lt_of_lt_of_le hp hq)

end Filling

/-- A step that gives a result goes on with it. -/
theorem run_bind_ok {σ α β : Type} {x : StateT σ (Except Fault) α} {s s' : σ} {a : α} (h : x.run s = .ok (a, s'))
    (f : α → StateT σ (Except Fault) β) : (x >>= f).run s = (f a).run s' := by
  rw [StateT.run_bind, h]
  rfl

/-- A source with other tokens left and another table. -/
def Source.moved (src : Source) (tokens : List Token) (nodes : Array Node) : Source :=
  { src with tokens, nodes }

namespace Parse

/-! ### Steps of reading -/

section Steps

variable {α β : Type} {src src' : Source} {t : Token} {more : List Token}

theorem run_peek (h : src.tokens = t :: more) : peek.run src = .ok (t, src) := by
  simp [peek, h]
  rfl

theorem run_skip (h : src.tokens = t :: more) : skip.run src = .ok ((), src.moved more src.nodes) := by
  simp [skip, h]
  rfl

theorem run_accept_self (h : src.tokens = t :: more) :
    (accept t).run src = .ok (true, src.moved more src.nodes) := by
  rw [accept, run_bind_ok (run_peek h), if_pos rfl, run_bind_ok (run_skip h)]
  rfl

theorem run_accept_ne {t' : Token} (h : src.tokens = t :: more) (ht : t ≠ t') :
    (accept t').run src = .ok (false, src) := by
  rw [accept, run_bind_ok (run_peek h), if_neg ht]
  rfl

theorem run_expect (h : src.tokens = t :: more) : (expect t).run src = .ok ((), src.moved more src.nodes) := by
  rw [expect, run_bind_ok (run_accept_self h)]
  rfl

/-- The tokens that a node without properties may start with here. -/
inductive IsFirst : Token → Prop
  | scalar (text : String) (plain : Bool) : IsFirst (.scalar text plain)
  | sequence : IsFirst .flowSequenceStart
  | mapping : IsFirst .flowMappingStart

theorem IsFirst.ne {t' : Token} (h : IsFirst t) (h' : ¬IsFirst t') : t ≠ t' := by
  rintro rfl
  exact h' h

theorem run_properties (h : src.tokens = t :: more) (ht : IsFirst t) :
    properties.run src = .ok ((none, none), src) := by
  have hanchor : anchor?.run src = .ok (none, src) := by
    rw [anchor?, run_bind_ok (run_peek h)]
    cases ht <;> rfl
  have htag : tag?.run src = .ok (none, src) := by
    rw [tag?, run_bind_ok (run_peek h)]
    cases ht <;> rfl
  rw [properties, run_bind_ok hanchor]
  dsimp only
  rw [run_bind_ok htag]
  rfl

theorem run_add (n : Node) : (add n).run src = .ok (src.nodes.size, src.moved src.tokens (src.nodes.push n)) :=
  rfl

end Steps

/-! ### One node -/

/-- What is read of a node from its first token on, once its place is in the table. -/
def readFrom (steps place : Nat) : Token → Parse Nat
  | .scalar text plain => do
    skip
    fill place (.scalar (scalarTag none text plain) text)
  | .flowSequenceStart => do
    skip
    fill place (.sequence .sequence (← inside (flowItems true steps)))
  | .flowMappingStart => do
    skip
    fill place (.mapping .mapping (← inside (flowEntries true steps)))
  | _ => fail

section Node

variable {src src' : Source} {t : Token} {more : List Token} {b u : Bool} {steps : Nat}

theorem run_node (h : src.tokens = t :: more) (ht : IsFirst t) :
    (node b u (steps + 1)).run src =
      (readFrom steps src.nodes.size t).run (src.moved (t :: more) (src.nodes.push .absent)) := by
  rw [node, run_bind_ok (run_peek h), ← h]
  cases ht
  all_goals
    dsimp only
    rw [run_bind_ok (run_properties h (by constructor))]
    dsimp only
    rw [run_bind_ok (run_peek h), define, run_bind_ok (run_add .absent)]
    rfl

/-- The node that was put in the table before others is filled in. -/
theorem run_fill (src : Source) (more : List Token) (new : Array Node) (n n' : Node) :
    (fill src.nodes.size n).run (src.moved more (src.nodes.push n' ++ new)) =
      .ok (src.nodes.size, src.moved more (src.nodes ++ (#[n] ++ new))) := by
  have hset : (src.nodes.push n' ++ new).setIfInBounds src.nodes.size n = src.nodes ++ (#[n] ++ new) := by
    apply Array.ext'
    simp
  show Except.ok (src.nodes.size, src.moved more ((src.nodes.push n' ++ new).setIfInBounds src.nodes.size n)) = _
  rw [hset]

theorem run_inside {α : Type} {read : Parse α} {a : α} {nodes : Array Node}
    (h : read.run { src with depth := src.depth + 1 } = .ok (a, { src with depth := src.depth + 1 }.moved more nodes))
    (hdepth : src.depth < maxDepth) : (inside read).run src = .ok (a, src.moved more nodes) := by
  have hget : (get : Parse Source).run src = .ok (src, src) := rfl
  have hmodify : ∀ (f : Source → Source) src, (modify f : Parse Unit).run src = .ok ((), f src) := fun _ _ => rfl
  rw [inside, run_bind_ok hget, if_neg (Nat.not_le.mpr hdepth)]
  dsimp only
  rw [run_bind_ok (hmodify _ src), run_bind_ok h]
  rfl

theorem run_node_scalar {text : String} {plain : Bool} (h : src.tokens = .scalar text plain :: more) :
    (node b u (steps + 1)).run src =
      .ok (src.nodes.size, src.moved more (src.nodes ++ #[.scalar (scalarTag none text plain) text])) := by
  have hadded : (src.moved (.scalar text plain :: more) (src.nodes.push .absent)).tokens =
      .scalar text plain :: more := rfl
  have hfill := run_fill src more #[] (.scalar (scalarTag none text plain) text) .absent
  rw [Array.append_empty, Array.append_empty] at hfill
  rw [run_node h (.scalar text plain), readFrom, run_bind_ok (run_skip hadded)]
  exact hfill

end Node

/-! ### Elements of collections -/

/-- Tokens of an element are read, in so many collections, as new nodes of which something holds. -/
structure Element {β : Type} (starts : Token → Prop) (read : Nat → Parse β) (P : Array Node → Nat → β → Prop) (d : Nat)
    (ts : List Token) : Prop where
  first : ∃ t more, ts = t :: more ∧ starts t
  run : ∀ {src : Source} {more : List Token} {steps : Nat}, src.tokens = ts ++ more → ts.length ≤ steps →
    src.depth + d ≤ maxDepth → ∃ new b,
      (read steps).run src = .ok (b, src.moved more (src.nodes ++ new)) ∧ P (src.nodes ++ new) src.nodes.size b

/-- An element and those behind it. -/
def oneMore {β : Type} (loop : Bool → Nat → Parse (List β)) (read : Nat → Parse β) (steps : Nat) : Parse (List β) := do
  let b ← read steps
  return b :: (← loop false steps)

/-- A loop reads elements with commas between them up to a token. -/
structure IsLoop {β : Type} (loop : Bool → Nat → Parse (List β)) (read : Nat → Parse β) (starts : Token → Prop)
    (stop : Token) : Prop where
  ends (first : Bool) {src : Source} {more : List Token} (steps : Nat) : src.tokens = stop :: more →
    (loop first (steps + 1)).run src = .ok ([], src.moved more src.nodes)
  first {src : Source} {t : Token} {more : List Token} (steps : Nat) : starts t → src.tokens = t :: more →
    (loop true (steps + 1)).run src = (oneMore loop read steps).run src
  other {src : Source} {t : Token} {more : List Token} (steps : Nat) : starts t → src.tokens = .flowEntry :: t :: more →
    (loop false (steps + 1)).run src = (oneMore loop read steps).run (src.moved (t :: more) src.nodes)

section Loops

variable {β γ : Type} {loop : Bool → Nat → Parse (List β)} {read : Nat → Parse β} {starts : Token → Prop} {stop : Token}
  {P : γ → Array Node → Nat → β → Prop} {tokens : γ → List Token} {d : Nat}

/-- What holds of an element stays when nodes are added, and holds from an earlier start on. -/
def Grows (P : γ → Array Node → Nat → β → Prop) : Prop :=
  ∀ a nodes new start start' b, start' ≤ start → P a nodes start b → P a (nodes ++ new) start' b

/-- The elements of a list were read as new nodes. -/
def Placed (P : γ → Array Node → Nat → β → Prop) (nodes : Array Node) (start : Nat) (bs : List β) (as : List γ) :
    Prop :=
  List.Forall₂ (fun b a => P a nodes start b) bs as

variable (hmono : Grows P)
include hmono

theorem run_oneMore {a : γ} {as : List γ} (ha : Element starts read (P a) d (tokens a)) {src : Source}
    {more rest : List Token} {steps : Nat} (htokens : src.tokens = tokens a ++ rest)
    (hsteps : (tokens a).length ≤ steps) (hdepth : src.depth + d ≤ maxDepth)
    (has : ∀ nodes : Array Node, ∃ new bs,
      (loop false steps).run (src.moved rest nodes) = .ok (bs, src.moved more (nodes ++ new)) ∧
        Placed P (nodes ++ new) nodes.size bs as) :
    ∃ new bs, (oneMore loop read steps).run src = .ok (bs, src.moved more (src.nodes ++ new)) ∧
      Placed P (src.nodes ++ new) src.nodes.size bs (a :: as) := by
  obtain ⟨new, b, hrun, hb⟩ := ha.run htokens hsteps hdepth
  obtain ⟨new', bs, hrun', hbs⟩ := has (src.nodes ++ new)
  refine ⟨new ++ new', b :: bs, ?_, ?_⟩
  · rw [oneMore, run_bind_ok hrun, run_bind_ok hrun', Array.append_assoc]
    rfl
  · have hsize : src.nodes.size ≤ (src.nodes ++ new).size := by
      rw [Array.size_append]
      exact Nat.le_add_right _ _
    rw [← Array.append_assoc]
    refine .cons (hmono a _ new' _ _ b (Nat.le_refl _) hb) (hbs.imp fun b a h => ?_)
    have hlater := hmono a _ #[] _ _ b hsize h
    rwa [Array.append_empty] at hlater

theorem IsLoop.others (hloop : IsLoop loop read starts stop) : ∀ (as : List γ),
    (∀ a ∈ as, Element starts read (P a) d (tokens a)) → ∀ {src : Source} {more : List Token} {steps : Nat},
      src.tokens = as.flatMap (fun a => .flowEntry :: tokens a) ++ stop :: more →
      (as.flatMap fun a => Token.flowEntry :: tokens a).length < steps → src.depth + d ≤ maxDepth →
      ∃ new bs, (loop false steps).run src = .ok (bs, src.moved more (src.nodes ++ new)) ∧
        Placed P (src.nodes ++ new) src.nodes.size bs as
  | [], _, src, more, steps, htokens, hsteps, _ => by
    obtain ⟨steps, rfl⟩ : ∃ k, steps = k + 1 := ⟨steps - 1, (Nat.sub_add_cancel hsteps).symm⟩
    refine ⟨#[], [], ?_, .nil⟩
    rw [hloop.ends false steps htokens, Array.append_empty]
  | a :: as, h, src, more, steps, htokens, hsteps, hdepth => by
    obtain ⟨ha, has⟩ := List.forall_mem_cons.mp h
    rw [List.flatMap_cons, List.append_assoc, List.cons_append] at htokens
    rw [List.flatMap_cons, List.length_append, List.length_cons] at hsteps
    obtain ⟨steps, rfl⟩ : ∃ k, steps = k + 1 := ⟨steps - 1, by omega⟩
    obtain ⟨t, ts, hts, ht⟩ := ha.first
    rw [hts, List.cons_append] at htokens
    have hread :
        (src.moved (t :: (ts ++ (as.flatMap (fun a => .flowEntry :: tokens a) ++ stop :: more))) src.nodes).tokens =
          tokens a ++ (as.flatMap (fun a => .flowEntry :: tokens a) ++ stop :: more) := by
      rw [hts]
      rfl
    rw [hloop.other steps ht htokens]
    refine run_oneMore hmono ha hread (by omega) hdepth fun nodes => ?_
    exact hloop.others as has rfl (by omega) hdepth

/-- All elements of a collection, up to its end. -/
theorem IsLoop.all (hloop : IsLoop loop read starts stop) {as : List γ}
    (h : ∀ a ∈ as, Element starts read (P a) d (tokens a)) {src : Source} {more : List Token} {steps : Nat}
    (htokens : src.tokens = separated (as.map tokens) ++ stop :: more)
    (hsteps : (separated (as.map tokens)).length < steps) (hdepth : src.depth + d ≤ maxDepth) :
    ∃ new bs, (loop true steps).run src = .ok (bs, src.moved more (src.nodes ++ new)) ∧
      Placed P (src.nodes ++ new) src.nodes.size bs as := by
  obtain ⟨steps, rfl⟩ : ∃ k, steps = k + 1 := ⟨steps - 1, by omega⟩
  cases as with
  | nil =>
    refine ⟨#[], [], ?_, .nil⟩
    rw [hloop.ends true steps htokens, Array.append_empty]
  | cons a as =>
    obtain ⟨ha, has⟩ := List.forall_mem_cons.mp h
    rw [List.map_cons, separated, List.flatMap_map] at htokens hsteps
    rw [List.append_assoc] at htokens
    rw [List.length_append] at hsteps
    obtain ⟨t, ts, hts, ht⟩ := ha.first
    have hlength : 0 < (tokens a).length := by
      rw [hts]
      exact Nat.succ_pos _
    obtain ⟨rest, hrest⟩ : ∃ rest, src.tokens = t :: rest := by
      rw [htokens, hts]
      exact ⟨_, rfl⟩
    rw [hloop.first steps ht hrest]
    refine run_oneMore hmono ha htokens (by omega) hdepth fun nodes => ?_
    exact hloop.others hmono as has rfl (by omega) hdepth

end Loops

/-! ### Values -/

section Values

variable {d : Nat} {ts : List Token} {v : Value}

/-- A place holds a value, and it is the given one. -/
def HoldsAt (v : Value) (nodes : Array Node) (start place : Nat) : Prop :=
  place = start ∧ Holds nodes place v

/-- A place that is not before a start holds a value. -/
def HoldsFrom (v : Value) (nodes : Array Node) (start place : Nat) : Prop :=
  start ≤ place ∧ Holds nodes place v

theorem grows_holdsFrom : Grows HoldsFrom :=
  fun _ _ new _ _ _ hstart h => ⟨hstart.trans h.1, h.2.append new⟩

/-- The tokens of a value are read as a new node that holds it, in so many collections. -/
def Parses (d : Nat) (ts : List Token) (v : Value) : Prop :=
  ∀ b u, Element IsFirst (node b u) (HoldsAt v) d ts

theorem Parses.item (h : Parses d ts v) : Element IsFirst (node false false) (HoldsFrom v) d ts where
  first := (h false false).first
  run htokens hsteps hdepth := by
    obtain ⟨new, p, hrun, hp, hholds⟩ := (h false false).run htokens hsteps hdepth
    exact ⟨new, p, hrun, hp.ge, hholds⟩

theorem parses_scalar {text : String} {plain : Bool} (h : IsLeaf (scalarTag none text plain) text v) :
    Parses d [.scalar text plain] v := by
  refine fun b u => ⟨⟨_, _, rfl, .scalar text plain⟩, ?_⟩
  intro src more steps htokens hsteps _
  obtain ⟨steps, rfl⟩ : ∃ k, steps = k + 1 := ⟨steps - 1, (Nat.sub_add_cancel hsteps).symm⟩
  exact ⟨_, _, run_node_scalar htokens, rfl, .leaf (by simp) h⟩

theorem isLoop_flowItems : IsLoop flowItems (node false false) IsFirst .flowSequenceEnd where
  ends first src more steps h := by
    rw [flowItems, run_bind_ok (run_accept_self h)]
    rfl
  first {src t more} steps ht h := by
    have hend : t ≠ .flowSequenceEnd := ht.ne nofun
    have hkey : t ≠ .key := ht.ne nofun
    rw [flowItems, run_bind_ok (run_accept_ne h hend), if_neg Bool.false_ne_true]
    dsimp only
    rw [if_pos rfl, run_bind_ok (run_accept_ne h hend), if_neg Bool.false_ne_true,
      run_bind_ok (run_accept_ne h hkey)]
    rfl
  other {src t more} steps ht h := by
    have hend : t ≠ .flowSequenceEnd := ht.ne nofun
    have hkey : t ≠ .key := ht.ne nofun
    have hcomma : (src.moved (t :: more) src.nodes).tokens = t :: more := rfl
    rw [flowItems, run_bind_ok (run_accept_ne h (by decide)), if_neg Bool.false_ne_true]
    dsimp only
    rw [if_neg Bool.false_ne_true, run_bind_ok (run_expect h), run_bind_ok (run_accept_ne hcomma hend),
      if_neg Bool.false_ne_true, run_bind_ok (run_accept_ne hcomma hkey)]
    rfl

/-- A key with its colon, and the value behind it. -/
def entry (steps : Nat) : Parse (Nat × Nat) := do
  let k ← nodeUnless [.value, .flowEntry, .flowMappingEnd] false false steps
  let v ← flowValue [.flowEntry, .flowMappingEnd] steps
  return (k, v)

/-- An entry from the token of its key on. -/
def keyedEntry (steps : Nat) : Parse (Nat × Nat) := do
  skip
  entry steps

theorem isLoop_flowEntries : IsLoop flowEntries keyedEntry (· = .key) .flowMappingEnd where
  ends first src more steps h := by
    rw [flowEntries, run_bind_ok (run_accept_self h)]
    rfl
  first {src t more} steps ht h := by
    subst ht
    rw [flowEntries, run_bind_ok (run_accept_ne h (by decide)), if_neg Bool.false_ne_true]
    dsimp only
    rw [if_pos rfl, run_bind_ok (run_accept_ne h (by decide)), if_neg Bool.false_ne_true,
      run_bind_ok (run_accept_self h), if_pos rfl]
    simp only [oneMore, keyedEntry, entry, bind_assoc, pure_bind]
    rw [run_bind_ok (run_skip h)]
  other {src t more} steps ht h := by
    subst ht
    have hcomma : (src.moved (.key :: more) src.nodes).tokens = .key :: more := rfl
    rw [flowEntries, run_bind_ok (run_accept_ne h (by decide)), if_neg Bool.false_ne_true]
    dsimp only
    rw [if_neg Bool.false_ne_true, run_bind_ok (run_expect h), run_bind_ok (run_accept_ne hcomma (by decide)),
      if_neg Bool.false_ne_true, run_bind_ok (run_accept_self hcomma), if_pos rfl]
    simp only [oneMore, keyedEntry, entry, bind_assoc, pure_bind]
    rw [run_bind_ok (run_skip hcomma)]

section Fields

variable {src : Source} {t : Token} {more : List Token} {b u : Bool} {steps : Nat} {name : String}

theorem run_nodeUnless {stops : List Token} (h : src.tokens = t :: more) (ht : IsFirst t)
    (hstops : ∀ t, IsFirst t → t ∉ stops) : (nodeUnless stops b u (steps + 1)).run src = (node b u steps).run src := by
  have hahead : (ahead stops).run src = .ok (false, src) := by
    have hnot : stops.contains t = false := by
      rw [List.contains_eq_mem, decide_eq_false_iff_not]
      exact hstops t ht
    rw [ahead, run_bind_ok (run_peek h), hnot]
    rfl
  rw [nodeUnless, run_bind_ok hahead]
  rfl

/-- A key and a value were read as new nodes. -/
def HoldsField (f : String × Value) (nodes : Array Node) (start : Nat) (e : Nat × Nat) : Prop :=
  (start ≤ e.1 ∧ start ≤ e.2) ∧ nodes[e.1]? = some (.scalar .text f.1) ∧ Holds nodes e.2 f.2

theorem grows_holdsField : Grows HoldsField := by
  rintro f nodes new start start' e hstart ⟨⟨hkey, hplace⟩, hnode, hholds⟩
  refine ⟨⟨hstart.trans hkey, hstart.trans hplace⟩, ?_, hholds.append new⟩
  rw [Array.getElem?_append_left (Array.getElem?_eq_some_iff.mp hnode).1, hnode]

theorem parses_field (h : Parses d ts v) :
    Element (· = .key) keyedEntry (HoldsField (name, v)) d (keyTokens name ++ ts) where
  first := ⟨_, _, rfl, rfl⟩
  run := by
    intro src more steps htokens hsteps hdepth
    rw [List.length_append] at hsteps
    have hlength : (keyTokens name).length = 3 := rfl
    obtain ⟨steps, rfl⟩ : ∃ k, steps = k + 2 := ⟨steps - 2, by omega⟩
    have hname : (nodeUnless [.value, .flowEntry, .flowMappingEnd] false false (steps + 2)).run
        (src.moved (.scalar name false :: .value :: (ts ++ more)) src.nodes) =
        .ok (src.nodes.size, src.moved (.value :: (ts ++ more)) (src.nodes ++ #[.scalar .text name])) := by
      have htoken : (src.moved (.scalar name false :: .value :: (ts ++ more)) src.nodes).tokens =
          .scalar name false :: .value :: (ts ++ more) := rfl
      rw [run_nodeUnless htoken (.scalar name false) (by rintro _ ⟨⟩ <;> simp)]
      exact run_node_scalar htoken
    have hcolon : (src.moved (.value :: (ts ++ more)) (src.nodes ++ #[.scalar .text name])).tokens =
        .value :: (ts ++ more) := rfl
    have hvalue : (src.moved (ts ++ more) (src.nodes ++ #[.scalar .text name])).tokens = ts ++ more := rfl
    obtain ⟨t, ts', hts, ht⟩ := (h false false).first
    obtain ⟨new, p, hrun, hp, hholds⟩ := (h false false).run hvalue (show ts.length ≤ steps by omega) hdepth
    have hfirst : (src.moved (ts ++ more) (src.nodes ++ #[.scalar .text name])).tokens = t :: (ts' ++ more) := by
      rw [hvalue, hts, List.cons_append]
    refine ⟨#[.scalar .text name] ++ new, (src.nodes.size, p), ?_, ?_⟩
    · rw [keyedEntry, run_bind_ok (run_skip htokens), entry, ← Array.append_assoc]
      have hread : (flowValue [.flowEntry, .flowMappingEnd] (steps + 2)).run
          (src.moved (.value :: (ts ++ more)) (src.nodes ++ #[.scalar .text name])) =
          .ok (p, src.moved more (src.nodes ++ #[.scalar .text name] ++ new)) := by
        rw [flowValue, run_bind_ok (run_accept_self hcolon), if_pos rfl]
        exact (run_nodeUnless hfirst ht (by rintro _ ⟨⟩ <;> simp)).trans hrun
      exact (run_bind_ok hname _).trans (run_bind_ok hread _)
    · have hlater : src.nodes.size ≤ p := by
        rw [hp]
        show src.nodes.size ≤ (src.nodes ++ #[_]).size
        rw [Array.size_append]
        exact Nat.le_add_right _ _
      rw [← Array.append_assoc]
      refine ⟨⟨Nat.le_refl _, hlater⟩, ?_, hholds⟩
      rw [Array.getElem?_append_left (by simp)]
      simp

end Fields

section Collections

variable {β γ : Type} {loop : Bool → Nat → Parse (List β)} {read : Nat → Parse β} {starts : Token → Prop}
  {start stop : Token} {P : γ → Array Node → Nat → β → Prop} {tokens : γ → List Token} {make : List β → Node}

/-- A collection is read as a node in front of those of its elements. -/
theorem run_collection (hloop : IsLoop loop read starts stop)
    (hmono : Grows P) (hfirst : IsFirst start)
    (hmake : ∀ steps place, readFrom steps place start = do
      skip
      fill place (make (← inside (loop true steps))))
    {as : List γ} (h : ∀ a ∈ as, Element starts read (P a) d (tokens a)) {src : Source} {more : List Token}
    {steps : Nat} {b u : Bool} (htokens : src.tokens = start :: (separated (as.map tokens) ++ [stop]) ++ more)
    (hsteps : (start :: (separated (as.map tokens) ++ [stop])).length ≤ steps)
    (hdepth : src.depth + (d + 1) ≤ maxDepth) :
    ∃ new bs, (node b u steps).run src = .ok (src.nodes.size, src.moved more (src.nodes ++ (#[make bs] ++ new))) ∧
      Placed P (src.nodes.push .absent ++ new) (src.nodes.size + 1) bs as := by
  rw [List.cons_append, List.append_assoc, List.singleton_append] at htokens
  rw [List.length_cons, List.length_append, List.length_singleton] at hsteps
  obtain ⟨steps, rfl⟩ : ∃ k, steps = k + 1 := ⟨steps - 1, by omega⟩
  have hadded : (src.moved (start :: (separated (as.map tokens) ++ stop :: more)) (src.nodes.push .absent)).tokens =
      start :: (separated (as.map tokens) ++ stop :: more) := rfl
  have hinside : ({ src.moved (separated (as.map tokens) ++ stop :: more) (src.nodes.push .absent) with
      depth := src.depth + 1 } : Source).tokens = separated (as.map tokens) ++ stop :: more := rfl
  obtain ⟨new, bs, hrun, hbs⟩ := hloop.all hmono h hinside (show _ < steps by omega)
    (show src.depth + 1 + d ≤ maxDepth by omega)
  have hread : (inside (loop true steps)).run
      (src.moved (separated (as.map tokens) ++ stop :: more) (src.nodes.push .absent)) =
      .ok (bs, src.moved more (src.nodes.push .absent ++ new)) :=
    run_inside hrun (show src.depth < maxDepth by omega)
  refine ⟨new, bs, ?_, ?_⟩
  · rw [run_node htokens hfirst, hmake, run_bind_ok (run_skip hadded)]
    exact (run_bind_ok hread _).trans (run_fill src more new (make bs) .absent)
  · rwa [← Array.size_push]

end Collections

theorem parses_arr {vs : List Value} {tokens : Value → List Token} (h : ∀ v ∈ vs, Parses d (tokens v) v) :
    Parses (d + 1) (.flowSequenceStart :: (separated (vs.map tokens) ++ [.flowSequenceEnd])) (.arr vs) := by
  refine fun b u => ⟨⟨_, _, rfl, .sequence⟩, ?_⟩
  intro src more steps htokens hsteps hdepth
  obtain ⟨new, places, hrun, hplaced⟩ := run_collection isLoop_flowItems grows_holdsFrom .sequence (fun _ _ => rfl)
    (fun v hv => (h v hv).item) htokens hsteps hdepth (b := b) (u := u)
  obtain ⟨hlength, hitems⟩ := List.forall₂_iff_zip.mp hplaced
  have hplaces : (places.zip vs).map (·.1) = places := List.map_fst_zip hlength.le
  have hvalues : (places.zip vs).map (·.2) = vs := List.map_snd_zip hlength.ge
  refine ⟨_, _, hrun, rfl, ?_⟩
  have hholds : Holds (src.nodes ++ (#[.sequence .sequence places] ++ new)) src.nodes.size
      (.arr ((places.zip vs).map (·.2))) := by
    refine .arr ?_ (fun e he => (hitems he).1) fun e he => (hitems he).2.fill (hitems he).1
    rw [hplaces, getElem?_filled]
  rwa [hvalues] at hholds

theorem parses_record {fs : List (String × Value)} {tokens : String × Value → List Token}
    (hnodup : (fs.map (·.1)).Nodup) (h : ∀ f ∈ fs, Parses d (tokens f) f.2) :
    Parses (d + 1) (.flowMappingStart :: (separated (fs.map fun f => keyTokens f.1 ++ tokens f) ++ [.flowMappingEnd]))
      (.record fs) := by
  refine fun b u => ⟨⟨_, _, rfl, .mapping⟩, ?_⟩
  intro src more steps htokens hsteps hdepth
  obtain ⟨new, entries, hrun, hplaced⟩ := run_collection isLoop_flowEntries grows_holdsField .mapping (fun _ _ => rfl)
    (fun f hf => parses_field (h f hf)) htokens hsteps hdepth (b := b) (u := u)
  obtain ⟨hlength, hfields⟩ := List.forall₂_iff_zip.mp hplaced
  have hentries : (entries.zip fs).map (·.1) = entries := List.map_fst_zip hlength.le
  have hvalues : (entries.zip fs).map (·.2) = fs := List.map_snd_zip hlength.ge
  refine ⟨_, _, hrun, rfl, ?_⟩
  have hholds : Holds (src.nodes ++ (#[.mapping .mapping entries] ++ new)) src.nodes.size
      (.record ((entries.zip fs).map (·.2))) := by
    refine .record ?_ (fun f hf => (hfields hf).1) ?_ (fun f hf => ?_) fun f hf =>
      (hfields hf).2.2.fill (hfields hf).1.2
    · rw [hentries, getElem?_filled]
    · have hnames : (entries.zip fs).map (·.2.1) = ((entries.zip fs).map (·.2)).map (·.1) := by rw [List.map_map]; rfl
      rwa [hnames, hvalues]
    · exact getElem?_behind (hfields hf).1.1 (hfields hf).2.1
  rwa [hvalues] at hholds

/-- The tokens of a value are read as a node that holds it. -/
theorem parses_valueTokens {text key : String → Prop} (h : Plain text key d v) : Parses d (valueTokens v) v := by
  induction h with
  | null d => exact parses_scalar .null
  | bool d b =>
    have htag : scalarTag none (Json.boolText b) true = .truth := by
      cases b <;> decide
    refine parses_scalar ?_
    rw [htag]
    exact .bool b
  | str d _ => exact parses_scalar (.str _)
  | arr _ ih =>
    rw [valueTokens, itemTokens_eq]
    exact parses_arr ih
  | record hnodup _ _ ih =>
    rw [Value.record, valueTokens, fieldTokens_eq]
    exact parses_record hnodup ih

/-! ### Documents -/

theorem run_document {src : Source} {steps : Nat} (h : Parses d ts v) (htokens : src.tokens = ts ++ [.textEnd])
    (hnodes : src.nodes = #[]) (hsteps : ts.length ≤ steps) (hdepth : src.depth + d ≤ maxDepth) :
    ∃ src', (document steps).run src = .ok (0, src') ∧ Holds src'.nodes 0 v := by
  obtain ⟨t, more, hts, ht⟩ := (h true false).first
  have hfirst : src.tokens = t :: (more ++ [.textEnd]) := by
    rw [htokens, hts, List.cons_append]
  have hbare : ¬((isDirective t || t = .documentStart) = true) ∧ t ≠ .textEnd := by
    cases ht <;> simp [isDirective]
  obtain ⟨steps, rfl⟩ : ∃ k, steps = k + 1 := ⟨steps - 1, by rw [hts, List.length_cons] at hsteps; omega⟩
  obtain ⟨src', hhandles, htokens', hnodes', hdepth'⟩ : ∃ src', addStandardHandles.run src = .ok ((), src') ∧
      src'.tokens = ts ++ [.textEnd] ∧ src'.nodes = #[] ∧ src'.depth + d ≤ maxDepth :=
    ⟨_, rfl, htokens, hnodes, hdepth⟩
  obtain ⟨new, p, hrun, rfl, hholds⟩ := (h true false).run htokens' hsteps hdepth'
  have hend : (src'.moved [.textEnd] (src'.nodes ++ new)).tokens = [.textEnd] := rfl
  rw [hnodes'] at hrun hholds hend
  refine ⟨src'.moved [.textEnd] (#[] ++ new), ?_, hholds⟩
  rw [document, run_bind_ok (run_peek hfirst), if_neg hbare.1, if_neg hbare.2]
  have hends : (documentEnds (steps + 1)).run (src'.moved [.textEnd] (#[] ++ new)) =
      .ok ((), src'.moved [.textEnd] (#[] ++ new)) := by
    rw [documentEnds, run_bind_ok (run_accept_ne hend (by decide))]
    rfl
  dsimp only
  rw [run_bind_ok hhandles, run_bind_ok hrun, run_bind_ok hends, run_bind_ok (run_peek hend), if_pos rfl]
  rfl

end Values

end Parse

/-- A text that is cut into the tokens of a value is read as a graph whose root holds the value. -/
theorem graph_read {cs : List Char} {ts : List Token} {d : Nat} {v : Value}
    (hlex : Token.lex cs none = ⟨ts ++ [.textEnd], none⟩) (h : Parse.Parses d ts v) (hdepth : d ≤ Parse.maxDepth) :
    ∃ g, Graph.read cs none = .ok g ∧ Holds g.nodes g.root v := by
  have htokens : ({ tokens := ts ++ [.textEnd], fault := none } : Source).tokens = ts ++ [.textEnd] := rfl
  have hsteps : ts.length ≤ 4 * (ts ++ [Token.textEnd]).length + 16 := by
    rw [List.length_append]
    omega
  obtain ⟨src, hrun, hholds⟩ := Parse.run_document h htokens rfl hsteps (by rwa [Nat.zero_add])
  refine ⟨⟨src.nodes, 0⟩, ?_, hholds⟩
  rw [Graph.read, hlex]
  dsimp only
  rw [hrun]
  rfl

end WorkflowCheck.Yaml
