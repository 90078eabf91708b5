import WorkflowCheck.Proofs.Value.Same
import WorkflowCheck.Proofs.Yaml.Nodes

/-!
# Contents of nodes that hold values

The nodes of a graph that hold values are taken up without a fault, and each is given what stands in the graph
(`contentOf`).  While they are, a collection that has been met waits for its children, and every other node that is
taken up has its content already and children that are taken up (`Filled`).  The collections of a round are nested
more deeply than those of the round before, so none is left in the end (`Graph.contents_of_holds`).
-/

namespace WorkflowCheck.Yaml

/-! ### What stands in a graph -/

namespace Graph

/-- A place holds some value. -/
def Sound (g : Graph) (p : Nat) : Prop :=
  ∃ v, Holds g.nodes p v

/-- The key that a scalar is. -/
def keyOf (g : Graph) (p : Nat) : Key :=
  match g.node p with
  | .scalar _ text => .str text
  | _ => .null

/-- The children of a mapping by their keys. -/
def fieldsOf (g : Graph) (entries : List Entry) : Table Key Nat :=
  entries.map fun e => (g.keyOf e.1, e.2)

/-- What is recorded of a place. -/
def contentOf (g : Graph) (p : Nat) : Content :=
  match g.node p with
  | .scalar tag text => .leaf ((Tagged.value tag text).toOption.getD .null)
  | .sequence _ items => .items items
  | .mapping _ entries => .fields (g.fieldsOf entries)

/-- The children of a place, keys apart. -/
def children (g : Graph) (p : Nat) : List Nat :=
  match g.node p with
  | .scalar _ _ => []
  | .sequence _ items => items
  | .mapping _ entries => entries.map (·.2)

/-- The nodes that places of values have: scalars, and collections of later places of values.  Keys are texts, each
of which comes once. -/
inductive Shaped (g : Graph) (p : Nat) : Node → Prop
  | leaf {tag : Tag} {text : String} {v : Value} (h : IsLeaf tag text v) : Shaped g p (.scalar tag text)
  | sequence {items : List Nat} (h : ∀ q ∈ items, p < q ∧ g.Sound q) : Shaped g p (.sequence .sequence items)
  | mapping {entries : List Entry} (hkeys : ∀ e ∈ entries, p < e.1 ∧ ∃ name, g.nodes[e.1]? = some (.scalar .text name))
    (hvalues : ∀ e ∈ entries, p < e.2 ∧ g.Sound e.2) (hnodup : (g.fieldsOf entries).keys.Nodup) :
    Shaped g p (.mapping .mapping entries)

section Sound

variable {g : Graph} {p : Nat} {n : Node}

theorem node_eq (h : g.nodes[p]? = some n) : g.node p = n := by
  rw [node, Array.getD_eq_getD_getElem?, h]
  rfl

theorem lt_size_of_node (h : g.nodes[p]? = some n) : p < g.nodes.size :=
  (Array.getElem?_eq_some_iff.mp h).1

theorem Sound.lt_size (h : g.Sound p) : p < g.nodes.size := by
  obtain ⟨v, hv⟩ := h
  cases hv with
  | leaf hnode => exact lt_size_of_node hnode
  | arr hnode => exact lt_size_of_node hnode
  | record hnode => exact lt_size_of_node hnode

theorem Sound.shaped (h : g.Sound p) : g.Shaped p (g.node p) := by
  obtain ⟨v, hv⟩ := h
  cases hv with
  | leaf hnode hleaf =>
    rw [node_eq hnode]
    exact .leaf hleaf
  | arr hnode hlater hitems =>
    rw [node_eq hnode]
    refine .sequence fun q hq => ?_
    obtain ⟨e, he, rfl⟩ := List.mem_map.mp hq
    exact ⟨hlater e he, _, hitems e he⟩
  | @record _ fields hnode hlater hnodup hkeys hfields =>
    have hkeys' : (g.fieldsOf (fields.map (·.1))).keys = (fields.map (·.2.1)).map Key.str := by
      rw [fieldsOf, Table.keys, List.map_map, List.map_map, List.map_map]
      refine List.map_congr_left fun f hf => ?_
      show g.keyOf f.1.1 = .str f.2.1
      rw [keyOf, node_eq (hkeys f hf)]
    rw [node_eq hnode]
    refine .mapping (fun e he => ?_) (fun e he => ?_) ?_
    · obtain ⟨f, hf, rfl⟩ := List.mem_map.mp he
      exact ⟨(hlater f hf).1, _, hkeys f hf⟩
    · obtain ⟨f, hf, rfl⟩ := List.mem_map.mp he
      exact ⟨(hlater f hf).2, _, hfields f hf⟩
    · rw [hkeys']
      exact hnodup.map fun _ _ => Key.str.inj

end Sound

end Graph

theorem IsLeaf.value {tag : Tag} {text : String} {v : Value} (h : IsLeaf tag text v) :
    Tagged.value tag text = .ok v := by
  cases h with
  | null => rfl
  | bool b => cases b <;> rfl
  | str s => rfl

theorem Graph.contentOf_leaf {g : Graph} {p : Nat} {tag : Tag} {text : String} {v : Value}
    (hnode : g.node p = .scalar tag text) (h : IsLeaf tag text v) : g.contentOf p = .leaf v := by
  rw [contentOf, hnode]
  show Content.leaf ((Tagged.value tag text).toOption.getD .null) = .leaf v
  rw [h.value]
  rfl

/-! ### Taking up nodes -/

/-- A node is taken up. -/
def IsTaken (contents : Array (Option Content)) (p : Nat) : Prop :=
  (contents.getD p none).isSome = true

/-- Every node that is taken up has the content that stands in the graph and children that are taken up, but for
collections in a queue. -/
def Graph.Fits (g : Graph) (contents : Array (Option Content)) (queue : List Nat) : Prop :=
  ∀ p c, contents.getD p none = some c →
    (c = g.contentOf p ∧ ∀ q ∈ g.children p, IsTaken contents q) ∨ (c = .pending ∧ p ∈ queue)

/-- What is taken up stays so. -/
def Filling.Within (s s' : Filling) : Prop :=
  ∀ p, IsTaken s.contents p → IsTaken s'.contents p

/-- The nodes that are taken up fit the graph.  Some collections wait to be looked at in this round, and the others that
were met, which have not so few nodes before them, in the next one. -/
structure Filled (g : Graph) (k : Nat) (waiting : List Nat) (s : Filling) : Prop where
  graph : s.graph = g
  steps : s.mergeSteps ≠ 0
  size : s.contents.size = g.nodes.size
  queued : ∀ p ∈ waiting ++ s.met, g.Sound p ∧ (g.node p).tag.isCollection = true
  deep : ∀ p ∈ s.met, k ≤ p
  fits : g.Fits s.contents (waiting ++ s.met)

/-- A step gives a result without a fault; it keeps to the rules, and what was taken up. -/
structure Fills {α : Type} (g : Graph) (k : Nat) (waiting : List Nat) (x : Fill α) (a : α) (s s' : Filling) : Prop where
  run : x.run s = .ok (a, s')
  filled : Filled g k waiting s'
  within : s.Within s'

/-- A filling with the content of a node. -/
def Filling.recorded (s : Filling) (p : Nat) (c : Content) : Filling :=
  { s with contents := s.contents.setIfInBounds p (some c) }

section Steps

variable {g : Graph} {k p : Nat} {waiting waiting' : List Nat} {s s' s'' : Filling} {c : Content}

theorem Filling.Within.trans (h : s.Within s') (h' : s'.Within s'') : s.Within s'' :=
  fun p hp => h' p (h p hp)

theorem getD_recorded_self (hp : p < s.contents.size) : (s.recorded p c).contents.getD p none = some c := by
  rw [Filling.recorded, Array.getD_eq_getD_getElem?, Array.getElem?_setIfInBounds_self_of_lt hp]
  rfl

theorem getD_recorded_of_ne {q : Nat} (hq : q ≠ p) :
    (s.recorded p c).contents.getD q none = s.contents.getD q none := by
  rw [Filling.recorded, Array.getD_eq_getD_getElem?, Array.getElem?_setIfInBounds_ne hq.symm,
    Array.getD_eq_getD_getElem?]

theorem isTaken_recorded (hp : p < s.contents.size) : IsTaken (s.recorded p c).contents p := by
  rw [IsTaken, getD_recorded_self hp]
  rfl

theorem Filling.within_recorded (hp : p < s.contents.size) : s.Within (s.recorded p c) := by
  intro q hq
  by_cases hqp : q = p
  case pos =>
    subst hqp
    exact isTaken_recorded hp
  case neg => rwa [IsTaken, getD_recorded_of_ne hqp]

/-- A content is recorded that fits, and the node need not stay in the queue. -/
theorem Graph.Fits.recorded {queue queue' : List Nat} (h : g.Fits s.contents queue) (hp : p < s.contents.size)
    (hc : (c = g.contentOf p ∧ ∀ q ∈ g.children p, IsTaken s.contents q) ∨ (c = .pending ∧ p ∈ queue'))
    (hqueue : ∀ q ∈ queue, q = p ∨ q ∈ queue') : g.Fits (s.recorded p c).contents queue' := by
  have hwithin := Filling.within_recorded hp (c := c)
  intro q c' hc'
  by_cases hqp : q = p
  case pos =>
    subst hqp
    rw [getD_recorded_self hp] at hc'
    cases hc'
    exact hc.imp_left fun ⟨hcontent, hchildren⟩ => ⟨hcontent, fun r hr => hwithin r (hchildren r hr)⟩
  case neg =>
    rw [getD_recorded_of_ne hqp] at hc'
    rcases h q c' hc' with ⟨hcontent, hchildren⟩ | ⟨hpending, hq⟩
    · exact .inl ⟨hcontent, fun r hr => hwithin r (hchildren r hr)⟩
    · exact .inr ⟨hpending, (hqueue q hq).resolve_left hqp⟩

/-- A node gets its content when its children are taken up, and need not be looked at any more. -/
theorem Filled.recorded (hs : Filled g k waiting s) (hp : p < g.nodes.size)
    (hchildren : ∀ q ∈ g.children p, IsTaken s.contents q) (hfewer : ∀ q ∈ waiting', q ∈ waiting)
    (hrest : ∀ q ∈ waiting, q = p ∨ q ∈ waiting') : Filled g k waiting' (s.recorded p (g.contentOf p)) where
  graph := hs.graph
  steps := hs.steps
  size := Array.size_setIfInBounds.trans hs.size
  queued q hq := hs.queued q (List.mem_append.mpr ((List.mem_append.mp hq).imp_left (hfewer q)))
  deep := hs.deep
  fits := by
    refine hs.fits.recorded (hs.size ▸ hp) (.inl ⟨rfl, hchildren⟩) fun q hq => ?_
    rcases List.mem_append.mp hq with hq | hq
    · exact (hrest q hq).imp_right (List.mem_append_left _)
    · exact .inr (List.mem_append_right _ hq)

/-- A collection that is met waits for the next round. -/
theorem Filled.met (hs : Filled g k waiting s) (hp : g.Sound p) (hcollection : (g.node p).tag.isCollection = true)
    (hk : k ≤ p) : Filled g k waiting { s.recorded p .pending with met := p :: s.met } where
  graph := hs.graph
  steps := hs.steps
  size := Array.size_setIfInBounds.trans hs.size
  queued q hq := by
    rcases List.mem_append.mp hq with hq | hq
    · exact hs.queued q (List.mem_append_left _ hq)
    · rcases List.mem_cons.mp hq with rfl | hq
      · exact ⟨hp, hcollection⟩
      · exact hs.queued q (List.mem_append_right _ hq)
  deep := List.forall_mem_cons.mpr ⟨hk, hs.deep⟩
  fits := by
    have hmet : p ∈ waiting ++ p :: s.met := List.mem_append_right _ List.mem_cons_self
    refine hs.fits.recorded (hs.size ▸ hp.lt_size) (.inr ⟨rfl, hmet⟩) fun q hq => .inr ?_
    exact List.mem_append.mpr ((List.mem_append.mp hq).imp_right (List.mem_cons_of_mem p))

theorem Fills.bind {α β : Type} {x : Fill α} {f : α → Fill β} {a : α} {b : β} {k' : Nat}
    (hx : Fills g k waiting x a s s') (hf : Fills g k' waiting' (f a) b s' s'') :
    Fills g k' waiting' (x >>= f) b s s'' where
  run := (run_bind_ok hx.run f).trans hf.run
  filled := hf.filled
  within := hx.within.trans hf.within

theorem Filled.pure {α : Type} (hs : Filled g k waiting s) (a : α) : Fills g k waiting (pure a) a s s :=
  ⟨rfl, hs, fun _ => id⟩

namespace Fill

theorem run_get : (get : Fill Filling).run s = .ok (s, s) :=
  rfl

theorem run_node (hs : Filled g k waiting s) (p : Nat) : (node p).run s = .ok (g.node p, s) := by
  rw [node, run_bind_ok run_get, hs.graph]
  rfl

theorem run_scalar {tag : Tag} {text : String} {v : Value} (hs : Filled g k waiting s)
    (hnode : g.node p = .scalar tag text) (h : IsLeaf tag text v) : (scalar p).run s = .ok (v, s) := by
  have htext : Fill.text g defaultDepth p = .ok text := by
    rw [defaultDepth, Fill.text, hnode]
  rw [scalar, run_bind_ok run_get]
  dsimp only
  rw [hs.graph, hnode]
  have hlift : (liftM (Fill.text g defaultDepth p) : Fill String).run s = .ok (text, s) := by
    rw [htext]
    rfl
  cases h with
  | null => exact run_bind_ok hlift _
  | bool b =>
    refine (run_bind_ok hlift _).trans ?_
    cases b <;> rfl
  | str text => exact run_bind_ok hlift _

/-- A scalar is taken up with its value. -/
theorem fills_take_leaf {tag : Tag} {text : String} {v : Value} (hs : Filled g k waiting s)
    (hnode : g.nodes[p]? = some (.scalar tag text)) (hleaf : IsLeaf tag text v) (htaken : ¬IsTaken s.contents p) :
    Fills g k waiting (take p) () s (s.recorded p (.leaf v)) := by
  have hplace : g.node p = .scalar tag text := Graph.node_eq hnode
  have hsize : p < g.nodes.size := Graph.lt_size_of_node hnode
  have hchildren : g.children p = [] := by rw [Graph.children, hplace]
  have hscalar : ¬(g.node p).tag.isCollection = true := by
    rw [hplace]
    cases hleaf <;> exact Bool.false_ne_true
  have hrecorded := hs.recorded hsize (by rw [hchildren]; nofun) (fun _ => id) fun _ => .inr
  rw [Graph.contentOf_leaf hplace hleaf] at hrecorded
  refine ⟨?_, hrecorded, Filling.within_recorded (hs.size ▸ hsize)⟩
  rw [IsTaken] at htaken
  rw [take, run_bind_ok run_get, if_neg htaken, run_bind_ok (run_node hs p), if_neg hscalar,
    run_bind_ok (run_scalar hs hplace hleaf)]
  rfl

/-- Of a collection only the fact is recorded that it was met. -/
theorem fills_take_collection (hs : Filled g k waiting s) (hp : g.Sound p) (hk : k ≤ p)
    (hcollection : (g.node p).tag.isCollection = true) (htaken : ¬IsTaken s.contents p) :
    Fills g k waiting (take p) () s { s.recorded p .pending with met := p :: s.met } := by
  refine ⟨?_, hs.met hp hcollection hk, Filling.within_recorded (hs.size ▸ hp.lt_size)⟩
  rw [IsTaken] at htaken
  rw [take, run_bind_ok run_get, if_neg htaken, run_bind_ok (run_node hs p), if_pos hcollection]
  rfl

/-- A place of a value is taken up. -/
theorem fills_take (hs : Filled g k waiting s) (hp : g.Sound p) (hk : k ≤ p) :
    ∃ s', Fills g k waiting (take p) () s s' ∧ IsTaken s'.contents p := by
  have hsize : p < s.contents.size := hs.size ▸ hp.lt_size
  by_cases htaken : IsTaken s.contents p
  case pos =>
    refine ⟨s, ⟨?_, hs, fun _ => id⟩, htaken⟩
    rw [IsTaken] at htaken
    rw [take, run_bind_ok run_get, if_pos htaken]
    rfl
  case neg =>
    obtain ⟨v, hv⟩ := id hp
    cases hv with
    | leaf hnode hleaf => exact ⟨_, fills_take_leaf hs hnode hleaf htaken, isTaken_recorded hsize⟩
    | arr hnode =>
      have hcollection : (g.node p).tag.isCollection = true := by
        rw [Graph.node_eq hnode]
        rfl
      exact ⟨_, fills_take_collection hs hp hk hcollection htaken, isTaken_recorded hsize⟩
    | record hnode =>
      have hcollection : (g.node p).tag.isCollection = true := by
        rw [Graph.node_eq hnode]
        rfl
      exact ⟨_, fills_take_collection hs hp hk hcollection htaken, isTaken_recorded hsize⟩

/-- Places of values are taken up one after the other. -/
theorem fills_takes : ∀ (qs : List Nat) {s : Filling}, Filled g k waiting s → (∀ q ∈ qs, g.Sound q ∧ k ≤ q) →
    ∃ s', Fills g k waiting (qs.forM take) () s s' ∧ ∀ q ∈ qs, IsTaken s'.contents q
  | [], s, hs, _ => ⟨s, hs.pure (), nofun⟩
  | q :: qs, s, hs, h => by
    obtain ⟨⟨hq, hk⟩, hqs⟩ := List.forall_mem_cons.mp h
    obtain ⟨s', htake, htaken⟩ := fills_take hs hq hk
    obtain ⟨s'', htakes, htakens⟩ := fills_takes qs htake.filled hqs
    exact ⟨s'', htake.bind htakes, List.forall_mem_cons.mpr ⟨htakes.within q htaken, htakens⟩⟩

theorem fills_takeKey {name : String} (hs : Filled g k waiting s) (hnode : g.nodes[p]? = some (.scalar .text name))
    (hk : k ≤ p) : ∃ s', Fills g k waiting (takeKey p) (.str name) s s' := by
  obtain ⟨s', htake, htaken⟩ := fills_take hs ⟨_, .leaf hnode (.str name)⟩ hk
  obtain ⟨c, hc⟩ := Option.isSome_iff_exists.mp htaken
  have hleaf : c = .leaf (.str name) := by
    rcases htake.filled.fits p c hc with ⟨rfl, -⟩ | ⟨-, hqueued⟩
    · exact Graph.contentOf_leaf (Graph.node_eq hnode) (.str name)
    · have hcollection := (htake.filled.queued p hqueued).2
      rw [Graph.node_eq hnode] at hcollection
      cases hcollection
  refine ⟨s', ⟨?_, htake.filled, htake.within⟩⟩
  rw [takeKey, run_bind_ok htake.run, run_bind_ok run_get, hc, hleaf]
  rfl

/-! ### Entries of mappings -/

theorem putSame_of_notMem {name : String} {v : Nat} : ∀ {t : Table Key Nat}, .str name ∉ t.keys →
    putSame (.str name) v t = t ++ [(.str name, v)]
  | [], _ => rfl
  | (k, _) :: t, h => by
    obtain ⟨hk, ht⟩ := not_or.mp (mt List.mem_cons.mpr h)
    have hother : k.same (.str name) = false := Bool.eq_false_iff.mpr fun hsame => hk (Key.same_str_iff.mp hsame).symm
    rw [putSame, hother, if_neg Bool.false_ne_true, putSame_of_notMem ht]
    rfl

/-- The entries of a mapping are taken up behind others. -/
theorem fills_fields : ∀ (entries : List Entry) (done : Table Key Nat) {s : Filling}, Filled g k waiting s →
    (∀ e ∈ entries, k ≤ e.1 ∧ ∃ name, g.nodes[e.1]? = some (.scalar .text name)) →
    (∀ e ∈ entries, g.Sound e.2 ∧ k ≤ e.2) → (done ++ g.fieldsOf entries).keys.Nodup →
    ∃ s', Fills g k waiting (entries.foldlM takeField done) (done ++ g.fieldsOf entries) s s' ∧
      ∀ e ∈ entries, IsTaken s'.contents e.2
  | [], done, s, hs, _, _, _ => ⟨s, by rw [Graph.fieldsOf, List.map_nil, List.append_nil]; exact hs.pure done, nofun⟩
  | e :: entries, done, s, hs, hkeys, hvalues, hnodup => by
    obtain ⟨⟨hk, name, hnode⟩, hkeys'⟩ := List.forall_mem_cons.mp hkeys
    obtain ⟨⟨hsound, hlater⟩, hvalues'⟩ := List.forall_mem_cons.mp hvalues
    have hkey : g.keyOf e.1 = .str name := by rw [Graph.keyOf, Graph.node_eq hnode]
    have hsplit : done ++ g.fieldsOf (e :: entries) = (done ++ [(.str name, e.2)]) ++ g.fieldsOf entries := by
      rw [Graph.fieldsOf, List.map_cons, hkey, List.append_assoc]
      rfl
    rw [hsplit] at hnodup ⊢
    have hnew : .str name ∉ Table.keys done := by
      rw [Table.keys, List.map_append, List.map_append, List.append_assoc] at hnodup
      exact fun hold => List.disjoint_of_nodup_append hnodup hold List.mem_cons_self
    obtain ⟨s₁, hfirst⟩ := fills_takeKey hs hnode hk
    obtain ⟨s₂, hsecond, htaken⟩ := fills_take hfirst.filled hsound hlater
    obtain ⟨s₃, hrest, htakens⟩ := fills_fields entries _ hsecond.filled hkeys' hvalues' hnodup
    refine ⟨s₃, ?_, List.forall_mem_cons.mpr ⟨hrest.within _ htaken, htakens⟩⟩
    have hfield : Fills g k waiting (takeField done e) (done ++ [(.str name, e.2)]) s s₂ := by
      rw [← putSame_of_notMem hnew]
      exact hfirst.bind (hsecond.bind (hsecond.filled.pure _))
    exact hfield.bind hrest

theorem setNode_node (g : Graph) (p : Nat) : g.setNode p (g.node p) = g := by
  have hnodes : g.nodes.setIfInBounds p (g.node p) = g.nodes := by
    refine Array.ext_getElem? fun q => ?_
    rw [Array.getElem?_setIfInBounds]
    split_ifs with hq hp
    · rw [Graph.node, ← hq, Array.getD_eq_getD_getElem?, Array.getElem?_eq_getElem hp]
      rfl
    · exact (Array.getElem?_eq_none (hq ▸ Nat.le_of_not_lt hp)).symm
    · rfl
  rw [Graph.setNode, hnodes]

theorem plainKeys_eq : ∀ {entries : List Entry}, (∀ e ∈ entries, (g.node e.1).tag = .text) →
    g.plainKeys entries = g
  | [], _ => rfl
  | (key, _) :: entries, h => by
    obtain ⟨he, hentries⟩ := List.forall_mem_cons.mp h
    have hplain : (g.node key).tag ≠ .default := by
      rw [he]
      nofun
    rw [Graph.plainKeys, List.foldl_cons]
    dsimp only
    rw [if_neg hplain]
    exact plainKeys_eq hentries

/-- A mapping with texts for keys has nothing to merge. -/
theorem merge_eq {entries : List Entry} {steps : Nat} (hnode : g.node p = .mapping .mapping entries)
    (hkeys : ∀ e ∈ entries, ∃ name, g.nodes[e.1]? = some (.scalar .text name)) (hsteps : steps ≠ 0) :
    g.merge steps [] p = .ok g := by
  obtain ⟨steps, rfl⟩ := Nat.exists_eq_succ_of_ne_zero hsteps
  have hentries : (g.entries? p).getD [] = entries := by
    rw [Graph.entries?, hnode]
    rfl
  have htag : ∀ e ∈ entries, (g.node e.1).tag = .text := by
    intro e he
    obtain ⟨name, hname⟩ := hkeys e he
    rw [Graph.node_eq hname]
    rfl
  have hnone : entries.dropWhile (!g.isMerge ·) = [] := by
    refine List.dropWhile_eq_nil_iff.mpr fun e he => ?_
    rw [Graph.isMerge, htag e he]
    rfl
  have hset : g.setEntries p ([] ++ entries) = g := by
    rw [Graph.setEntries, hnode]
    exact hnode ▸ setNode_node g p
  rw [Graph.merge, hentries, hnone]
  dsimp only
  rw [plainKeys_eq htag, hset]
  rfl

/-! ### Collections -/

/-- The children of a collection are taken up, and its content is told. -/
theorem fills_collection (hs : Filled g k waiting s) (hp : g.Sound p)
    (hcollection : (g.node p).tag.isCollection = true) (hk : k ≤ p + 1) :
    ∃ s', Fills g k waiting (collection p) (g.contentOf p) s s' ∧ ∀ q ∈ g.children p, IsTaken s'.contents q := by
  have hshaped := hp.shaped
  generalize hnode : g.node p = n at hshaped hcollection
  cases hshaped with
  | leaf hleaf => cases hleaf <;> cases hcollection
  | @sequence items hitems =>
    obtain ⟨s', htakes, htakens⟩ := fills_takes items hs fun q hq => ⟨(hitems q hq).2, hk.trans (hitems q hq).1⟩
    refine ⟨s', ⟨?_, htakes.filled, htakes.within⟩, ?_⟩
    · rw [collection, run_bind_ok (run_node hs p), hnode, Graph.contentOf, hnode]
      exact run_bind_ok htakes.run _
    · rwa [Graph.children, hnode]
  | @mapping entries hkeys hvalues hnodup =>
    have hkeys' := fun e he => And.imp_left hk.trans (hkeys e he)
    have hvalues' := fun e he => And.imp_left hk.trans (hvalues e he)
    obtain ⟨s', hfields, htakens⟩ := fills_fields entries [] hs hkeys' (fun e he => (hvalues' e he).symm) hnodup
    have hentries : g.entries? p = some entries := by rw [Graph.entries?, hnode]
    have hmerge : (liftM (g.merge s.mergeSteps [] p) : Fill Graph).run s = .ok (g, s) := by
      rw [merge_eq hnode (fun e he => (hkeys e he).2) hs.steps]
      rfl
    have hset : (set { s with graph := g } : Fill Unit).run s = .ok ((), s) := by
      rw [← hs.graph]
      rfl
    have hrun : (fields p).run s = .ok (g.fieldsOf entries, s') := by
      rw [fields, run_bind_ok run_get]
      dsimp only
      rw [hs.graph, if_neg (by rw [hentries]; nofun), run_bind_ok hmerge, run_bind_ok hset, hentries]
      exact hfields.run
    refine ⟨s', ⟨?_, hfields.filled, hfields.within⟩, ?_⟩
    · rw [collection, run_bind_ok (run_node hs p), hnode, Graph.contentOf, hnode]
      exact run_bind_ok hrun _
    · rw [Graph.children, hnode]
      exact List.forall_mem_map.mpr htakens

/-- The collections that wait are given their contents, one after the other. -/
theorem fills_round : ∀ (waiting : List Nat) {s : Filling}, Filled g k waiting s → (∀ p ∈ waiting, k ≤ p + 1) →
    ∃ s', Fills g k [] (waiting.forM fun place => do record place (← collection place)) () s s'
  | [], s, hs, _ => ⟨s, hs.pure ()⟩
  | p :: waiting, s, hs, h => by
    obtain ⟨hk, hrest⟩ := List.forall_mem_cons.mp h
    obtain ⟨hp, hcollection⟩ := hs.queued p List.mem_cons_self
    obtain ⟨s', hcontent, hchildren⟩ := fills_collection hs hp hcollection hk
    have hrecorded : Fills g k waiting (record p (g.contentOf p)) () s' (s'.recorded p (g.contentOf p)) :=
      ⟨rfl, hcontent.filled.recorded hp.lt_size hchildren (fun _ => List.mem_cons_of_mem p) fun _ => List.mem_cons.mp,
        Filling.within_recorded (hcontent.filled.size ▸ hp.lt_size)⟩
    obtain ⟨s'', hround⟩ := fills_round waiting hrecorded.filled hrest
    exact ⟨s'', (hcontent.bind hrecorded).bind hround⟩

/-- As many rounds as there are nodes leave no collection that waits. -/
theorem fills_rounds : ∀ (steps k : Nat) {s : Filling}, Filled g k [] s → g.nodes.size < k + steps →
    ∃ k' s', Fills g k' [] (rounds steps) () s s' ∧ s'.met = []
  | 0, k, s, hs, hsteps => by
    refine ⟨k, s, hs.pure (), List.eq_nil_iff_forall_not_mem.mpr fun p hp => ?_⟩
    have hlt := (hs.queued p hp).1.lt_size
    have hle := hs.deep p hp
    omega
  | steps + 1, k, s, hs, hsteps => by
    by_cases hmet : s.met.reverse.isEmpty = true
    case pos =>
      refine ⟨k, s, ⟨?_, hs, fun _ => id⟩, List.reverse_eq_nil_iff.mp (List.isEmpty_iff.mp hmet)⟩
      rw [rounds, run_bind_ok run_get]
      dsimp only
      rw [if_pos hmet]
      rfl
    case neg =>
      have hstart : Filled g (k + 1) s.met.reverse { s with met := [] } :=
        { graph := hs.graph
          steps := hs.steps
          size := hs.size
          queued := fun p hp => by
            rw [List.append_nil, List.mem_reverse] at hp
            exact hs.queued p hp
          deep := nofun
          fits := fun p c hc => (hs.fits p c hc).imp_right (And.imp_right fun hp => by
            rwa [List.append_nil, List.mem_reverse]) }
      obtain ⟨s', hround⟩ := fills_round s.met.reverse hstart fun p hp =>
        Nat.succ_le_succ (hs.deep p (List.mem_reverse.mp hp))
      obtain ⟨k', s'', hrounds, hnone⟩ := fills_rounds steps (k + 1) hround.filled (by omega)
      have hrest := hround.bind (f := fun _ => rounds steps) hrounds
      refine ⟨k', s'', ⟨?_, hrest.filled, hrest.within⟩, hnone⟩
      rw [rounds, run_bind_ok run_get]
      dsimp only
      rw [if_neg hmet]
      exact hrest.run

end Fill

end Steps

/-! ### Whole graphs -/

/-- The contents of a graph: its root is taken up, and every node that is has the content that stands in the graph and
children that are taken up. -/
structure Graph.HasContents (g : Graph) (contents : Array (Option Content)) : Prop where
  root : IsTaken contents g.root
  content : ∀ p, IsTaken contents p → contents.getD p none = some (g.contentOf p)
  children : ∀ p, IsTaken contents p → ∀ q ∈ g.children p, IsTaken contents q

theorem getD_map_const {α β : Type} (xs : Array α) (b : β) (p : Nat) : (xs.map fun _ => b).getD p b = b := by
  rw [Array.getD_eq_getD_getElem?, Array.getElem?_map]
  cases xs[p]? <;> rfl

/-- A graph whose root holds a value is taken up without a fault. -/
theorem Graph.contents_of_holds {g : Graph} (h : g.Sound g.root) :
    ∃ contents, g.contents = .ok contents ∧ g.HasContents contents := by
  have hnone : ∀ p c, (g.nodes.map fun _ => (none : Option Content)).getD p none ≠ some c := by
    intro p c hc
    rw [getD_map_const] at hc
    cases hc
  have hstart : Filled g 0 [] { graph := g, mergeSteps := g.mergeCount + 1, contents := g.nodes.map fun _ => none } :=
    { graph := rfl
      steps := nofun
      size := Array.size_map
      queued := nofun
      deep := nofun
      fits := fun p c hc => absurd hc (hnone p c) }
  obtain ⟨s, htake, hroot⟩ := Fill.fills_take hstart h (Nat.zero_le _)
  obtain ⟨k, s', hrounds, hmet⟩ := Fill.fills_rounds (g.nodes.size + 1) 0 htake.filled (by omega)
  have htaken : ∀ p, IsTaken s'.contents p → s'.contents.getD p none = some (g.contentOf p) ∧
      ∀ q ∈ g.children p, IsTaken s'.contents q := by
    intro p hp
    obtain ⟨c, hc⟩ := Option.isSome_iff_exists.mp hp
    rcases hrounds.filled.fits p c hc with ⟨rfl, hchildren⟩ | ⟨-, hqueued⟩
    · exact ⟨hc, hchildren⟩
    · rw [hmet] at hqueued
      cases hqueued
  refine ⟨s'.contents, ?_, hrounds.within _ hroot, fun p hp => (htaken p hp).1, fun p hp => (htaken p hp).2⟩
  rw [Graph.contents, (htake.bind (f := fun _ => Fill.rounds (g.nodes.size + 1)) hrounds).run]
  rfl

end WorkflowCheck.Yaml
