import WorkflowCheck.Flow.Content
import WorkflowCheck.Proofs.Flow.Agrees

/-!
# Having the same content is an equivalence

Flows have the same content if what is stored of them agrees (`Flow.sameContent_iff`).  This is transitive
for all flows.  It is reflexive for flows that are plain, and symmetric for plain ones in which no set has a
member twice; of flows that are both (`Flow.IsComparable`) it is an equivalence, and each of them that the
editor shows has the content of what is stored of it (`Flow.sameContent_equivalence`).
-/

namespace WorkflowCheck

/-! ### Values that a flow holds -/

/-- The style, if there is one. -/
def HandleLook.held (h : HandleLook) : List Value :=
  h.style.toList.map Decode.TextTable.toValue

/-- The value of the input and the style of its handle. -/
def StoredInput.held (i : StoredInput) : List Value :=
  i.value :: i.handle.toList.flatMap HandleLook.held

/-- The style of the handle. -/
def StoredOutput.held (o : StoredOutput) : List Value :=
  o.handle.toList.flatMap HandleLook.held

/-- The values that the inputs and the outputs hold. -/
def StoredNode.held (n : StoredNode) : List Value :=
  n.data.inputs.flatMap StoredInput.held ++ n.data.outputs.flatMap StoredOutput.held

/-- The values of any kind in the flow. -/
def StoredFlow.held (f : StoredFlow) : List Value :=
  f.nodes.flatMap StoredNode.held

/-- In none of the values a set has a member twice. -/
def HoldOnce (vs : List Value) : Prop :=
  ∀ v ∈ vs, ¬ v.HoldsTwice

theorem HoldOnce.of_flatMap {α : Type} {held : α → List Value} {as : List α} {a : α}
    (h : HoldOnce (as.flatMap held)) (ha : a ∈ as) : HoldOnce (held a) :=
  fun v hv => h v (List.mem_flatMap.mpr ⟨a, ha, hv⟩)

/-! ### Symmetry -/

theorem rel_symm {α : Type} {R : α → α → Prop} {o p : Option α} (hsymm : ∀ a ∈ o, ∀ b, R a b → R b a)
    (h : Option.Rel R o p) : Option.Rel R p o := by
  cases h with
  | none => exact .none
  | some hab => exact .some (hsymm _ rfl _ hab)

theorem Double.Agrees.symm {a b : Double} (h : a.Agrees b) : b.Agrees a := by
  obtain ⟨heq, hne⟩ := (Value.same_iff_of_quantity? rfl rfl).mp h
  exact (Value.same_iff_of_quantity? rfl rfl).mpr ⟨heq.symm, heq ▸ hne⟩

theorem Position.Agrees.symm {p q : Position} (h : p.Agrees q) : q.Agrees p :=
  ⟨h.x.symm, h.y.symm⟩

theorem HandleLook.Agrees.symm {h k : HandleLook} (hplain : h.IsPlain) (honce : HoldOnce h.held)
    (hagrees : h.Agrees k) : k.Agrees h := by
  refine ⟨hagrees.color.symm, rel_symm (fun t ht u hsame => ?_) hagrees.style⟩
  have hheld : t.toValue ∈ h.held := List.mem_map_of_mem (Option.mem_toList.mpr ht)
  exact (hplain t ht).same_symm (honce _ hheld) hsame

/-- Looks that agree do so either way round, where there are looks. -/
theorem rel_look_symm {o p : Option HandleLook} (hplain : ∀ h ∈ o, HandleLook.IsPlain h)
    (honce : HoldOnce (o.toList.flatMap HandleLook.held)) (h : Option.Rel HandleLook.Agrees o p) :
    Option.Rel HandleLook.Agrees p o :=
  rel_symm (fun look hlook _ =>
    HandleLook.Agrees.symm (hplain look hlook) (honce.of_flatMap (Option.mem_toList.mpr hlook))) h

theorem StoredInput.Agrees.symm {i j : StoredInput} (hplain : i.IsPlain) (honce : HoldOnce i.held)
    (h : i.Agrees j) : j.Agrees i where
  id := h.id.symm
  title := h.title.symm
  type := h.type.symm
  control := h.control.symm
  required := h.required.symm
  placeholder := h.placeholder.symm
  handle := rel_look_symm hplain.handle (List.forall_mem_cons.mp honce).2 h.handle
  value := hplain.value.same_symm (honce _ List.mem_cons_self) h.value
  choices := h.choices.symm
  min := rel_symm (fun _ _ _ => Double.Agrees.symm) h.min
  max := rel_symm (fun _ _ _ => Double.Agrees.symm) h.max

theorem StoredOutput.Agrees.symm {o p : StoredOutput} (hplain : o.IsPlain) (honce : HoldOnce o.held)
    (h : o.Agrees p) : p.Agrees o where
  id := h.id.symm
  title := h.title.symm
  type := h.type.symm
  handle := rel_look_symm hplain honce h.handle
  description := h.description.symm

theorem StoredNode.Agrees.symm {m n : StoredNode} (hplain : m.IsPlain) (honce : HoldOnce (StoredNode.held m))
    (h : StoredNode.Agrees m n) : StoredNode.Agrees n m := by
  obtain ⟨hinputs, houtputs⟩ := List.forall_mem_append.mp honce
  refine ⟨h.id.symm, h.type.symm, h.position.symm, h.version.symm, h.data.title.symm,
    h.data.description.symm, h.data.collection.symm, ?inputs, ?outputs⟩
  case inputs =>
    exact Value.forall₂_symm
      (fun i hi _ => StoredInput.Agrees.symm (hplain.inputs i hi) (HoldOnce.of_flatMap hinputs hi))
      h.data.inputs
  case outputs =>
    exact Value.forall₂_symm
      (fun o ho _ => StoredOutput.Agrees.symm (hplain.outputs o ho) (HoldOnce.of_flatMap houtputs ho))
      h.data.outputs

theorem StoredFlow.Agrees.symm {f g : StoredFlow} (hplain : f.IsPlain) (honce : HoldOnce f.held)
    (h : f.Agrees g) : g.Agrees f where
  name := h.name.symm
  thumbnail := h.thumbnail.symm
  nodes := Value.forall₂_symm
    (fun n hn _ => StoredNode.Agrees.symm (hplain n hn) (honce.of_flatMap hn)) h.nodes
  edges := h.edges.symm

/-! ### Either view -/

namespace Flow

/-- What of a flow is compared: a stored flow as it is, of a flow in the editor view what is stored. -/
def compared : Flow → StoredFlow
  | .stored f => f
  | .editor f => f.toStored

/-- What is compared of the flow holds no NaN without a name, no loop, no object with a key twice and no
set with a member twice. -/
structure IsComparable (x : Flow) : Prop where
  plain : x.compared.IsPlain
  once : HoldOnce x.compared.held

theorem storedWire_eq (x : Flow) : x.storedWire = x.compared.write .wire := by
  cases x <;> rfl

/-- Flows have the same content if and only if what is compared of them agrees. -/
theorem sameContent_iff {x y : Flow} : x.sameContent y = true ↔ x.compared.Agrees y.compared := by
  rw [sameContent, storedWire_eq, storedWire_eq]
  exact StoredFlow.same_write_iff

theorem sameContent_trans {x y z : Flow} (h : x.sameContent y = true) (h' : y.sameContent z = true) :
    x.sameContent z = true :=
  Value.same_trans h h'

theorem IsComparable.sameContent_self {x : Flow} (hx : x.IsComparable) : x.sameContent x = true := by
  rw [sameContent, storedWire_eq]
  exact (hx.plain.write .wire).same_self

theorem IsComparable.sameContent_symm {x y : Flow} (hx : x.IsComparable) (h : x.sameContent y = true) :
    y.sameContent x = true :=
  sameContent_iff.mpr ((sameContent_iff.mp h).symm hx.plain hx.once)

/-- **Having the same content is an equivalence** of the comparable flows of either view: what is compared of
them agrees, numbers by their exact value and objects without regard to order.  A flow in the editor view has
the content of what is stored of it. -/
theorem sameContent_equivalence :
    Equivalence (fun x y : {x : Flow // x.IsComparable} => x.1.sameContent y.1 = true) ∧
      (∀ x y : Flow, x.sameContent y = true ↔ x.compared.Agrees y.compared) ∧
      ∀ f : EditorFlow, (Flow.editor f).IsComparable →
        Flow.sameContent (.editor f) (.stored f.toStored) = true := by
  refine ⟨?equivalence, fun x y => sameContent_iff, ?stored⟩
  case equivalence =>
    exact ⟨fun x => x.2.sameContent_self, fun {x _} h => x.2.sameContent_symm h, sameContent_trans⟩
  case stored =>
    -- What is compared of the two is one stored flow.
    intro f hf
    exact sameContent_iff.mpr (sameContent_iff.mp hf.sameContent_self)

/-- A stored flow of one node, whose input holds an object. -/
def quotesFlow (limits : Fields) (choices : Option (List Choice)) : StoredFlow :=
  let input : StoredInput :=
    { id := "limits", title := "Limits", type := .object, control := .object, required := true,
      placeholder := "", handle := none, value := .obj limits, choices := choices,
      min := some (.finite true 0), max := some (.nan (some 0)) }
  let node : StoredNode :=
    ⟨"quotes", "quote_node", ⟨.finite false 0, .infinite true⟩, none, ⟨"", "", .trade, [input], []⟩⟩
  ⟨"Quotes", none, [node], []⟩

/-- Two fields in one order. -/
def wholeLimits : Fields :=
  [(.str "depth", .int 1), (.str "open", .bool true)]

/-- The same fields in the other order, with the same numbers written in another way. -/
def otherLimits : Fields :=
  [(.str "open", .float (.finite false Double.unitsPerOne)), (.str "depth", .bool true)]

theorem isComparable_quotes {limits : Fields} {choices : Option (List Choice)}
    (hplain : (Value.obj limits).IsPlain) (honce : ∀ e ∈ limits, ¬ e.2.HoldsTwice) :
    (Flow.stored (quotesFlow limits choices)).IsComparable := by
  constructor
  · intro n hn
    cases List.mem_singleton.mp hn
    refine ⟨⟨nofun, nofun⟩, fun i hi => ?_, List.forall_mem_nil _⟩
    cases List.mem_singleton.mp hi
    refine ⟨nofun, hplain, ?_, ?_⟩
    · rintro d ⟨⟩
      nofun
    · rintro d ⟨⟩
      nofun
  · intro v hv
    cases List.mem_singleton.mp hv
    rintro (_ | _ | ⟨he, htwice⟩)
    exact honce _ he htwice

theorem isComparable_wholeLimits : (Flow.stored (quotesFlow wholeLimits none)).IsComparable := by
  refine isComparable_quotes (.obj (by decide) (by decide) ?_) ?_ <;>
    simp only [wholeLimits, List.forall_mem_cons]
  · exact ⟨.int 1, .bool true, List.forall_mem_nil _⟩
  · exact ⟨nofun, nofun, List.forall_mem_nil _⟩

theorem isComparable_otherLimits :
    (Flow.editor (quotesFlow otherLimits (some [])).toEditor).IsComparable := by
  have hstored : (Flow.stored (quotesFlow otherLimits none)).IsComparable := by
    refine isComparable_quotes (.obj (by decide) (by decide) ?_) ?_ <;>
      simp only [otherLimits, List.forall_mem_cons]
    · exact ⟨.float nofun, .bool true, List.forall_mem_nil _⟩
    · exact ⟨nofun, nofun, List.forall_mem_nil _⟩
  exact ⟨hstored.plain, hstored.once⟩

/-- A stored flow, and one that the editor shows with its numbers written in another way, its fields in
another order and an empty list of options that saving drops. -/
theorem quotesFlow_sameContent :
    (Flow.stored (quotesFlow wholeLimits none)).IsComparable ∧
      (Flow.editor (quotesFlow otherLimits (some [])).toEditor).IsComparable ∧
      Flow.sameContent (.stored (quotesFlow wholeLimits none))
        (.editor (quotesFlow otherLimits (some [])).toEditor) = true ∧
      Flow.sameContent (.editor (quotesFlow otherLimits (some [])).toEditor)
        (.stored (quotesFlow wholeLimits none)) = true ∧
      Flow.sameContent (.editor (quotesFlow otherLimits (some [])).toEditor)
        (.stored (quotesFlow otherLimits (some [])).toEditor.toStored) = true := by
  have hsame : Flow.sameContent (.stored (quotesFlow wholeLimits none))
      (.editor (quotesFlow otherLimits (some [])).toEditor) = true := by
    decide +kernel
  obtain ⟨hequivalence, -, hsaved⟩ := sameContent_equivalence
  refine ⟨isComparable_wholeLimits, isComparable_otherLimits, hsame, ?_, hsaved _ isComparable_otherLimits⟩
  exact @Equivalence.symm _ _ hequivalence ⟨_, isComparable_wholeLimits⟩ ⟨_, isComparable_otherLimits⟩ hsame

end Flow

end WorkflowCheck
