import WorkflowCheck.Proofs.Flow.ReadBack
import WorkflowCheck.Proofs.Value.Same

/-!
# What saving takes away

Of a stored flow, saving takes away nothing but empty lists of options: `StoredFlow.tidied` is the flow
itself exactly if no input has one (`StoredFlow.tidied_eq_self_iff`).  An input that loses its list has
one field less on the wire, so a flow that is the same on the wire with and without its empty lists has
none (`StoredFlow.isTidy_of_same`).
-/

namespace WorkflowCheck

open Decode

/-! ### Maps of shapes -/

section Shape

variable {ι ο ι' ο' ι'' ο'' δ ν ε ν' ε' ν'' ε'' : Type}

theorem DataOf.map_map (f : ι → ι') (g : ο → ο') (f' : ι' → ι'') (g' : ο' → ο'') (d : DataOf ι ο) :
    (d.map f g).map f' g' = d.map (f' ∘ f) (g' ∘ g) := by
  simp [DataOf.map]

theorem FlowOf.map_map (f : ν → ν') (g : ε → ε') (f' : ν' → ν'') (g' : ε' → ε'') (x : FlowOf ν ε) :
    (x.map f g).map f' g' = x.map (f' ∘ f) (g' ∘ g) := by
  simp [FlowOf.map]

theorem map_eq_self_iff {α : Type} {f : α → α} {xs : List α} : xs.map f = xs ↔ ∀ x ∈ xs, f x = x := by
  have hid : xs.map f = xs ↔ xs.map f = xs.map id := by rw [List.map_id]
  exact hid.trans List.map_inj_left

theorem DataOf.map_eq_self_iff {f : ι → ι} {g : ο → ο} {d : DataOf ι ο} :
    d.map f g = d ↔ (∀ i ∈ d.inputs, f i = i) ∧ ∀ o ∈ d.outputs, g o = o := by
  obtain ⟨title, description, collection, inputs, outputs⟩ := d
  simp [DataOf.map, WorkflowCheck.map_eq_self_iff]

theorem NodeOf.map_eq_self_iff {f : δ → δ} {n : NodeOf δ} : n.map f = n ↔ f n.data = n.data := by
  obtain ⟨id, type, position, version, data⟩ := n
  simp [NodeOf.map]

theorem FlowOf.map_eq_self_iff {f : ν → ν} {g : ε → ε} {x : FlowOf ν ε} :
    x.map f g = x ↔ (∀ n ∈ x.nodes, f n = n) ∧ ∀ e ∈ x.edges, g e = e := by
  obtain ⟨name, thumbnail, nodes, edges⟩ := x
  simp [FlowOf.map, WorkflowCheck.map_eq_self_iff]

end Shape

/-! ### Tidy flows -/

/-- No input has an empty list of options. -/
def StoredFlow.IsTidy (f : StoredFlow) : Prop :=
  ∀ n ∈ f.nodes, ∀ i ∈ n.data.inputs, i.choices ≠ some []

theorem StoredInput.tidied_eq_self_iff {i : StoredInput} : i.tidied = i ↔ i.choices ≠ some [] := by
  obtain ⟨id, title, type, control, required, placeholder, handle, value, choices, min, max⟩ := i
  rcases choices with _ | _ | ⟨c, cs⟩ <;> simp [tidied]

theorem StoredInput.tidied_tidied (i : StoredInput) : i.tidied.tidied = i.tidied := by
  rw [tidied_eq_self_iff, tidied, ne_eq, Option.filter_eq_some_iff]
  simp

theorem StoredFlow.tidied_eq_self_iff {f : StoredFlow} : f.tidied = f ↔ f.IsTidy := by
  simp [tidied, IsTidy, FlowOf.map_eq_self_iff, NodeOf.map_eq_self_iff, DataOf.map_eq_self_iff,
    StoredInput.tidied_eq_self_iff]

/-- A flow that was tidied is tidy. -/
theorem StoredFlow.isTidy_tidied (f : StoredFlow) : f.tidied.IsTidy := by
  intro n hn i hi
  obtain ⟨n, -, rfl⟩ := List.mem_map.mp hn
  obtain ⟨i, -, rfl⟩ := List.mem_map.mp hi
  exact StoredInput.tidied_eq_self_iff.mp i.tidied_tidied

theorem StoredFlow.tidied_tidied (f : StoredFlow) : f.tidied.tidied = f.tidied :=
  tidied_eq_self_iff.mpr f.isTidy_tidied

theorem StoredFlow.HasIds.tidied {f : StoredFlow} (hf : f.HasIds) : f.tidied.HasIds := by
  intro _ htidied
  obtain ⟨n, hn, rfl⟩ := List.mem_map.mp htidied
  have hids : StoredNode.HasIds n := hf n hn
  have hinputs : ∀ i ∈ n.data.inputs.map StoredInput.tidied, IsFilled i.id := by
    intro _ hmem
    obtain ⟨i, hi, rfl⟩ := List.mem_map.mp hmem
    exact hids.data.inputs i hi
  have houtputs : ∀ o ∈ n.data.outputs.map id, IsFilled o.id := by
    rw [List.map_id]
    exact hids.data.outputs
  exact ⟨hids.id, hids.type, hinputs, houtputs⟩

/-! ### Sameness on the wire -/

/-- The content of a field is the same in records that are the same, unless it is left out. -/
theorem same_of_same_record {es fs : List (FieldName × Value)} {n : FieldName} {x y : Value}
    (h : (Form.wire.record es).same (Form.wire.record fs) = true) (hfs : Apart fs) (hx : (n, x) ∈ es)
    (hy : (n, y) ∈ fs) (hnull : x.isNull = false) : x.same y = true := by
  have hentry : (Key.str n.wire, x) ∈ (es.flatMap fun e => Form.wire.entry e.1 e.2).map
      fun e => (Key.str e.1, e.2) := by
    refine List.mem_map.mpr ⟨(n.wire, x), List.mem_flatMap.mpr ⟨(n, x), hx, ?_⟩, rfl⟩
    simp [Form.entry, hnull]
  have hfields := (Bool.and_eq_true_iff.mp h).2
  obtain ⟨z, hz, hsame⟩ := Value.sameFields_iff.mp hfields _ hentry
  have hfound : (Form.wire.record fs).get? n.wire = some z := (Value.fieldLike?_str _ _).symm.trans hz
  rw [get?_record_wire hfs hy] at hfound
  split_ifs at hfound with hleft
  cases hfound
  exact hsame

/-- Lists of parts that are the same on the wire are so place by place. -/
theorem same_of_same_writeList {α β : Type} {write : β → Value} {f g : α → β} {as : List α}
    (h : (writeList write (as.map f)).same (writeList write (as.map g)) = true) :
    ∀ a ∈ as, (write (f a)).same (write (g a)) = true := by
  rw [writeList, writeList, List.map_map, List.map_map, Value.same] at h
  exact Value.sameItems_map_iff.mp h

/-- The flow with every input changed. -/
def StoredFlow.mapInputs (f : StoredInput → StoredInput) (x : StoredFlow) : StoredFlow :=
  x.map (fun n => n.map fun d => d.map f id) id

/-- When a flow is the same on the wire after two changes of its inputs, so is every input. -/
theorem StoredFlow.same_inputs_of_same {f g : StoredInput → StoredInput} {x : StoredFlow}
    (h : ((x.mapInputs f).write .wire).same ((x.mapInputs g).write .wire) = true) :
    ∀ n ∈ x.nodes, ∀ i ∈ n.data.inputs, ((f i).write .wire).same ((g i).write .wire) = true := by
  intro n hn i hi
  have hnodes : (writeList (StoredNode.write .wire) (x.mapInputs f).nodes).same
      (writeList (StoredNode.write .wire) (x.mapInputs g).nodes) = true :=
    same_of_same_record (n := .same "nodes") h (by simp [FieldName.same]) (by simp) (by simp) rfl
  have hdata : (StoredData.write .wire (n.data.map f id)).same
      (StoredData.write .wire (n.data.map g id)) = true :=
    same_of_same_record (n := .same "data") (same_of_same_writeList hnodes n hn)
      (by simp [NodeOf.entries, FieldName.same]) (by simp [NodeOf.entries, NodeOf.map])
      (by simp [NodeOf.entries, NodeOf.map]) rfl
  have hinputs : (writeList (StoredInput.write .wire) (n.data.map f id).inputs).same
      (writeList (StoredInput.write .wire) (n.data.map g id).inputs) = true :=
    same_of_same_record (n := .same "inputs") hdata (by simp [DataOf.entries, FieldName.same])
      (by simp [DataOf.entries]) (by simp [DataOf.entries]) rfl
  exact same_of_same_writeList hinputs i hi

/-- Records that are the same on the wire leave out equally many of their fields. -/
theorem countP_eq_of_same_record {es fs : List (FieldName × Value)}
    (h : (Form.wire.record es).same (Form.wire.record fs) = true) :
    es.countP (!·.2.isNull) = fs.countP (!·.2.isNull) := by
  have hlength : ∀ entries : List (FieldName × Value),
      ((entries.flatMap fun e => Form.wire.entry e.1 e.2).map fun e => (Key.str e.1, e.2)).length =
        entries.countP (!·.2.isNull) := by
    intro entries
    induction entries with
    | nil => rfl
    | cons e entries ih =>
      rw [List.length_map] at ih ⊢
      rw [List.flatMap_cons, List.length_append, ih, List.countP_cons, Nat.add_comm]
      cases hnull : e.2.isNull <;> simp [Form.entry, hnull]
  have hsame := beq_iff_eq.mp (Bool.and_eq_true_iff.mp h).1
  rwa [hlength, hlength] at hsame

/-- An input with an empty list of options has a field more on the wire than without it. -/
theorem StoredInput.countP_entries_of_empty {i : StoredInput} (h : i.choices = some []) :
    (i.entries .wire).countP (!·.2.isNull) = (i.tidied.entries .wire).countP (!·.2.isNull) + 1 := by
  have htidied : i.tidied = { i with choices := none } := by
    rw [tidied, h]
    rfl
  have hempty : (writeOptional (writeList (Choice.write .wire)) (some [])).isNull = false := rfl
  have habsent : (writeOptional (writeList (Choice.write .wire)) none).isNull = true := rfl
  rw [htidied]
  simp only [entries, List.countP_cons, h, hempty, habsent, Bool.not_false, Bool.not_true, reduceIte,
    Bool.false_eq_true]
  omega

/-- A flow that is the same on the wire as with its inputs tidied, in either order, is tidy. -/
theorem StoredFlow.isTidy_of_same {x : StoredFlow}
    (h : (x.tidied.write .wire).same (x.write .wire) = true ∨
      (x.write .wire).same (x.tidied.write .wire) = true) : x.IsTidy := by
  have hself : x.mapInputs id = x := by
    simp [mapInputs, FlowOf.map_eq_self_iff, NodeOf.map_eq_self_iff, DataOf.map_eq_self_iff]
  intro n hn i hi hempty
  have hmore := i.countP_entries_of_empty hempty
  rcases h with h | h
  · have hsame : ((x.mapInputs StoredInput.tidied).write .wire).same
        ((x.mapInputs id).write .wire) = true := by
      rwa [hself]
    have hcount := countP_eq_of_same_record (same_inputs_of_same hsame n hn i hi)
    rw [id, hmore] at hcount
    omega
  · have hsame : ((x.mapInputs id).write .wire).same
        ((x.mapInputs StoredInput.tidied).write .wire) = true := by
      rwa [hself]
    have hcount := countP_eq_of_same_record (same_inputs_of_same hsame n hn i hi)
    rw [id, hmore] at hcount
    omega

end WorkflowCheck
