import Mathlib.Data.List.Nodup
import WorkflowCheck.Flow.Stored
import WorkflowCheck.Proofs.Decode.ReadBack
import WorkflowCheck.Proofs.Value.Same

/-!
# Plain flows

A stored flow is plain when none of its numbers is a NaN without a name and the values of any kind that it
holds are plain.  Plain flows are written as plain values (`StoredFlow.IsPlain.write`), so they are the
same as themselves on the wire.
-/

namespace WorkflowCheck

open Decode

/-! ### Written values -/

section Written

variable {α : Type} {form : Form} {entries : List (FieldName × Value)}

/-- The name of an entry in a written record is one of the names of its field. -/
theorem eq_or_eq_of_mem_entry {n : FieldName} {v : Value} {e : String × Value}
    (h : e ∈ form.entry n v) : (e.1 = n.wire ∨ e.1 = n.own) ∧ e.2 = v := by
  cases form with
  | wire =>
    simp only [Form.entry] at h
    split_ifs at h with hnull
    · cases h
    · cases List.mem_singleton.mp h
      exact ⟨Or.inl rfl, rfl⟩
  | full =>
    cases List.mem_singleton.mp h
    exact ⟨Or.inr rfl, rfl⟩

/-- A written record whose fields share no name has each name once. -/
theorem nodup_names_record (hapart : Apart entries) :
    ((entries.flatMap fun e => form.entry e.1 e.2).map (·.1)).Nodup := by
  rw [List.map_flatMap, List.nodup_flatMap]
  constructor
  · rintro ⟨n, v⟩ -
    cases form with
    | wire => cases hnull : v.isNull <;> simp [Form.entry, hnull]
    | full => simp [Form.entry]
  · refine hapart.imp ?_
    rintro ⟨m, v⟩ ⟨n, w⟩ hmn name hm hn
    obtain ⟨e, he, rfl⟩ := List.mem_map.mp hm
    obtain ⟨f, hf, hname⟩ := List.mem_map.mp hn
    have hone := (eq_or_eq_of_mem_entry he).1
    have hother := (eq_or_eq_of_mem_entry hf).1
    rw [hname] at hother
    rcases hone with h | h <;> rcases hother with h' | h'
    · exact hmn.1 (h.symm.trans h')
    · exact hmn.2.1 (h.symm.trans h')
    · exact hmn.2.2.1 (h.symm.trans h')
    · exact hmn.2.2.2 (h.symm.trans h')

/-- A written record is plain when what its fields hold is. -/
theorem isPlain_record {v : Value} (hv : v = form.record entries) (hapart : Apart entries)
    (h : ∀ e ∈ entries, e.2.IsPlain) : v.IsPlain := by
  subst hv
  refine Value.isPlain_record_of_nodup (nodup_names_record hapart) fun f hf => ?_
  obtain ⟨⟨n, x⟩, hentry, hmem⟩ := List.mem_flatMap.mp hf
  have hx : f.2 = x := (eq_or_eq_of_mem_entry hmem).2
  exact hx ▸ h (n, x) hentry

theorem isPlain_writeOptional {write : α → Value} {o : Option α} (h : ∀ a ∈ o, (write a).IsPlain) :
    (writeOptional write o).IsPlain := by
  cases o with
  | none => exact .null
  | some a => exact h a rfl

theorem isPlain_writeWord [DecidableEq α] {vocabulary : List (String × α)} {a : α} :
    (writeWord vocabulary a).IsPlain := by
  unfold writeWord
  split
  · exact .str _
  · exact .null

theorem isPlain_writeList {write : α → Value} {as : List α} (h : ∀ a ∈ as, (write a).IsPlain) :
    (writeList write as).IsPlain := by
  refine .arr fun x hx => ?_
  obtain ⟨a, ha, rfl⟩ := List.mem_map.mp hx
  exact h a ha

end Written

/-! ### Small parts -/

/-- Neither coordinate is a NaN without a name. -/
structure Position.IsPlain (p : Position) : Prop where
  x : p.x ≠ .nan none
  y : p.y ≠ .nan none

theorem Position.IsPlain.write {p : Position} (hp : p.IsPlain) (form : Form) : (p.write form).IsPlain := by
  refine isPlain_record rfl (by simp [FieldName.same]) ?_
  simp only [List.forall_mem_cons]
  exact ⟨.float hp.x, .float hp.y, List.forall_mem_nil _⟩

/-- The style, if there is one, is a plain value. -/
def HandleLook.IsPlain (h : HandleLook) : Prop :=
  ∀ t ∈ h.style, (TextTable.toValue t).IsPlain

theorem HandleLook.IsPlain.write {h : HandleLook} (hh : h.IsPlain) (form : Form) :
    (h.write form).IsPlain := by
  refine isPlain_record rfl (by simp [FieldName.same]) ?_
  simp only [List.forall_mem_cons]
  exact ⟨isPlain_writeWord, isPlain_writeOptional hh, List.forall_mem_nil _⟩

theorem SelectOption.isPlain_write (o : SelectOption) (form : Form) : (o.write form).IsPlain := by
  refine isPlain_record rfl (by simp [FieldName.same]) ?_
  simp only [List.forall_mem_cons]
  exact ⟨.str _, .str _, isPlain_writeOptional fun b _ => .bool b, isPlain_writeOptional fun s _ => .str s,
    List.forall_mem_nil _⟩

theorem Choice.isPlain_write (c : Choice) (form : Form) : (c.write form).IsPlain := by
  cases c with
  | plain s => exact .str s
  | labelled o => exact o.isPlain_write form

/-! ### Flows -/

/-- The value of the input, its bounds and the style of its handle are plain. -/
structure StoredInput.IsPlain (i : StoredInput) : Prop where
  handle : ∀ h ∈ i.handle, HandleLook.IsPlain h
  value : i.value.IsPlain
  min : ∀ d ∈ i.min, d ≠ Double.nan none
  max : ∀ d ∈ i.max, d ≠ Double.nan none

theorem StoredInput.IsPlain.write {i : StoredInput} (hi : i.IsPlain) (form : Form) :
    (i.write form).IsPlain := by
  refine isPlain_record rfl (by simp [entries, FieldName.same]) ?_
  simp only [entries, List.forall_mem_cons]
  exact ⟨.str _, .str _, isPlain_writeWord, isPlain_writeWord, .bool _, .str _,
    isPlain_writeOptional fun h hh => (hi.handle h hh).write form, hi.value,
    isPlain_writeOptional fun cs _ => isPlain_writeList fun c _ => c.isPlain_write form,
    isPlain_writeOptional fun d hd => .float (hi.min d hd),
    isPlain_writeOptional fun d hd => .float (hi.max d hd), List.forall_mem_nil _⟩

/-- The style of the handle is plain. -/
def StoredOutput.IsPlain (o : StoredOutput) : Prop :=
  ∀ h ∈ o.handle, HandleLook.IsPlain h

theorem StoredOutput.IsPlain.write {o : StoredOutput} (ho : o.IsPlain) (form : Form) :
    (o.write form).IsPlain := by
  refine isPlain_record rfl (by simp [entries, FieldName.same]) ?_
  simp only [entries, List.forall_mem_cons]
  exact ⟨.str _, .str _, isPlain_writeWord, isPlain_writeOptional fun h hh => (ho h hh).write form,
    isPlain_writeOptional fun s _ => .str s, List.forall_mem_nil _⟩

/-- The position, the inputs and the outputs are plain. -/
structure StoredNode.IsPlain (n : StoredNode) : Prop where
  position : n.position.IsPlain
  inputs : ∀ i ∈ n.data.inputs, StoredInput.IsPlain i
  outputs : ∀ o ∈ n.data.outputs, StoredOutput.IsPlain o

theorem StoredNode.IsPlain.write {n : StoredNode} (hn : n.IsPlain) (form : Form) :
    (n.write form).IsPlain := by
  have hdata : (StoredData.write form n.data).IsPlain := by
    refine isPlain_record rfl (by simp [DataOf.entries, FieldName.same]) ?_
    simp only [DataOf.entries, List.forall_mem_cons]
    exact ⟨.str _, .str _, isPlain_writeWord, isPlain_writeList fun i hi => (hn.inputs i hi).write form,
      isPlain_writeList fun o ho => (hn.outputs o ho).write form, List.forall_mem_nil _⟩
  refine isPlain_record rfl (by simp [NodeOf.entries, FieldName.same]) ?_
  simp only [NodeOf.entries, List.forall_mem_cons]
  exact ⟨.str _, .str _, hn.position.write form, isPlain_writeOptional fun s _ => .str s, hdata,
    List.forall_mem_nil _⟩

theorem StoredEdge.isPlain_write (e : StoredEdge) (form : Form) : (e.write form).IsPlain := by
  refine isPlain_record rfl (by simp [entries, FieldName.same]) ?_
  simp only [entries, List.forall_mem_cons]
  exact ⟨.str _, .str _, .str _, .str _, .str _, List.forall_mem_nil _⟩

/-- Every node is plain; nothing else in a flow holds numbers or values of any kind. -/
def StoredFlow.IsPlain (f : StoredFlow) : Prop :=
  ∀ n ∈ f.nodes, StoredNode.IsPlain n

theorem StoredFlow.IsPlain.write {f : StoredFlow} (hf : f.IsPlain) (form : Form) :
    (f.write form).IsPlain := by
  refine isPlain_record rfl (by simp [FieldName.same]) ?_
  simp only [List.forall_mem_cons]
  exact ⟨.str _, isPlain_writeOptional fun s _ => .str s,
    isPlain_writeList fun n hn => (hf n hn).write form,
    isPlain_writeList fun e _ => e.isPlain_write form, List.forall_mem_nil _⟩

end WorkflowCheck
