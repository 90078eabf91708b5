import WorkflowCheck.Proofs.Decode.ReadBack
import WorkflowCheck.Proofs.Flow.Views

/-!
# Flows read back as they were written

Each record, in either form, is read as what it was written from (`read_write`, one lemma a kind of
record).  A stored input, output, node or flow needs its ids for that, as reading asks for them and so
gives them (`ensures_read`).  The fields of the stored view are read from whatever shows them
(`fields_of_shows`), since the records of the editor have them among others.
-/

namespace WorkflowCheck

open Decode

variable {v : Value}

/-! ### Words -/

theorem DataKind.word_writeWord (k : DataKind) : word words (writeWord words k) = .valid k := by
  cases k <;> rfl

theorem Control.word_writeWord (c : Control) : word words (writeWord words c) = .valid c := by
  cases c <;> rfl

theorem HandleColor.word_writeWord (c : HandleColor) : word words (writeWord words c) = .valid c := by
  cases c <;> rfl

theorem Collection.word_writeWord (c : Collection) : word words (writeWord words c) = .valid c := by
  cases c <;> rfl

theorem EdgeStyle.word_writeWord (s : EdgeStyle) : word words (writeWord words s) = .valid s := by
  cases s <;> rfl

/-! ### Small parts -/

theorem Position.read_write (form : Form) (p : Position) : Position.read (p.write form) = .valid p := by
  have hshows := forall_shows form (rfl : p.write form = _) (by simp [FieldName.same])
  simp only [List.forall_mem_cons] at hshows
  obtain ⟨hx, hy, -⟩ := hshows
  rw [Position.read, record_of_isObject rfl, required_number_of_shows hx, required_number_of_shows hy]
  rfl

theorem HandleLook.read_write (form : Form) (h : HandleLook) :
    HandleLook.read (h.write form) = .valid h := by
  have hshows := forall_shows form (rfl : h.write form = _) (by simp [FieldName.same])
  simp only [List.forall_mem_cons] at hshows
  obtain ⟨hcolor, hstyle, -⟩ := hshows
  have hword := h.color.word_writeWord
  rw [HandleLook.read, record_of_isObject rfl, required_of_shows hcolor hword (ne_null_of_word hword),
    optionalField_of_shows hstyle fun t _ => ⟨Value.noConfusion, table_toValue t⟩]
  rfl

theorem SelectOption.read_write (form : Form) (o : SelectOption) :
    SelectOption.read (o.write form) = .valid o := by
  have hshows := forall_shows form (rfl : o.write form = _) (by simp [FieldName.same])
  simp only [List.forall_mem_cons] at hshows
  obtain ⟨hvalue, hlabel, hdisabled, htooltip, -⟩ := hshows
  rw [SelectOption.read, record_of_isObject rfl, required_text_of_shows hvalue,
    required_text_of_shows hlabel, optionalField_truth_of_shows hdisabled,
    optionalField_text_of_shows htooltip]
  rfl

/-- A plain choice is no object, and an option is no text. -/
theorem Choice.read_write (form : Form) (c : Choice) : Choice.read (c.write form) = .valid c := by
  cases c with
  | plain s => rfl
  | labelled o =>
    have htext : text (o.write form) = .fault .notText := rfl
    rw [Choice.write, Choice.read, htext, SelectOption.read_write]
    rfl

theorem LoadState.read_write (form : Form) (s : LoadState) :
    LoadState.read (s.write form) = .valid s := by
  have hshows := forall_shows form (rfl : s.write form = _) (by simp [FieldName.same])
  simp only [List.forall_mem_cons] at hshows
  obtain ⟨hloaded, herror, hlast, -⟩ := hshows
  rw [LoadState.read, record_of_isObject rfl, withDefault_truth_of_shows hloaded,
    optionalField_text_of_shows herror, optionalField_number_of_shows hlast]
  rfl

theorem MenuItem.read_write (form : Form) (m : MenuItem) : MenuItem.read (m.write form) = .valid m := by
  have hshows := forall_shows form (rfl : m.write form = _) (by simp [FieldName.same])
  simp only [List.forall_mem_cons] at hshows
  obtain ⟨hkey, hlabel, hdanger, -⟩ := hshows
  rw [MenuItem.read, record_of_isObject rfl, required_text_of_shows hkey, required_text_of_shows hlabel,
    optionalField_truth_of_shows hdanger]
  rfl

theorem HandleSignal.read_write (form : Form) (s : HandleSignal) :
    HandleSignal.read (s.write form) = .valid s := by
  have hshows := forall_shows form (rfl : s.write form = _) (by simp [FieldName.same])
  simp only [List.forall_mem_cons] at hshows
  obtain ⟨hid, htype, hdata, htime, hfrom, hto, -⟩ := hshows
  rw [HandleSignal.read, record_of_isObject rfl, required_text_of_shows hid,
    required_text_of_shows htype, withDefault_of_shows hdata rfl fun hnull => hnull,
    required_text_of_shows htime, optionalField_text_of_shows hfrom, optionalField_text_of_shows hto]
  rfl

/-! ### Stored fields -/

section Fields

variable {form : Form}

theorem StoredInput.fields_of_shows {i : StoredInput} (h : ∀ e ∈ i.entries form, Shows v e.1 e.2)
    (hi : IsFilled i.id) : StoredInput.fields v = .valid i := by
  simp only [StoredInput.entries, List.forall_mem_cons] at h
  obtain ⟨hid, htitle, htype, hcontrol, hrequired, hplaceholder, hhandle, hvalue, hchoices, hmin, hmax,
    -⟩ := h
  have hkind := i.type.word_writeWord
  have hedit := i.control.word_writeWord
  rw [StoredInput.fields, required_filledText_of_shows hid hi, withDefault_text_of_shows htitle,
    withDefault_word_of_shows htype hkind, withDefault_word_of_shows hcontrol hedit,
    withDefault_truth_of_shows hrequired, withDefault_text_of_shows hplaceholder,
    optionalField_of_shows hhandle fun look _ => ⟨record_ne_null, look.read_write form⟩,
    withDefault_of_shows hvalue rfl fun hnull => hnull,
    optionalField_of_shows hchoices fun _ _ =>
      ⟨writeList_ne_null, list_writeList fun c _ => c.read_write form⟩,
    optionalField_number_of_shows hmin, optionalField_number_of_shows hmax]
  rfl

theorem StoredOutput.fields_of_shows {o : StoredOutput} (h : ∀ e ∈ o.entries form, Shows v e.1 e.2)
    (ho : IsFilled o.id) : StoredOutput.fields v = .valid o := by
  simp only [StoredOutput.entries, List.forall_mem_cons] at h
  obtain ⟨hid, htitle, htype, hhandle, hdescription, -⟩ := h
  have hkind := o.type.word_writeWord
  rw [StoredOutput.fields, required_filledText_of_shows hid ho, withDefault_text_of_shows htitle,
    withDefault_word_of_shows htype hkind,
    optionalField_of_shows hhandle fun look _ => ⟨record_ne_null, look.read_write form⟩,
    optionalField_text_of_shows hdescription]
  rfl

theorem StoredEdge.fields_of_shows {e : StoredEdge} (h : ∀ f ∈ e.entries, Shows v f.1 f.2) :
    StoredEdge.fields v = .valid e := by
  simp only [StoredEdge.entries, List.forall_mem_cons] at h
  obtain ⟨hid, hsource, htarget, hout, hin, -⟩ := h
  rw [StoredEdge.fields, withDefault_text_of_shows hid, required_text_of_shows hsource,
    required_text_of_shows htarget, required_text_of_shows hout, required_text_of_shows hin]
  rfl

variable {ι ο δ ν ε : Type}

theorem DataOf.fields_of_shows {d : DataOf ι ο} {readInput : Value → Checked ι}
    {readOutput : Value → Checked ο} {writeInput : ι → Value} {writeOutput : ο → Value}
    (h : ∀ e ∈ d.entries writeInput writeOutput, Shows v e.1 e.2)
    (hinputs : ∀ i ∈ d.inputs, readInput (writeInput i) = .valid i)
    (houtputs : ∀ o ∈ d.outputs, readOutput (writeOutput o) = .valid o) :
    DataOf.fields readInput readOutput v = .valid d := by
  simp only [DataOf.entries, List.forall_mem_cons] at h
  obtain ⟨htitle, hdescription, hcollection, hin, hout, -⟩ := h
  have hgroup := d.collection.word_writeWord
  rw [DataOf.fields, withDefault_text_of_shows htitle, withDefault_text_of_shows hdescription,
    withDefault_word_of_shows hcollection hgroup, withDefault_list_of_shows hin hinputs,
    withDefault_list_of_shows hout houtputs]
  rfl

theorem NodeOf.fields_of_shows {n : NodeOf δ} {readData : Value → Checked δ} {writeData : δ → Value}
    {noData : δ} (h : ∀ e ∈ n.entries form writeData, Shows v e.1 e.2) (hid : IsFilled n.id)
    (htype : IsFilled n.type) (hdata : readData (writeData n.data) = .valid n.data)
    (hnull : writeData n.data ≠ .null) : NodeOf.fields readData noData v = .valid n := by
  simp only [NodeOf.entries, List.forall_mem_cons] at h
  obtain ⟨hid', htype', hposition, hversion, hdata', -⟩ := h
  rw [NodeOf.fields, required_filledText_of_shows hid' hid, required_filledText_of_shows htype' htype,
    required_of_shows hposition (n.position.read_write form) record_ne_null,
    optionalField_text_of_shows hversion, withDefault_of_shows hdata' hdata fun h => absurd h hnull]
  rfl

theorem FlowOf.fields_write {f : FlowOf ν ε} {readNode : Value → Checked ν} {readEdge : Value → Checked ε}
    {writeNode : ν → Value} {writeEdge : ε → Value}
    (hnodes : ∀ n ∈ f.nodes, readNode (writeNode n) = .valid n)
    (hedges : ∀ e ∈ f.edges, readEdge (writeEdge e) = .valid e) :
    FlowOf.fields readNode readEdge (f.write form writeNode writeEdge) = .valid f := by
  have hshows := forall_shows form (rfl : f.write form writeNode writeEdge = _) (by simp [FieldName.same])
  simp only [List.forall_mem_cons] at hshows
  obtain ⟨hname, hthumbnail, hnodes', hedges', -⟩ := hshows
  rw [FlowOf.fields, withDefault_text_of_shows hname, optionalField_text_of_shows hthumbnail,
    withDefault_list_of_shows hnodes' hnodes, withDefault_list_of_shows hedges' hedges]
  rfl

end Fields

/-! ### The stored view -/

/-- Every input and every output has an id. -/
structure StoredData.HasIds (d : StoredData) : Prop where
  inputs : ∀ i ∈ d.inputs, IsFilled i.id
  outputs : ∀ o ∈ d.outputs, IsFilled o.id

/-- The node has an id and a type, and its inputs and outputs have ids. -/
structure StoredNode.HasIds (n : StoredNode) : Prop where
  id : IsFilled n.id
  type : IsFilled n.type
  data : StoredData.HasIds n.data

/-- Every node has its ids and its type. -/
def StoredFlow.HasIds (f : StoredFlow) : Prop :=
  ∀ n ∈ f.nodes, StoredNode.HasIds n

theorem StoredInput.ensures_read (v : Value) : (StoredInput.read v).Ensures fun i => IsFilled i.id :=
  ensures_record (.seq (.seq (.seq (.seq (.seq (.seq (.seq (.seq (.seq (.seq (.map
    fun _ hid _ _ _ _ _ _ _ _ _ _ => ensures_required ensures_filledText _ hid)))))))))))

theorem StoredOutput.ensures_read (v : Value) : (StoredOutput.read v).Ensures fun o => IsFilled o.id :=
  ensures_record (.seq (.seq (.seq (.seq (.map
    fun _ hid _ _ _ _ => ensures_required ensures_filledText _ hid)))))

theorem StoredData.ensures_read (v : Value) : (StoredData.read v).Ensures StoredData.HasIds := by
  have hinputs : (withDefault v (.same "inputs") (list StoredInput.read) []).Ensures
      fun is => ∀ i ∈ is, IsFilled i.id :=
    ensures_withDefault (fun _ => ensures_list StoredInput.ensures_read) (List.forall_mem_nil _)
  have houtputs : (withDefault v (.same "outputs") (list StoredOutput.read) []).Ensures
      fun os => ∀ o ∈ os, IsFilled o.id :=
    ensures_withDefault (fun _ => ensures_list StoredOutput.ensures_read) (List.forall_mem_nil _)
  refine ensures_record (.seq_of (.seq_of (.seq (.seq (.map ?_))) hinputs) houtputs)
  exact fun _ _ _ _ _ hin _ hout => ⟨hin, hout⟩

theorem StoredNode.ensures_read (v : Value) : (StoredNode.read v).Ensures StoredNode.HasIds := by
  have hid : (required v (.same "id") filledText).Ensures IsFilled := ensures_required ensures_filledText
  have htype : (required v (.same "type") filledText).Ensures IsFilled :=
    ensures_required ensures_filledText
  have hdata : (withDefault v (.same "data") StoredData.read .empty).Ensures StoredData.HasIds :=
    ensures_withDefault StoredData.ensures_read ⟨List.forall_mem_nil _, List.forall_mem_nil _⟩
  refine ensures_record (.seq_of (.seq (.seq (.seq_of (.map ?_) htype))) hdata)
  exact fun id hid' type htype' _ _ data hdata' => ⟨hid id hid', htype', hdata'⟩

theorem StoredFlow.ensures_read (v : Value) : (StoredFlow.read v).Ensures StoredFlow.HasIds := by
  have hnodes : (withDefault v (.same "nodes") (list StoredNode.read) []).Ensures
      fun ns => ∀ n ∈ ns, StoredNode.HasIds n :=
    ensures_withDefault (fun _ => ensures_list StoredNode.ensures_read) (List.forall_mem_nil _)
  refine ensures_record (.seq (.seq_of (.seq (.map ?_)) hnodes))
  exact fun _ _ _ _ hns _ => hns

theorem StoredInput.read_write (form : Form) {i : StoredInput} (hi : IsFilled i.id) :
    StoredInput.read (i.write form) = .valid i := by
  rw [StoredInput.read, record_of_isObject rfl]
  exact fields_of_shows (forall_shows form rfl (by simp [entries, FieldName.same])) hi

theorem StoredOutput.read_write (form : Form) {o : StoredOutput} (ho : IsFilled o.id) :
    StoredOutput.read (o.write form) = .valid o := by
  rw [StoredOutput.read, record_of_isObject rfl]
  exact fields_of_shows (forall_shows form rfl (by simp [entries, FieldName.same])) ho

theorem StoredEdge.read_write (form : Form) (e : StoredEdge) :
    StoredEdge.read (e.write form) = .valid e := by
  rw [StoredEdge.read, record_of_isObject rfl]
  exact fields_of_shows (forall_shows form rfl (by simp [entries, FieldName.same]))

theorem StoredData.read_write (form : Form) {d : StoredData} (hd : d.HasIds) :
    StoredData.read (d.write form) = .valid d := by
  have hshows := forall_shows form (rfl : d.write form = _) (by simp [DataOf.entries, FieldName.same])
  rw [StoredData.read, record_of_isObject rfl]
  exact DataOf.fields_of_shows hshows (fun i hi => StoredInput.read_write form (hd.inputs i hi))
    fun o ho => StoredOutput.read_write form (hd.outputs o ho)

theorem StoredNode.read_write (form : Form) {n : StoredNode} (hn : n.HasIds) :
    StoredNode.read (n.write form) = .valid n := by
  have hshows := forall_shows form (rfl : n.write form = _) (by simp [NodeOf.entries, FieldName.same])
  rw [StoredNode.read, record_of_isObject rfl]
  exact NodeOf.fields_of_shows hshows hn.id hn.type (StoredData.read_write form hn.data) record_ne_null

theorem StoredFlow.read_write (form : Form) {f : StoredFlow} (hf : f.HasIds) :
    StoredFlow.read (f.write form) = .valid f := by
  rw [StoredFlow.read, record_of_isObject rfl]
  exact FlowOf.fields_write (fun n hn => StoredNode.read_write form (hf n hn))
    fun e _ => e.read_write form

/-! ### The editor view -/

theorem EditorInput.read_write (form : Form) {i : EditorInput} (hi : IsFilled i.id) :
    EditorInput.read (i.write form) = .valid i := by
  have hshows := forall_shows form (rfl : i.write form = _)
    (by simp [StoredInput.entries, FieldName.same])
  obtain ⟨hstored, hmarks⟩ := List.forall_mem_append.mp hshows
  simp only [List.forall_mem_cons] at hmarks
  obtain ⟨hdeleted, hdisabled, hload, -⟩ := hmarks
  rw [EditorInput.read, record_of_isObject rfl, StoredInput.fields_of_shows hstored hi,
    withDefault_truth_of_shows hdeleted, withDefault_truth_of_shows hdisabled,
    withDefault_of_shows hload (i.load.read_write form) fun hnull => absurd hnull record_ne_null]
  rfl

theorem EditorOutput.read_write (form : Form) {o : EditorOutput} (ho : IsFilled o.id) :
    EditorOutput.read (o.write form) = .valid o := by
  have hshows := forall_shows form (rfl : o.write form = _)
    (by simp [StoredOutput.entries, FieldName.same])
  obtain ⟨hstored, hmarks⟩ := List.forall_mem_append.mp hshows
  simp only [List.forall_mem_cons] at hmarks
  obtain ⟨hdeleted, -⟩ := hmarks
  rw [EditorOutput.read, record_of_isObject rfl, StoredOutput.fields_of_shows hstored ho,
    withDefault_truth_of_shows hdeleted]
  rfl

theorem EditorEdge.read_write (form : Form) (e : EditorEdge) :
    EditorEdge.read (e.write form) = .valid e := by
  have hshows := forall_shows form (rfl : e.write form = _)
    (by simp [StoredEdge.entries, FieldName.same])
  obtain ⟨hstored, hdrawn⟩ := List.forall_mem_append.mp hshows
  simp only [List.forall_mem_cons] at hdrawn
  obtain ⟨hstyle, hanimated, -⟩ := hdrawn
  have hword := e.style.word_writeWord
  rw [EditorEdge.read, record_of_isObject rfl, StoredEdge.fields_of_shows hstored,
    withDefault_word_of_shows hstyle hword, withDefault_truth_of_shows hanimated]
  rfl

theorem EditorData.read_write (form : Form) {d : EditorData} (hd : d.toStored.HasIds) :
    EditorData.read (d.write form) = .valid d := by
  have hshows := forall_shows form (rfl : d.write form = _) (by simp [DataOf.entries, FieldName.same])
  obtain ⟨hstored, hcanvas⟩ := List.forall_mem_append.mp hshows
  simp only [List.forall_mem_cons] at hcanvas
  obtain ⟨hid, hedges, hmenu, hdeep, hexecuting, hstopping, hsignals, -⟩ := hcanvas
  have hfields : DataOf.fields EditorInput.read EditorOutput.read (d.write form) = .valid d.toDataOf :=
    DataOf.fields_of_shows hstored
      (fun i hi => EditorInput.read_write form (hd.inputs _ (List.mem_map_of_mem hi)))
      fun o ho => EditorOutput.read_write form (hd.outputs _ (List.mem_map_of_mem ho))
  rw [EditorData.read, record_of_isObject rfl, hfields, withDefault_text_of_shows hid,
    withDefault_list_of_shows hedges (fun e _ => e.read_write form),
    withDefault_list_of_shows hmenu (fun m _ => m.read_write form), withDefault_truth_of_shows hdeep,
    withDefault_truth_of_shows hexecuting, withDefault_truth_of_shows hstopping,
    withDefault_list_of_shows hsignals (fun s _ => s.read_write form)]
  rfl

theorem EditorNode.read_write (form : Form) {n : EditorNode} (hn : n.toStored.HasIds) :
    EditorNode.read (n.write form) = .valid n := by
  have hshows := forall_shows form (rfl : n.write form = _) (by simp [NodeOf.entries, FieldName.same])
  obtain ⟨hstored, hcanvas⟩ := List.forall_mem_append.mp hshows
  simp only [List.forall_mem_cons] at hcanvas
  obtain ⟨hclass, hwidth, hheight, hselected, hdragging, habsolute, -⟩ := hcanvas
  have hfields : NodeOf.fields EditorData.read .empty (n.write form) = .valid n.toNodeOf :=
    NodeOf.fields_of_shows hstored hn.id hn.type (EditorData.read_write form hn.data) record_ne_null
  rw [EditorNode.read, record_of_isObject rfl, hfields, withDefault_text_of_shows hclass,
    optionalField_number_of_shows hwidth, optionalField_number_of_shows hheight,
    withDefault_truth_of_shows hselected, withDefault_truth_of_shows hdragging,
    optionalField_of_shows habsolute fun p _ => ⟨record_ne_null, p.read_write form⟩]
  rfl

/-- What is kept of the flow when it is saved, before empty lists of options are dropped. -/
def EditorFlow.kept (f : EditorFlow) : StoredFlow :=
  f.map EditorNode.toStored EditorEdge.toStoredEdge

theorem EditorFlow.read_write (form : Form) {f : EditorFlow} (hf : f.kept.HasIds) :
    EditorFlow.read (f.write form) = .valid f := by
  rw [EditorFlow.read, record_of_isObject rfl]
  exact FlowOf.fields_write
    (fun n hn => EditorNode.read_write form (hf n.toStored (List.mem_map_of_mem hn)))
    fun e _ => e.read_write form

theorem EditorFlow.ensures_read (v : Value) : (EditorFlow.read v).Ensures fun f => f.kept.HasIds :=
  fun f hf => StoredFlow.ensures_read v f.kept (EditorFlow.readsAs v f hf)

end WorkflowCheck
