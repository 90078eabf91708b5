import WorkflowCheck.Flow.Convert
import WorkflowCheck.Proofs.Flow.ReadBack
import WorkflowCheck.Proofs.Flow.Tidy

/-!
# The two views as projections

Saving and opening never fail on a flow that was read, and agree with what `Flow.toStored` and
`Flow.toEditor` give without the detour through records (`Flow.saveByRecords_eq`,
`Flow.openByRecords_eq`).  Saving twice is saving once, opening twice is opening once, and saving does not
notice whether the flow was opened before (`Flow.projects`).  The one thing that saving takes from a stored
flow is an empty list of options.
-/

namespace WorkflowCheck

open Decode Checked

/-! ### Lists and shapes -/

section Shape

variable {ι ο ι' ο' δ : Type}

theorem each_eq_valid {α β : Type} {f : α → Checked β} {g : α → β} {xs : List α}
    (h : ∀ x ∈ xs, f x = .valid (g x)) : Checked.each f xs = .valid (xs.map g) := by
  induction xs with
  | nil => rfl
  | cons x xs ih =>
    obtain ⟨hhead, htail⟩ := List.forall_mem_cons.mp h
    rw [each, hhead, ih htail]
    rfl

theorem DataOf.convert_eq_valid {f : ι → Checked ι'} {g : ο → Checked ο'} {f' : ι → ι'} {g' : ο → ο'}
    {d : DataOf ι ο} (hinputs : ∀ i ∈ d.inputs, f i = .valid (f' i))
    (houtputs : ∀ o ∈ d.outputs, g o = .valid (g' o)) : d.convert f g = .valid (d.map f' g') := by
  rw [DataOf.convert, each_eq_valid hinputs, each_eq_valid houtputs]
  rfl

theorem NodeOf.convert_eq_valid {δ' : Type} {f : δ → Checked δ'} {f' : δ → δ'} {n : NodeOf δ}
    (hid : IsFilled n.id) (htype : IsFilled n.type) (hdata : f n.data = .valid (f' n.data)) :
    n.convert f = .valid (n.map f') := by
  rw [NodeOf.convert, hdata, filledText_str_iff.mpr hid, filledText_str_iff.mpr htype]
  rfl

end Shape

/-! ### Saving by records -/

/-- What the record of a saved input gives is the input without an empty list of options. -/
theorem StoredInput.saveByRecord_eq {i : StoredInput} (hi : IsFilled i.id) :
    i.saveByRecord = .valid i.tidied := by
  have hapart : Apart (i.entries .full) := by simp [entries, FieldName.same]
  have hshows : ∀ e ∈ i.entries .full, Shows i.savedRecord e.1
      (if !(e.1 == .same "options" && e.2.isEmpty) then e.2 else .null) :=
    fun e he => shows_filter hapart _ he
  have hchoices : (if (writeOptional (writeList (Choice.write .full)) i.choices).isEmpty = false then
      writeOptional (writeList (Choice.write .full)) i.choices else .null) =
      writeOptional (writeList (Choice.write .full)) i.tidied.choices := by
    rcases hcases : i.choices with _ | _ | ⟨c, cs⟩ <;> simp only [tidied, hcases] <;> rfl
  have hentries : ∀ e ∈ i.tidied.entries .full, Shows i.savedRecord e.1 e.2 := by
    simp only [entries, List.forall_mem_cons] at hshows ⊢
    simp only [FieldName.same, Bool.not_and, Bool.or_eq_true, Bool.not_eq_eq_eq_not, Bool.not_true,
      beq_eq_false_iff_ne, ne_eq, FieldName.mk.injEq, String.reduceEq, and_self, not_false_eq_true, true_or,
      ↓reduceIte, BEq.rfl, Bool.true_and, hchoices] at hshows
    obtain ⟨hid, htitle, htype, hcontrol, hrequired, hplaceholder, hhandle, hvalue, hoptions, hmin,
      hmax, -⟩ := hshows
    exact ⟨hid, htitle, htype, hcontrol, hrequired, hplaceholder, hhandle, hvalue, hoptions, hmin, hmax,
      List.forall_mem_nil _⟩
  rw [saveByRecord, StoredInput.read, record_of_isObject rfl]
  exact fields_of_shows hentries hi

theorem StoredOutput.saveByRecord_eq {o : StoredOutput} (ho : IsFilled o.id) :
    o.saveByRecord = .valid o :=
  StoredOutput.read_write .full ho

theorem StoredEdge.saveByRecord_eq (e : StoredEdge) : e.saveByRecord = .valid e :=
  e.read_write .full

theorem StoredFlow.saveByRecords_eq {f : StoredFlow} (hf : f.HasIds) :
    f.saveByRecords = .valid f.tidied := by
  have hnodes : each (NodeOf.convert (DataOf.convert StoredInput.saveByRecord StoredOutput.saveByRecord))
      f.nodes = .valid (f.nodes.map fun n => n.map fun d => d.map StoredInput.tidied id) :=
    each_eq_valid fun n hn => NodeOf.convert_eq_valid (hf n hn).id (hf n hn).type
      (DataOf.convert_eq_valid (fun i hi => StoredInput.saveByRecord_eq ((hf n hn).data.inputs i hi))
        fun o ho => StoredOutput.saveByRecord_eq ((hf n hn).data.outputs o ho))
  have hedges : each StoredEdge.saveByRecord f.edges = .valid (f.edges.map id) :=
    each_eq_valid fun e _ => e.saveByRecord_eq
  rw [saveByRecords, hnodes, andThen, hedges]
  rfl

/-! ### Opening by records -/

/-- The record of a stored input has none of the marks of the editor, so they are as at first. -/
theorem StoredInput.openByRecord_eq {i : StoredInput} (hi : IsFilled i.id) :
    i.openByRecord = .valid i.toEditor := by
  have hshows := forall_shows .full (rfl : i.write .full = _) (by simp [entries, FieldName.same])
  have hdeleted : FieldName.find? ⟨"isDeleted", "is_deleted"⟩ (i.write .full) = none :=
    find?_record_eq_none (by simp [entries, FieldName.same])
  have hdisabled : (FieldName.same "disabled").find? (i.write .full) = none :=
    find?_record_eq_none (by simp [entries, FieldName.same])
  have hload : FieldName.find? ⟨"_instanceState", "instance_state"⟩ (i.write .full) = none :=
    find?_record_eq_none (by simp [entries, FieldName.same])
  rw [openByRecord, EditorInput.read, record_of_isObject rfl, fields_of_shows hshows hi,
    withDefault_of_absent hdeleted, withDefault_of_absent hdisabled, withDefault_of_absent hload]
  rfl

theorem StoredOutput.openByRecord_eq {o : StoredOutput} (ho : IsFilled o.id) :
    o.openByRecord = .valid o.toEditor := by
  have hshows := forall_shows .full (rfl : o.write .full = _) (by simp [entries, FieldName.same])
  have hdeleted : FieldName.find? ⟨"isDeleted", "is_deleted"⟩ (o.write .full) = none :=
    find?_record_eq_none (by simp [entries, FieldName.same])
  rw [openByRecord, EditorOutput.read, record_of_isObject rfl, fields_of_shows hshows ho,
    withDefault_of_absent hdeleted]
  rfl

theorem StoredEdge.openByRecord_eq (e : StoredEdge) : e.openByRecord = .valid e.toEditor := by
  have hshows := forall_shows .full (rfl : e.write .full = _) (by simp [entries, FieldName.same])
  have hstyle : (FieldName.same "type").find? (e.write .full) = none :=
    find?_record_eq_none (by simp [entries, FieldName.same])
  have hanimated : (FieldName.same "animated").find? (e.write .full) = none :=
    find?_record_eq_none (by simp [entries, FieldName.same])
  rw [openByRecord, EditorEdge.read, record_of_isObject rfl, fields_of_shows hshows,
    withDefault_of_absent hstyle, withDefault_of_absent hanimated]
  rfl

/-- A flow whose inputs, outputs and edges are marked as in the editor, without a canvas. -/
abbrev MarkedFlow := FlowOf (NodeOf (DataOf EditorInput EditorOutput)) EditorEdge

/-- A flow opens when its inputs, outputs and edges do. -/
theorem openByRecords_eq {ι ο ε : Type} {openInput : ι → Checked EditorInput}
    {openOutput : ο → Checked EditorOutput} {openEdge : ε → Checked EditorEdge} {f' : ι → EditorInput}
    {g' : ο → EditorOutput} {h' : ε → EditorEdge} {f : FlowOf (NodeOf (DataOf ι ο)) ε}
    (hids : ∀ n ∈ f.nodes, IsFilled n.id ∧ IsFilled n.type)
    (hinputs : ∀ n ∈ f.nodes, ∀ i ∈ n.data.inputs, openInput i = .valid (f' i))
    (houtputs : ∀ n ∈ f.nodes, ∀ o ∈ n.data.outputs, openOutput o = .valid (g' o))
    (hedges : ∀ e ∈ f.edges, openEdge e = .valid (h' e)) :
    openByRecords openInput openOutput openEdge f =
      .valid (openFlow (f.map (fun n => n.map fun d => d.map f' g') h')) := by
  have hnodes : each (NodeOf.convert (DataOf.convert openInput openOutput)) f.nodes =
      .valid (f.nodes.map fun n => n.map fun d => d.map f' g') :=
    each_eq_valid fun n hn => NodeOf.convert_eq_valid (hids n hn).1 (hids n hn).2
      (DataOf.convert_eq_valid (hinputs n hn) (houtputs n hn))
  rw [openByRecords, each_eq_valid hedges, andThen, hnodes]
  rfl

theorem StoredFlow.openByRecords_eq {f : StoredFlow} (hf : f.HasIds) :
    (Flow.stored f).openByRecords = .valid f.toEditor :=
  WorkflowCheck.openByRecords_eq (fun n hn => ⟨(hf n hn).id, (hf n hn).type⟩)
    (fun n hn i hi => StoredInput.openByRecord_eq ((hf n hn).data.inputs i hi))
    (fun n hn o ho => StoredOutput.openByRecord_eq ((hf n hn).data.outputs o ho))
    fun e _ => e.openByRecord_eq

/-- The flow with its marks but without the state of the canvas. -/
def EditorFlow.marked (f : EditorFlow) : MarkedFlow :=
  f.map (fun n => n.toNodeOf.map (·.toDataOf)) id

theorem EditorFlow.openByRecords_eq {f : EditorFlow} (hf : f.kept.HasIds) :
    (Flow.editor f).openByRecords = .valid f.reopened := by
  have hids : ∀ n ∈ f.marked.nodes, (IsFilled n.id ∧ IsFilled n.type) ∧
      (∀ i ∈ n.data.inputs, IsFilled i.id) ∧ ∀ o ∈ n.data.outputs, IsFilled o.id := by
    intro n hn
    obtain ⟨m, hm, rfl⟩ := List.mem_map.mp hn
    have hm' : m.toStored.HasIds := hf m.toStored (List.mem_map_of_mem hm)
    exact ⟨⟨hm'.id, hm'.type⟩, fun i hi => hm'.data.inputs _ (List.mem_map_of_mem hi),
      fun o ho => hm'.data.outputs _ (List.mem_map_of_mem ho)⟩
  have hopened : (Flow.editor f).openByRecords =
      .valid (openFlow (f.marked.map (fun n => n.map fun d => d.map id id) id)) :=
    WorkflowCheck.openByRecords_eq (fun n hn => (hids n hn).1)
      (fun n hn i hi => i.read_write .full ((hids n hn).2.1 i hi))
      (fun n hn o ho => o.read_write .full ((hids n hn).2.2 o ho)) fun e _ => e.read_write .full
  have hself : f.marked.map (fun n => n.map fun d => d.map id id) id = f.marked := by
    simp [FlowOf.map_eq_self_iff, NodeOf.map_eq_self_iff, DataOf.map_eq_self_iff]
  rw [hopened, hself]
  rfl

/-! ### Marks -/

/-- The flow marked as one that has just been opened. -/
def StoredFlow.marked (f : StoredFlow) : MarkedFlow :=
  f.map (fun n => n.map fun d => d.map StoredInput.toEditor StoredOutput.toEditor) StoredEdge.toEditor

/-- The flow without its marks. -/
def MarkedFlow.unmarked (f : MarkedFlow) : StoredFlow :=
  f.map (fun n => n.map fun d => d.map (·.toStoredInput) (·.toStoredOutput)) (·.toStoredEdge)

theorem StoredFlow.unmarked_marked (f : StoredFlow) : MarkedFlow.unmarked f.marked = f := by
  have hdata : ∀ d : StoredData, ((d.map StoredInput.toEditor StoredOutput.toEditor).map
      (·.toStoredInput) (·.toStoredOutput)) = d := by
    intro d
    rw [DataOf.map_map, DataOf.map_eq_self_iff]
    exact ⟨fun _ _ => rfl, fun _ _ => rfl⟩
  have hnode : ∀ n : StoredNode, (n.map fun d => (d.map StoredInput.toEditor StoredOutput.toEditor).map
      (·.toStoredInput) (·.toStoredOutput)) = n :=
    fun n => NodeOf.map_eq_self_iff.mpr (hdata n.data)
  rw [MarkedFlow.unmarked, marked, FlowOf.map_map, FlowOf.map_eq_self_iff]
  exact ⟨fun n _ => hnode n, fun _ _ => rfl⟩

theorem EditorFlow.unmarked_marked (f : EditorFlow) : MarkedFlow.unmarked f.marked = f.kept := by
  rw [MarkedFlow.unmarked, marked, FlowOf.map_map]
  rfl

/-- Opening gives the canvas a new state and leaves the marks. -/
theorem marked_openFlow (f : MarkedFlow) : (openFlow f).marked = f := by
  rw [openFlow, EditorFlow.marked, FlowOf.map_map, FlowOf.map_eq_self_iff]
  exact ⟨fun _ _ => rfl, fun _ _ => rfl⟩

/-! ### Either view -/

namespace Flow

/-- The flow in the stored view, with empty lists of options if it has any. -/
def kept : Flow → StoredFlow
  | .stored f => f
  | .editor f => f.kept

/-- A value reads as the flow in the view that the flow is in. -/
def IsReadFrom : Flow → Value → Prop
  | .stored f, v => StoredFlow.read v = .valid f
  | .editor f, v => EditorFlow.read v = .valid f

theorem IsReadFrom.hasIds {x : Flow} {v : Value} (hx : x.IsReadFrom v) : x.kept.HasIds := by
  cases x with
  | stored f => exact StoredFlow.ensures_read v f hx
  | editor f => exact EditorFlow.ensures_read v f hx

theorem toStored_eq (x : Flow) : x.toStored = x.kept.tidied := by
  cases x <;> rfl

/-- The flow with its marks; those of a stored flow are as at first. -/
def marked : Flow → MarkedFlow
  | .stored f => f.marked
  | .editor f => f.marked

theorem toEditor_eq (x : Flow) : x.toEditor = openFlow x.marked := by
  cases x <;> rfl

theorem unmarked_marked (x : Flow) : MarkedFlow.unmarked x.marked = x.kept := by
  cases x with
  | stored f => exact f.unmarked_marked
  | editor f => exact f.unmarked_marked

/-- An opened flow has the marks of the flow that it was opened from. -/
theorem marked_toEditor (x : Flow) : (Flow.editor x.toEditor).marked = x.marked := by
  rw [toEditor_eq]
  exact marked_openFlow x.marked

/-- Opening a flow keeps all that is stored of it. -/
theorem kept_toEditor (x : Flow) : (Flow.editor x.toEditor).kept = x.kept := by
  rw [← unmarked_marked, marked_toEditor, unmarked_marked]

theorem saveByRecords_eq {x : Flow} (hx : x.kept.HasIds) : x.saveByRecords = .valid x.toStored := by
  rw [toStored_eq]
  cases x with
  | stored f => exact f.saveByRecords_eq hx
  | editor f => exact f.kept.saveByRecords_eq hx

theorem openByRecords_eq {x : Flow} (hx : x.kept.HasIds) : x.openByRecords = .valid x.toEditor := by
  cases x with
  | stored f => exact f.openByRecords_eq hx
  | editor f => exact f.openByRecords_eq hx

/-- The ids of the nodes in order, each with the ids of its inputs and of its outputs in order. -/
def outline : Flow → List (String × List String × List String)
  | .stored f => f.nodes.map fun n => (n.id, n.data.inputs.map (·.id), n.data.outputs.map (·.id))
  | .editor f => f.nodes.map fun n => (n.id, n.data.inputs.map (·.id), n.data.outputs.map (·.id))

theorem outline_kept (x : Flow) : (Flow.stored x.kept).outline = x.outline := by
  cases x with
  | stored f => rfl
  | editor f =>
    simp [outline, kept, EditorFlow.kept, FlowOf.map, EditorNode.toStored, NodeOf.map, DataOf.map]

theorem outline_tidied (f : StoredFlow) : (Flow.stored f.tidied).outline = (Flow.stored f).outline := by
  simp [outline, StoredFlow.tidied, FlowOf.map, NodeOf.map, DataOf.map, StoredInput.tidied]

theorem edges_kept (x : Flow) : (Flow.stored x.kept).edges = x.edges := by
  cases x <;> rfl

theorem edges_tidied (f : StoredFlow) : (Flow.stored f.tidied).edges = (Flow.stored f).edges :=
  List.map_id f.edges

/-! ### The laws -/

/-- Saving gives `s` and opening gives `e`, whichever of the two came before.  Opening keeps all that is
stored, saving all but empty lists of options, and neither adds, drops or moves a node, an input, an output
or an edge. -/
structure Projects (x : Flow) (s : StoredFlow) (e : EditorFlow) : Prop where
  saves : x.saveByRecords = .valid s
  opens : x.openByRecords = .valid e
  saves_opened : (Flow.editor e).saveByRecords = .valid s
  saves_saved : (Flow.stored s).saveByRecords = .valid s
  opens_opened : (Flow.editor e).openByRecords = .valid e
  kept_saved : s = x.kept.tidied
  kept_opened : (Flow.editor e).kept = x.kept
  outline_saved : (Flow.stored s).outline = x.outline
  outline_opened : (Flow.editor e).outline = x.outline
  edges_saved : (Flow.stored s).edges = x.edges
  edges_opened : (Flow.editor e).edges = x.edges

theorem projects_of_hasIds {x : Flow} (hx : x.kept.HasIds) : x.Projects x.toStored x.toEditor := by
  have hopened : (Flow.editor x.toEditor).kept.HasIds := by rwa [kept_toEditor]
  have hsaved : (Flow.stored x.toStored).kept.HasIds := by
    rw [toStored_eq]
    exact hx.tidied
  refine ⟨saveByRecords_eq hx, openByRecords_eq hx, ?saves_opened, ?saves_saved, ?opens_opened,
    toStored_eq x, kept_toEditor x, ?outline_saved, ?outline_opened, ?edges_saved, ?edges_opened⟩
  case saves_opened => rw [saveByRecords_eq hopened, toStored_eq, kept_toEditor, ← toStored_eq]
  case saves_saved =>
    rw [saveByRecords_eq hsaved, toStored_eq, toStored_eq]
    exact congrArg Checked.valid (StoredFlow.tidied_tidied x.kept)
  case opens_opened => rw [openByRecords_eq hopened, toEditor_eq, marked_toEditor, ← toEditor_eq]
  case outline_saved => rw [toStored_eq, outline_tidied, outline_kept]
  case outline_opened => rw [← outline_kept, kept_toEditor, outline_kept]
  case edges_saved => rw [toStored_eq, edges_tidied, edges_kept]
  case edges_opened => rw [← edges_kept, kept_toEditor, edges_kept]

/-- A flow that was read saves and opens without a problem, and the two views are projections.  A stored
flow that is opened and saved is the same on the wire exactly if no input has an empty list of options;
one that has such a list is not even the same when the order of fields and the kinds of numbers do not
count. -/
theorem projects (x : Flow) (v : Value) (hx : x.IsReadFrom v) :
    ∃ s e, x.Projects s e ∧ ∀ f, x = .stored f →
      (s.write .wire = f.write .wire ↔ f.IsTidy) ∧
        ((s.write .wire).same (f.write .wire) = true → f.IsTidy) := by
  refine ⟨x.toStored, x.toEditor, projects_of_hasIds hx.hasIds, ?_⟩
  rintro f rfl
  have hf : f.HasIds := hx.hasIds
  refine ⟨?_, fun h => StoredFlow.isTidy_of_same (Or.inl h)⟩
  rw [← StoredFlow.tidied_eq_self_iff]
  constructor
  · -- Equal on the wire, the two are read as one flow.
    intro hwire
    have hread : StoredFlow.read (f.write .wire) = .valid f.tidied := by
      rw [← hwire]
      exact StoredFlow.read_write .wire hf.tidied
    rw [StoredFlow.read_write .wire hf] at hread
    injection hread with hself
    exact hself.symm
  · intro hself
    rw [toStored_eq, kept, hself]

/-- A saved flow with an empty list of options beside one that is not. -/
def pricesFlow : Value :=
  .record
    [("name", .str "Prices"),
      ("nodes", .arr
        [.record
          [("id", .str "feed"), ("type", .str "price_node"),
            ("position", .record [("x", .int 0), ("y", .str "1.5")]),
            ("data", .record
              [("inputs", .arr
                [.record [("id", .str "chain"), ("inputType", .str "select"), ("options", .arr [])],
                  .record [("id", .str "pair"), ("options", .arr [.str "ETH", .str "BTC"])]]),
                ("outputs", .arr [.record [("id", .str "price"), ("type", .str "number")]])])],
        .record
          [("id", .str "log"), ("type", .str "log_node"),
            ("position", .record [("x", .int 400), ("y", .int 0)])]]),
      ("edges", .arr
        [.record
          [("source", .str "feed"), ("sourceHandle", .str "price-handle"), ("target", .str "log"),
            ("targetHandle", .str "line-handle")]])]

theorem pricesFlow_projects :
    ∃ x, IsReadFrom x pricesFlow ∧ ∃ s e, x.Projects s e ∧ ∀ f, x = .stored f →
      (s.write .wire = f.write .wire ↔ f.IsTidy) ∧
        ((s.write .wire).same (f.write .wire) = true → f.IsTidy) := by
  have hread : (StoredFlow.read pricesFlow).toOption.isSome = true := by decide +kernel
  cases h : StoredFlow.read pricesFlow with
  | valid f => exact ⟨.stored f, h, projects (.stored f) pricesFlow h⟩
  | faulty ps =>
    rw [h] at hread
    cases hread

end Flow

end WorkflowCheck
