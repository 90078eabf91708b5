import Mathlib.Tactic.MkIffOfInductiveProp
import WorkflowCheck.Proofs.Flow.Plain
import WorkflowCheck.Proofs.Flow.ReadBack
import WorkflowCheck.Proofs.Value.Equivalence
import WorkflowCheck.Proofs.Value.Field

/-!
# Flows that are the same on the wire

What it means for two stored flows that their records on the wire are the same, said of the flows
themselves (`StoredFlow.Agrees`): numbers and values of any kind are the same, everything else is equal.
A record leaves out fields that hold null, and still two records of one kind are the same exactly if field
by field they are (`same_record_iff`).
-/

namespace WorkflowCheck

open Decode

/-! ### Records on the wire -/

section Records

variable {es fs : List (FieldName × Value)}

/-- Null is the same as null only. -/
theorem Value.isNull_eq_of_same {v w : Value} (h : v.same w = true) : v.isNull = w.isNull := by
  rw [Bool.eq_iff_iff, isNull_iff, isNull_iff]
  constructor
  · rintro rfl
    cases w with
    | null => rfl
    | _ => cases h
  · rintro rfl
    cases v with
    | null => rfl
    | _ => cases h

theorem Value.same_of_isNull {v w : Value} (hv : v.isNull = true) (hw : w.isNull = true) :
    v.same w = true := by
  rw [isNull_iff.mp hv, isNull_iff.mp hw]
  rfl

/-- A field whose name none of the others has for a key does not matter to them. -/
theorem Value.sameFields_cons_right {fs gs : Fields} {name : String} {y : Value}
    (h : Key.str name ∉ fs.keys) : sameFields fs ((.str name, y) :: gs) = sameFields fs gs := by
  rw [Bool.eq_iff_iff, sameFields_iff, sameFields_iff]
  refine forall₂_congr fun e he => ?_
  have hne : ¬ (Key.str name).same e.1 = true := fun hsame => by
    have hkey := Key.same_str_iff.mp (sameScalar_symm hsame)
    exact h (hkey ▸ List.mem_map_of_mem he)
  rw [fieldLike?_cons, if_neg hne]

/-- An object that finds all its fields in another one has no more of them. -/
theorem Value.length_le_of_sameFields {fs gs : Fields} (hkeys : fs.keys.Pairwise fun k l => k.same l = false)
    (h : sameFields fs gs = true) : fs.length ≤ gs.length := by
  obtain ⟨like, hnodup, hsub, -⟩ := exists_likes_of_sameFields hkeys h
  have hlength := (hnodup.subperm hsub).length_le
  rwa [List.length_map] at hlength

/-- The fields of a record on the wire. -/
def wireFields (entries : List (FieldName × Value)) : Fields :=
  (entries.flatMap fun e => Form.wire.entry e.1 e.2).map fun e => (.str e.1, e.2)

theorem wireFields_cons_of_null {n : FieldName} {v : Value} (h : v.isNull = true) :
    wireFields ((n, v) :: es) = wireFields es := by
  simp [wireFields, Form.entry, h]

theorem wireFields_cons {n : FieldName} {v : Value} (h : v.isNull = false) :
    wireFields ((n, v) :: es) = (.str n.wire, v) :: wireFields es := by
  simp [wireFields, Form.entry, h]

theorem not_mem_keys_wireFields {n : FieldName} (h : ∀ e ∈ es, n.Apart e.1) :
    Key.str n.wire ∉ (wireFields es).keys := by
  have habsent : (wireFields es).get? (.str n.wire) = none :=
    get?_record_eq_none fun e he => ⟨(h e he).1.symm, (h e he).2.1.symm⟩
  rw [Table.mem_keys_iff, habsent]
  exact Bool.false_ne_true

theorem pairwise_keys_wireFields (hapart : Apart es) :
    (wireFields es).keys.Pairwise fun k l => k.same l = false := by
  have hnames : ((es.flatMap fun e => Form.wire.entry e.1 e.2).map (·.1)).Nodup := nodup_names_record hapart
  have hkeys := Key.pairwise_str hnames
  rw [List.map_map] at hkeys
  rwa [wireFields, Table.keys, List.map_map]

/-- Two records with the same names on the wire are the same if and only if they hold the same under each
of the names; null is the same as null only, so both leave out the same fields. -/
theorem same_record_iff {v w : Value} (hv : v = Form.wire.record es) (hw : w = Form.wire.record fs)
    (hnames : es.map (·.1) = fs.map (·.1)) (hapart : Apart es) :
    v.same w = true ↔ List.Forall₂ (fun e f => e.2.same f.2 = true) es fs := by
  subst hv hw
  show ((wireFields es).length == (wireFields fs).length &&
    Value.sameFields (wireFields es) (wireFields fs)) = true ↔ _
  rw [Bool.and_eq_true, beq_iff_eq]
  induction es generalizing fs with
  | nil =>
    cases fs with
    | nil => exact iff_of_true ⟨rfl, rfl⟩ .nil
    | cons => cases hnames
  | cons e es ih =>
    obtain _ | ⟨⟨n, w⟩, fs⟩ := fs
    · cases hnames
    obtain ⟨m, v⟩ := e
    obtain ⟨rfl, hrest⟩ := List.cons.inj hnames
    obtain ⟨hfirst, htail⟩ := List.pairwise_cons.mp hapart
    have hnew : Key.str m.wire ∉ (wireFields es).keys := not_mem_keys_wireFields hfirst
    have hnew' : Key.str m.wire ∉ (wireFields fs).keys := by
      refine not_mem_keys_wireFields fun f hf => ?_
      obtain ⟨e, he, heq⟩ := List.mem_map.mp (hrest ▸ List.mem_map_of_mem hf : f.1 ∈ es.map (·.1))
      exact heq ▸ hfirst e he
    rw [List.forall₂_cons, ← ih hrest htail]
    -- A field is left out on one side only if the two do not hold the same there.
    cases hv : v.isNull <;> cases hw : w.isNull
    case false.false =>
      rw [wireFields_cons hv, wireFields_cons hw, Value.sameFields, Value.sameFields_cons_right hnew,
        Value.fieldLike?_str, Table.get?, if_pos rfl]
      simp [and_left_comm]
    case false.true =>
      have hnone : (wireFields fs).get? (.str m.wire) = none :=
        Option.not_isSome_iff_eq_none.mp (mt (Table.mem_keys_iff _ _).mpr hnew')
      rw [wireFields_cons hv, wireFields_cons_of_null hw, Value.sameFields, Value.fieldLike?_str, hnone]
      refine iff_of_false (fun h => Bool.false_ne_true h.2) fun h => ?_
      exact absurd (hv.symm.trans (Value.isNull_eq_of_same h.1)) (hw ▸ Bool.false_ne_true)
    case true.false =>
      rw [wireFields_cons_of_null hv, wireFields_cons hw, Value.sameFields_cons_right hnew,
        List.length_cons]
      refine iff_of_false (fun h => ?_) fun h => ?_
      · have hle : (wireFields es).length ≤ (wireFields fs).length :=
          Value.length_le_of_sameFields (pairwise_keys_wireFields htail) h.2
        omega
      · exact absurd (hw.symm.trans (Value.isNull_eq_of_same h.1).symm) (hv ▸ Bool.false_ne_true)
    case true.true =>
      rw [wireFields_cons_of_null hv, wireFields_cons_of_null hw, Value.same_of_isNull hv hw]
      simp

end Records

/-! ### What fields hold -/

section Leaves

variable {α : Type} {write : α → Value}

/-- Two numbers are the same: of one value, and no NaNs without a name. -/
def Double.Agrees (a b : Double) : Prop :=
  (Value.float a).same (.float b) = true

/-- What can be read back as a word is a text. -/
theorem exists_text_of_word [DecidableEq α] {vocabulary : List (String × α)} {a : α}
    (h : word vocabulary (writeWord vocabulary a) = .valid a) :
    ∃ text, writeWord vocabulary a = .str text := by
  unfold writeWord at h ⊢
  split at h
  case h_1 text _ _ => exact ⟨text, rfl⟩
  case h_2 => cases h

/-- Words that can be read back are the same for equal meanings only. -/
theorem same_writeWord_iff [DecidableEq α] {vocabulary : List (String × α)} {a b : α}
    (ha : word vocabulary (writeWord vocabulary a) = .valid a)
    (hb : word vocabulary (writeWord vocabulary b) = .valid b) :
    (writeWord vocabulary a).same (writeWord vocabulary b) = true ↔ a = b := by
  obtain ⟨s, hs⟩ := exists_text_of_word ha
  obtain ⟨t, ht⟩ := exists_text_of_word hb
  rw [hs, ht, Value.same_str_iff]
  constructor
  · rintro rfl
    rw [hs] at ha
    rw [ht, ha] at hb
    cases hb
    rfl
  · rintro rfl
    exact Value.str.inj (hs.symm.trans ht)

theorem rel_eq_iff {o p : Option α} : Option.Rel Eq o p ↔ o = p := by
  constructor
  · rintro (h | _)
    · exact congrArg some h
    · rfl
  · rintro rfl
    cases o with
    | none => exact .none
    | some a => exact .some rfl

theorem same_writeOptional_iff {R : α → α → Prop} {o p : Option α} (hnull : ∀ a, (write a).isNull = false)
    (h : ∀ a b, (write a).same (write b) = true ↔ R a b) :
    (writeOptional write o).same (writeOptional write p) = true ↔ Option.Rel R o p := by
  cases o with
  | none =>
    cases p with
    | none => exact iff_of_true rfl .none
    | some b =>
      refine iff_of_false (fun hsame => ?_) nofun
      exact absurd ((hnull b).symm.trans (Value.isNull_eq_of_same hsame).symm) nofun
  | some a =>
    cases p with
    | none =>
      refine iff_of_false (fun hsame => ?_) nofun
      exact absurd ((hnull a).symm.trans (Value.isNull_eq_of_same hsame)) nofun
    | some b => exact (h a b).trans ⟨.some, fun | .some hab => hab⟩

theorem same_optional_text_iff {o p : Option String} :
    (writeOptional Value.str o).same (writeOptional Value.str p) = true ↔ o = p :=
  (same_writeOptional_iff (fun _ => rfl) fun _ _ => Value.same_str_iff).trans rel_eq_iff

theorem same_optional_truth_iff {o p : Option Bool} :
    (writeOptional Value.bool o).same (writeOptional Value.bool p) = true ↔ o = p :=
  (same_writeOptional_iff (fun _ => rfl) fun _ _ => Value.same_bool_iff).trans rel_eq_iff

theorem same_optional_number_iff {o p : Option Double} :
    (writeOptional Value.float o).same (writeOptional Value.float p) = true ↔
      Option.Rel Double.Agrees o p :=
  same_writeOptional_iff (fun _ => rfl) fun _ _ => Iff.rfl

theorem same_writeList_iff {R : α → α → Prop} {as bs : List α}
    (h : ∀ a b, (write a).same (write b) = true ↔ R a b) :
    (writeList write as).same (writeList write bs) = true ↔ List.Forall₂ R as bs := by
  rw [writeList, writeList, Value.same, Value.sameItems_iff, List.forall₂_map_left_iff,
    List.forall₂_map_right_iff]
  simp only [h]

end Leaves

/-! ### Small parts -/

/-- Both coordinates are the same. -/
@[mk_iff]
structure Position.Agrees (p q : Position) : Prop where
  x : p.x.Agrees q.x
  y : p.y.Agrees q.y

theorem Position.same_write_iff {p q : Position} :
    (p.write .wire).same (q.write .wire) = true ↔ p.Agrees q := by
  refine Iff.trans (same_record_iff rfl rfl rfl (by simp [FieldName.same])) ?_
  rw [agrees_iff]
  simp only [List.forall₂_cons, List.forall₂_nil_left_iff, and_true]
  exact Iff.rfl

/-- Equal colours, and styles that are the same. -/
@[mk_iff]
structure HandleLook.Agrees (h k : HandleLook) : Prop where
  color : h.color = k.color
  style : Option.Rel (fun t u => t.toValue.same u.toValue = true) h.style k.style

theorem HandleLook.same_write_iff {h k : HandleLook} :
    (h.write .wire).same (k.write .wire) = true ↔ h.Agrees k := by
  have hstyle : (writeOptional TextTable.toValue h.style).same (writeOptional TextTable.toValue k.style) =
      true ↔ Option.Rel (fun t u => t.toValue.same u.toValue = true) h.style k.style :=
    same_writeOptional_iff (fun _ => rfl) fun _ _ => Iff.rfl
  refine Iff.trans (same_record_iff rfl rfl rfl (by simp [FieldName.same])) ?_
  rw [agrees_iff]
  simp only [List.forall₂_cons, List.forall₂_nil_left_iff, and_true,
    same_writeWord_iff h.color.word_writeWord k.color.word_writeWord, hstyle]

theorem same_optional_look_iff {o p : Option HandleLook} :
    (writeOptional (HandleLook.write .wire) o).same (writeOptional (HandleLook.write .wire) p) = true ↔
      Option.Rel HandleLook.Agrees o p :=
  same_writeOptional_iff (fun _ => rfl) fun _ _ => HandleLook.same_write_iff

theorem SelectOption.same_write_iff {o p : SelectOption} :
    (o.write .wire).same (p.write .wire) = true ↔ o = p := by
  refine Iff.trans (same_record_iff rfl rfl rfl (by simp [FieldName.same])) ?_
  rw [mk.injEq]
  simp only [List.forall₂_cons, List.forall₂_nil_left_iff, and_true, Value.same_str_iff,
    same_optional_truth_iff, same_optional_text_iff]

theorem Choice.same_write_iff {c d : Choice} :
    (c.write .wire).same (d.write .wire) = true ↔ c = d := by
  cases c with
  | plain s =>
    cases d with
    | plain t => rw [plain.injEq, write, write, Value.same_str_iff]
    | labelled => exact iff_of_false Bool.false_ne_true Choice.noConfusion
  | labelled o =>
    cases d with
    | plain => exact iff_of_false Bool.false_ne_true Choice.noConfusion
    | labelled p => rw [labelled.injEq, write, write, SelectOption.same_write_iff]

theorem same_optional_choices_iff {o p : Option (List Choice)} :
    (writeOptional (writeList (Choice.write .wire)) o).same
      (writeOptional (writeList (Choice.write .wire)) p) = true ↔ o = p := by
  have hlist : ∀ cs ds : List Choice, (writeList (Choice.write .wire) cs).same
      (writeList (Choice.write .wire) ds) = true ↔ cs = ds := by
    intro cs ds
    rw [same_writeList_iff fun _ _ => Choice.same_write_iff, List.forall₂_eq_eq_eq]
  exact (same_writeOptional_iff (fun _ => rfl) hlist).trans rel_eq_iff

/-! ### Flows -/

/-- The styles of the handles, the values and the bounds are the same, everything else is equal. -/
@[mk_iff]
structure StoredInput.Agrees (i j : StoredInput) : Prop where
  id : i.id = j.id
  title : i.title = j.title
  type : i.type = j.type
  control : i.control = j.control
  required : i.required = j.required
  placeholder : i.placeholder = j.placeholder
  handle : Option.Rel HandleLook.Agrees i.handle j.handle
  value : i.value.same j.value = true
  choices : i.choices = j.choices
  min : Option.Rel Double.Agrees i.min j.min
  max : Option.Rel Double.Agrees i.max j.max

theorem StoredInput.same_write_iff {i j : StoredInput} :
    (i.write .wire).same (j.write .wire) = true ↔ i.Agrees j := by
  refine Iff.trans (same_record_iff rfl rfl rfl (by simp [entries, FieldName.same])) ?_
  rw [agrees_iff]
  simp only [entries, List.forall₂_cons, List.forall₂_nil_left_iff, and_true, Value.same_str_iff,
    same_writeWord_iff i.type.word_writeWord j.type.word_writeWord,
    same_writeWord_iff i.control.word_writeWord j.control.word_writeWord, Value.same_bool_iff,
    same_optional_look_iff, same_optional_choices_iff, same_optional_number_iff]

/-- The styles of the handles are the same, everything else is equal. -/
@[mk_iff]
structure StoredOutput.Agrees (o p : StoredOutput) : Prop where
  id : o.id = p.id
  title : o.title = p.title
  type : o.type = p.type
  handle : Option.Rel HandleLook.Agrees o.handle p.handle
  description : o.description = p.description

theorem StoredOutput.same_write_iff {o p : StoredOutput} :
    (o.write .wire).same (p.write .wire) = true ↔ o.Agrees p := by
  refine Iff.trans (same_record_iff rfl rfl rfl (by simp [entries, FieldName.same])) ?_
  rw [agrees_iff]
  simp only [entries, List.forall₂_cons, List.forall₂_nil_left_iff, and_true, Value.same_str_iff,
    same_writeWord_iff o.type.word_writeWord p.type.word_writeWord, same_optional_look_iff,
    same_optional_text_iff]

/-- Inputs and outputs agree place by place, everything else is equal. -/
@[mk_iff]
structure StoredData.Agrees (d e : StoredData) : Prop where
  title : d.title = e.title
  description : d.description = e.description
  collection : d.collection = e.collection
  inputs : List.Forall₂ StoredInput.Agrees d.inputs e.inputs
  outputs : List.Forall₂ StoredOutput.Agrees d.outputs e.outputs

theorem StoredData.same_write_iff {d e : StoredData} :
    (StoredData.write .wire d).same (StoredData.write .wire e) = true ↔ StoredData.Agrees d e := by
  refine Iff.trans (same_record_iff rfl rfl rfl (by simp [DataOf.entries, FieldName.same])) ?_
  rw [agrees_iff]
  simp only [DataOf.entries, List.forall₂_cons, List.forall₂_nil_left_iff, and_true, Value.same_str_iff,
    same_writeWord_iff d.collection.word_writeWord e.collection.word_writeWord,
    same_writeList_iff fun _ _ => StoredInput.same_write_iff,
    same_writeList_iff fun _ _ => StoredOutput.same_write_iff]

/-- The positions are the same, the data agree, everything else is equal. -/
@[mk_iff]
structure StoredNode.Agrees (m n : StoredNode) : Prop where
  id : m.id = n.id
  type : m.type = n.type
  position : m.position.Agrees n.position
  version : m.version = n.version
  data : StoredData.Agrees m.data n.data

theorem StoredNode.same_write_iff {m n : StoredNode} :
    (StoredNode.write .wire m).same (StoredNode.write .wire n) = true ↔ StoredNode.Agrees m n := by
  refine Iff.trans (same_record_iff rfl rfl rfl (by simp [NodeOf.entries, FieldName.same])) ?_
  rw [agrees_iff]
  simp only [NodeOf.entries, List.forall₂_cons, List.forall₂_nil_left_iff, and_true, Value.same_str_iff,
    Position.same_write_iff, same_optional_text_iff, StoredData.same_write_iff]

theorem StoredEdge.same_write_iff {e f : StoredEdge} :
    (e.write .wire).same (f.write .wire) = true ↔ e = f := by
  refine Iff.trans (same_record_iff rfl rfl rfl (by simp [entries, FieldName.same])) ?_
  rw [mk.injEq]
  simp only [entries, List.forall₂_cons, List.forall₂_nil_left_iff, and_true, Value.same_str_iff]

/-- The nodes agree place by place, everything else is equal. -/
@[mk_iff]
structure StoredFlow.Agrees (f g : StoredFlow) : Prop where
  name : f.name = g.name
  thumbnail : f.thumbnail = g.thumbnail
  nodes : List.Forall₂ StoredNode.Agrees f.nodes g.nodes
  edges : f.edges = g.edges

/-- Two stored flows are the same on the wire if and only if they agree. -/
theorem StoredFlow.same_write_iff {f g : StoredFlow} :
    (f.write .wire).same (g.write .wire) = true ↔ f.Agrees g := by
  refine Iff.trans (same_record_iff rfl rfl rfl (by simp [FieldName.same])) ?_
  rw [agrees_iff]
  simp only [List.forall₂_cons, List.forall₂_nil_left_iff, and_true, Value.same_str_iff,
    same_optional_text_iff, same_writeList_iff fun _ _ => StoredNode.same_write_iff,
    same_writeList_iff fun _ _ => StoredEdge.same_write_iff, List.forall₂_eq_eq_eq]

end WorkflowCheck
