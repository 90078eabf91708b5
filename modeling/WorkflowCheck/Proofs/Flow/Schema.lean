import WorkflowCheck.Flow.Schema
import WorkflowCheck.Proofs.Flow.ReadBack

/-!
# Writing keeps every record

Whatever is read as a record of some kind is read as the same record again from what it is written as, on
the wire and in full (`recordKinds_read_back`).  So reading and writing once brings a value into a normal
form that reading and writing again does not change.
-/

namespace WorkflowCheck

open Decode

/-- Every kind of record, each by its own round trip. -/
theorem read_write_of_mem : ∀ k ∈ recordKinds, ∀ (v : Value) (m : k.Record), k.read v = .valid m →
    ∀ form, k.read (k.write form m) = .valid m := by
  simp only [recordKinds, List.forall_mem_cons]
  refine ⟨?position, ?look, ?option, ?load, ?menu, ?signal, ?input, ?output, ?data, ?node, ?edge, ?flow,
    ?editorInput, ?editorOutput, ?editorEdge, ?editorData, ?editorNode, ?editorFlow,
    List.forall_mem_nil _⟩
  case position => exact fun _ p _ form => p.read_write form
  case look => exact fun _ h _ form => h.read_write form
  case option => exact fun _ o _ form => o.read_write form
  case load => exact fun _ s _ form => s.read_write form
  case menu => exact fun _ m _ form => m.read_write form
  case signal => exact fun _ s _ form => s.read_write form
  case input => exact fun v i hi form => StoredInput.read_write form (StoredInput.ensures_read v i hi)
  case output => exact fun v o ho form => StoredOutput.read_write form (StoredOutput.ensures_read v o ho)
  case data => exact fun v d hd form => StoredData.read_write form (StoredData.ensures_read v d hd)
  case node => exact fun v n hn form => StoredNode.read_write form (StoredNode.ensures_read v n hn)
  case edge => exact fun _ e _ form => e.read_write form
  case flow => exact fun v f hf form => StoredFlow.read_write form (StoredFlow.ensures_read v f hf)
  -- What is read for the editor reads in the stored view too, and has its ids from there.
  case editorInput =>
    exact fun v i hi form => EditorInput.read_write form
      (StoredInput.ensures_read v _ (EditorInput.readsAs v i hi))
  case editorOutput =>
    exact fun v o ho form => EditorOutput.read_write form
      (StoredOutput.ensures_read v _ (EditorOutput.readsAs v o ho))
  case editorEdge => exact fun _ e _ form => e.read_write form
  case editorData =>
    exact fun v d hd form => EditorData.read_write form
      (StoredData.ensures_read v _ (EditorData.readsAs v d hd))
  case editorNode =>
    exact fun v n hn form => EditorNode.read_write form
      (StoredNode.ensures_read v _ (EditorNode.readsAs v n hn))
  case editorFlow =>
    exact fun v f hf form => EditorFlow.read_write form (EditorFlow.ensures_read v f hf)

/-- A record that was read is read as itself from either of its written forms, and the normal form of a
value is its own normal form. -/
theorem recordKinds_read_back (k : RecordKind) (hk : k ∈ recordKinds) (v : Value) (m : k.Record)
    (hm : k.read v = .valid m) :
    k.read (k.write .wire m) = .valid m ∧ k.read (k.write .full m) = .valid m ∧
      k.normalize v = .valid (k.write .wire m) ∧
      k.normalize (k.write .wire m) = .valid (k.write .wire m) := by
  have hback := read_write_of_mem k hk v m hm
  refine ⟨hback .wire, hback .full, ?_, ?_⟩
  · rw [RecordKind.normalize, hm]
    rfl
  · rw [RecordKind.normalize, hback .wire]
    rfl

/-- A flow of the editor with fields under either name, numbers and truth values in other shapes, fields
left out, and nulls inside values of any kind. -/
def looseFlow : Value :=
  .record
    [("thumbnail_url", .null),
      ("nodes", .arr
        [.record
          [("id", .str "feed"), ("type", .str "rss_listener_node"), ("width", .str "3_20"),
            ("height", .str " 200 "),
            ("position", .record [("x", .str "-inf"), ("y", .bool true)]),
            ("position_absolute", .record [("x", .int 4), ("y", .float (.finite true 0))]),
            ("selected", .int 1),
            ("data", .record
              [("menu_items", .arr []), ("menuItems", .arr
                [.record [("key", .str "k"), ("label", .str "Delete"), ("danger", .str "ON")]]),
              ("signals", .arr
                [.record
                  [("handle_id", .str "news-handle"), ("handleType", .str "source"),
                    ("timestamp", .str ""), ("data", .arr [.null])]]),
              ("inputs", .arr
                [.record
                  [("id", .str "route"), ("inputType", .str "select"),
                    ("value", .record [("hint", .null)]),
                    ("options", .arr
                      [.str "daily", .record [("value", .str "w"), ("label", .str "weekly")]]),
                    ("handle", .record [("color", .str "sky"), ("style", .record [("top", .null)])]),
                    ("_instanceState", .record [("has_loaded", .str "yes")])]])])]]),
      ("edges", .arr [])]

theorem looseFlow_reads_back :
    ∃ (k : RecordKind) (m : k.Record), k ∈ recordKinds ∧ k.read looseFlow = .valid m ∧
      k.read (k.write .wire m) = .valid m ∧ k.read (k.write .full m) = .valid m ∧
      k.normalize looseFlow = .valid (k.write .wire m) ∧
      k.normalize (k.write .wire m) = .valid (k.write .wire m) := by
  let k : RecordKind := ⟨"FullFlow", EditorFlow, EditorFlow.read, EditorFlow.write⟩
  have hmem : k ∈ recordKinds := by simp [recordKinds, k]
  have hread : (k.read looseFlow).toOption.isSome = true := by decide +kernel
  cases h : k.read looseFlow with
  | valid m =>
    have hback := recordKinds_read_back k hmem looseFlow m h
    exact ⟨k, m, hmem, h, hback⟩
  | faulty ps =>
    rw [h] at hread
    cases hread

end WorkflowCheck
