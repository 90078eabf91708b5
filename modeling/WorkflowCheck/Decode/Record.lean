import WorkflowCheck.Decode.Scalar
import WorkflowCheck.Value.Display

/-!
# Reading and writing records

A field has a name on the wire and a name of its own.  It is read under either, under the one on the
wire first, and its problems are told under the name that it was found under; an absent field is
missed under the one on the wire.  A record is written in one of two forms: on the wire, under the
wire's names and without the fields that hold nothing, or in full, under the fields' own names.
-/

namespace WorkflowCheck.Decode

variable {α β : Type}

/-- The two names of a field. -/
structure FieldName where
  wire : String
  own : String
  deriving DecidableEq, Repr

/-- A field with one name. -/
def FieldName.same (name : String) : FieldName :=
  ⟨name, name⟩

/-! ### Tables -/

/-- A table with texts as keys, each of them once. -/
structure TextTable where
  entries : Table String Value
  nodup : entries.keys.Nodup
  deriving Repr

namespace TextTable

/-- No entries. -/
def empty : TextTable :=
  ⟨[], List.nodup_nil⟩

/-- The table with a value as the entry of a key. -/
def put (t : TextTable) (name : String) (v : Value) : TextTable :=
  ⟨t.entries.put name v, Table.nodup_keys_alter t.nodup⟩

/-- The table of some entries, of which the last one of a key counts. -/
def ofEntries (es : List (String × Value)) : TextTable :=
  es.foldl (fun t e => t.put e.1 e.2) empty

/-- The table as an object. -/
def toValue (t : TextTable) : Value :=
  .record t.entries

theorem entries_foldl_put : ∀ (es : List (String × Value)) (t : TextTable),
    (Table.keys (t.entries ++ es)).Nodup → (es.foldl (fun t e => t.put e.1 e.2) t).entries = t.entries ++ es
  | [], t, _ => (List.append_nil t.entries).symm
  | e :: es, t, h => by
    have hnew : e.1 ∉ t.entries.keys := by
      rw [Table.keys, List.map_append, List.nodup_append] at h
      exact fun hmem => h.2.2 _ hmem _ List.mem_cons_self rfl
    have hput : (t.put e.1 e.2).entries = t.entries ++ [e] := Table.alter_of_not_mem hnew _
    rw [List.append_cons, ← hput] at h ⊢
    exact entries_foldl_put es (t.put e.1 e.2) h

/-- A table is that of its entries. -/
theorem ofEntries_entries (t : TextTable) : ofEntries t.entries = t := by
  have hentries := entries_foldl_put t.entries empty t.nodup
  obtain ⟨entries, hnodup⟩ := t
  exact TextTable.mk.injEq .. ▸ hentries

end TextTable

/-! ### Reading -/

/-- The value of a field in an object, and the name that it was found under. -/
def FieldName.find? (n : FieldName) (v : Value) : Option (String × Value) :=
  ((v.get? n.wire).map (n.wire, ·)).orElse fun _ => (v.get? n.own).map (n.own, ·)

/-- A field that must be there. -/
def required (v : Value) (n : FieldName) (read : Value → Checked α) : Checked α :=
  match n.find? v with
  | some (name, x) => (read x).under (.key name)
  | none => (Checked.fault .missing).under (.key n.wire)

/-- A field that may be absent. -/
def withDefault (v : Value) (n : FieldName) (read : Value → Checked α) (default : α) : Checked α :=
  match n.find? v with
  | some (name, x) => (read x).under (.key name)
  | none => .valid default

/-- Null or a value of a kind. -/
def optional (read : Value → Checked α) : Value → Checked (Option α)
  | .null => .valid none
  | v => (read v).map some

/-- A field that may be absent or null. -/
def optionalField (v : Value) (n : FieldName) (read : Value → Checked α) : Checked (Option α) :=
  withDefault v n (optional read) none

/-- A list of values of a kind, which may also come as a pair or a set. -/
def list (read : Value → Checked α) (v : Value) : Checked (List α) :=
  match v with
  | .set members => .places read 0 (members.map Key.toValue)
  | v => if v.isArray then .places read 0 v.items else .fault .notList

/-- A key that must be a text. -/
def textKey (k : Key) : Checked String :=
  ((text k.toValue).under (.key "[key]")).under (.key k.display)

/-- Fields whose keys must be texts. -/
def textFields : Fields → Checked (List (String × Value))
  | [] => .valid []
  | (k, x) :: fs => (fun name es => (name, x) :: es) <$> textKey k <*> textFields fs

/-- A table with texts as keys and values of any kind. -/
def table (v : Value) : Checked TextTable :=
  match v.opened with
  | .obj fields => TextTable.ofEntries <$> textFields fields
  | _ => .fault .notTable

/-- A record, whose fields are read from an object alone. -/
def record (name : String) (fields : Value → Checked α) (v : Value) : Checked α :=
  if v.isObject then fields v else .fault (.notRecord name)

/-! ### Writing -/

/-- How a record is written. -/
inductive Form where
  | wire
  | full
  deriving DecidableEq, Repr

/-- The entry of a field in a written record; on the wire there is none when it holds null. -/
def Form.entry (form : Form) (n : FieldName) (v : Value) : List (String × Value) :=
  match form with
  | .wire => if v.isNull then [] else [(n.wire, v)]
  | .full => [(n.own, v)]

/-- A record written from the entries of its fields. -/
def Form.record (form : Form) (fields : List (FieldName × Value)) : Value :=
  .record (fields.flatMap fun (n, v) => form.entry n v)

/-- A value that may be absent. -/
def writeOptional (write : α → Value) : Option α → Value
  | none => .null
  | some a => write a

/-- The word for a meaning in a vocabulary. -/
def writeWord [DecidableEq α] (vocabulary : List (String × α)) (a : α) : Value :=
  match vocabulary.find? fun (_, b) => b = a with
  | some (w, _) => .str w
  | none => .null

/-- A list of written values. -/
def writeList (write : α → Value) (xs : List α) : Value :=
  .arr (xs.map write)

end WorkflowCheck.Decode
