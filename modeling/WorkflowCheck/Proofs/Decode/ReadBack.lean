import Mathlib.Data.List.Pairwise
import WorkflowCheck.Proofs.Decode.ReadsAs

/-!
# Reading back what was written

A record is written entry by entry and read field by field.  `Shows v n x` says that a field of `v` gives
`x` to its reader: it is found under one of its names, or it is absent and `x` is null.  A record shows
every entry that it was written from if no two of its fields share a name (`shows_record`), in both forms;
the rules below take a reader from there to what was written.
-/

namespace WorkflowCheck.Decode

variable {α : Type} {form : Form} {m n : FieldName} {v w x : Value} {name : String}
  {entries : List (FieldName × Value)}

/-! ### Fields of a written record -/

/-- No name of one field is a name of the other. -/
def FieldName.Apart (m n : FieldName) : Prop :=
  m.wire ≠ n.wire ∧ m.wire ≠ n.own ∧ m.own ≠ n.wire ∧ m.own ≠ n.own

/-- No two entries share a name. -/
def Apart (entries : List (FieldName × Value)) : Prop :=
  entries.Pairwise fun e f => e.1.Apart f.1

@[simp] theorem FieldName.apart_mk {a b c d : String} :
    FieldName.Apart ⟨a, b⟩ ⟨c, d⟩ ↔ a ≠ c ∧ a ≠ d ∧ b ≠ c ∧ b ≠ d :=
  Iff.rfl

@[simp] theorem apart_nil : Apart [] :=
  List.Pairwise.nil

@[simp] theorem apart_cons :
    Apart ((m, w) :: entries) ↔ (∀ e ∈ entries, m.Apart e.1) ∧ Apart entries :=
  List.pairwise_cons

/-- The field of a value is found with that content, or is absent and stands for null. -/
def Shows (v : Value) (n : FieldName) (x : Value) : Prop :=
  (∃ name, n.find? v = some (name, x)) ∨ (n.find? v = none ∧ x = .null)

theorem get?_record_cons (hwire : m.wire ≠ name) (hown : m.own ≠ name) :
    (form.record ((m, w) :: entries)).get? name = (form.record entries).get? name := by
  have hwire' : Key.str m.wire ≠ .str name := fun h => hwire (Key.str.inj h)
  have hown' : Key.str m.own ≠ .str name := fun h => hown (Key.str.inj h)
  cases form with
  | wire =>
    by_cases hnull : w.isNull = true
    · simp [Form.record, Form.entry, hnull]
    · simp [Form.record, Form.entry, hnull, Value.record, Value.get?, Value.opened, Table.get?, hwire']
  | full => simp [Form.record, Form.entry, Value.record, Value.get?, Value.opened, Table.get?, hown']

theorem get?_record_eq_none (h : ∀ e ∈ entries, e.1.wire ≠ name ∧ e.1.own ≠ name) :
    (form.record entries).get? name = none := by
  induction entries with
  | nil => rfl
  | cons e entries ih =>
    obtain ⟨hhead, htail⟩ := List.forall_mem_cons.mp h
    rw [get?_record_cons hhead.1 hhead.2, ih htail]

/-- An entry of another field does not matter to where a field is found. -/
theorem find?_record_cons (h : m.Apart n) :
    n.find? (form.record ((m, w) :: entries)) = n.find? (form.record entries) := by
  simp only [FieldName.find?, get?_record_cons h.1 h.2.2.1, get?_record_cons h.2.1 h.2.2.2]

theorem find?_record_eq_none (h : ∀ e ∈ entries, n.Apart e.1) :
    n.find? (form.record entries) = none := by
  have hwire : (form.record entries).get? n.wire = none :=
    get?_record_eq_none fun e he => ⟨(h e he).1.symm, (h e he).2.1.symm⟩
  have hown : (form.record entries).get? n.own = none :=
    get?_record_eq_none fun e he => ⟨(h e he).2.2.1.symm, (h e he).2.2.2.symm⟩
  rw [FieldName.find?, hwire, hown]
  rfl

/-- On the wire an entry stands under its wire name, unless it is null and left out. -/
theorem get?_record_wire (hapart : Apart entries) (hmem : (n, x) ∈ entries) :
    (Form.wire.record entries).get? n.wire = if x.isNull then none else some x := by
  induction entries with
  | nil => cases hmem
  | cons e entries ih =>
    obtain ⟨hhead, htail⟩ := List.pairwise_cons.mp hapart
    rcases List.mem_cons.mp hmem with rfl | hmem
    · by_cases hnull : x.isNull = true
      · have hrest : (Form.wire.record entries).get? n.wire = none :=
          get?_record_eq_none fun e he => ⟨(hhead e he).1.symm, (hhead e he).2.1.symm⟩
        rw [if_pos hnull, ← hrest]
        simp [Form.record, Form.entry, hnull]
      · rw [if_neg hnull]
        simp [Form.record, Form.entry, hnull, Value.record, Value.get?, Value.opened, Table.get?]
    · have hskip := hhead _ hmem
      rw [get?_record_cons hskip.1 hskip.2.2.1]
      exact ih htail hmem

theorem get?_of_entry (hv : v = Form.wire.record entries) (hapart : Apart entries)
    (hmem : (n, x) ∈ entries) (hnull : x.isNull = false) : v.get? n.wire = some x := by
  subst hv
  rw [get?_record_wire hapart hmem, hnull, if_neg Bool.false_ne_true]

/-- A field of a record on the wire holds what was written there; null is left out and stands for
itself. -/
theorem field_of_entry (hv : v = Form.wire.record entries) (hapart : Apart entries)
    (hmem : (n, x) ∈ entries) : v.field n.wire = x := by
  subst hv
  rw [Value.field, get?_record_wire hapart hmem]
  cases x <;> rfl

/-- On the wire the first entry is found under its wire name, unless it is null and left out. -/
theorem shows_record_wire (h : ∀ e ∈ entries, n.Apart e.1) :
    Shows (Form.wire.record ((n, x) :: entries)) n x := by
  by_cases hnull : x = .null
  · have habsent : n.find? (Form.wire.record entries) = none := find?_record_eq_none h
    subst hnull
    exact Or.inr ⟨habsent, rfl⟩
  · have hkept : x.isNull = false := by
      cases x with
      | null => exact absurd rfl hnull
      | _ => rfl
    refine Or.inl ⟨n.wire, ?_⟩
    simp [FieldName.find?, Form.record, Form.entry, hkept, Value.record, Value.get?, Value.opened,
      Table.get?]

/-- In full the first entry is found under its own name, which may be the name on the wire too. -/
theorem shows_record_full (h : ∀ e ∈ entries, n.Apart e.1) :
    Shows (Form.full.record ((n, x) :: entries)) n x := by
  have hown : (Form.full.record ((n, x) :: entries)).get? n.own = some x := by
    simp [Form.record, Form.entry, Value.record, Value.get?, Value.opened, Table.get?]
  by_cases hname : n.wire = n.own
  · refine Or.inl ⟨n.wire, ?_⟩
    rw [FieldName.find?, hname, hown]
    rfl
  · have hskip : Key.str n.own ≠ .str n.wire := fun h => hname (Key.str.inj h).symm
    have hrest : (Form.full.record entries).get? n.wire = none :=
      get?_record_eq_none fun e he => ⟨(h e he).1.symm, (h e he).2.1.symm⟩
    have hwire : (Form.full.record ((n, x) :: entries)).get? n.wire = none := by
      simpa [Form.record, Form.entry, Value.record, Value.get?, Value.opened, Table.get?, hskip]
        using hrest
    refine Or.inl ⟨n.own, ?_⟩
    rw [FieldName.find?, hwire, hown]
    rfl

/-- A written record shows what it was written from. -/
theorem shows_record (hapart : Apart entries) (hmem : (n, x) ∈ entries) :
    Shows (form.record entries) n x := by
  induction entries with
  | nil => cases hmem
  | cons e entries ih =>
    obtain ⟨hhead, htail⟩ := List.pairwise_cons.mp hapart
    rcases List.mem_cons.mp hmem with rfl | hmem
    · cases form with
      | wire => exact shows_record_wire hhead
      | full => exact shows_record_full hhead
    · have hskip : n.find? (form.record (e :: entries)) = n.find? (form.record entries) :=
        find?_record_cons (hhead _ hmem)
      rw [Shows, hskip]
      exact ih htail hmem

instance : Std.Symm fun e f : FieldName × Value => e.1.Apart f.1 :=
  ⟨fun _ _ h => ⟨h.1.symm, h.2.2.1.symm, h.2.1.symm, h.2.2.2.symm⟩⟩

/-- A record that was written without some entries shows null in their place. -/
theorem shows_filter (hapart : Apart entries) (keep : FieldName × Value → Bool)
    (hmem : (n, x) ∈ entries) :
    Shows (form.record (entries.filter keep)) n (if keep (n, x) then x else .null) := by
  by_cases hkeep : keep (n, x) = true
  · rw [if_pos hkeep]
    exact shows_record (hapart.filter keep) (List.mem_filter.mpr ⟨hmem, hkeep⟩)
  · rw [if_neg hkeep]
    have hothers : ∀ e ∈ entries.filter keep, n.Apart e.1 := by
      intro e he
      obtain ⟨he, hkept⟩ := List.mem_filter.mp he
      have hne : (n, x) ≠ e := by
        rintro rfl
        exact hkeep hkept
      exact hapart.forall hmem he hne
    exact Or.inr ⟨find?_record_eq_none hothers, rfl⟩

theorem forall_shows (form : Form) (hv : v = form.record entries) (hapart : Apart entries) :
    ∀ e ∈ entries, Shows v e.1 e.2 := by
  subst hv
  exact fun _ he => shows_record hapart he

theorem record_of_isObject {fields : Value → Checked α} (h : v.isObject = true) :
    record name fields v = fields v :=
  if_pos h

/-! ### Reading a field -/

/-- A field that must be there is read from what it shows, if that is not null. -/
theorem required_of_shows {read : Value → Checked α} {a : α} (h : Shows v n x)
    (hread : read x = .valid a) (hnull : x ≠ .null) : required v n read = .valid a := by
  rcases h with ⟨name, hfound⟩ | ⟨-, rfl⟩
  · rw [required, hfound]
    exact Checked.under_eq_valid_iff.mpr hread
  · exact absurd rfl hnull

/-- What is read of a field that must be there is read from what it shows. -/
theorem valid_of_required {read : Value → Checked α} {a : α} (h : Shows v n x) (hread : required v n read = .valid a) :
    read x = .valid a := by
  rcases h with ⟨name, hfound⟩ | ⟨habsent, -⟩
  · rw [required, hfound] at hread
    exact Checked.under_eq_valid_iff.mp hread
  · rw [required, habsent] at hread
    cases hread

/-- A field with a default is read from what it shows, if null stands for the default. -/
theorem withDefault_of_shows {read : Value → Checked α} {a default : α} (h : Shows v n x)
    (hread : read x = .valid a) (hdefault : x = .null → a = default) :
    withDefault v n read default = .valid a := by
  rcases h with ⟨name, hfound⟩ | ⟨habsent, hnull⟩
  · rw [withDefault, hfound]
    exact Checked.under_eq_valid_iff.mpr hread
  · rw [withDefault, habsent, hdefault hnull]

theorem withDefault_of_absent {read : Value → Checked α} {default : α} (h : n.find? v = none) :
    withDefault v n read default = .valid default := by
  rw [withDefault, h]

theorem optional_writeOptional {read : Value → Checked α} {write : α → Value} {o : Option α}
    (h : ∀ a ∈ o, write a ≠ .null ∧ read (write a) = .valid a) :
    optional read (writeOptional write o) = .valid o := by
  cases o with
  | none => rfl
  | some a =>
    obtain ⟨hnull, hread⟩ := h a rfl
    rw [writeOptional, optional, hread]
    · rfl
    · exact hnull

theorem optionalField_of_shows {read : Value → Checked α} {write : α → Value} {o : Option α}
    (h : Shows v n (writeOptional write o))
    (hread : ∀ a ∈ o, write a ≠ .null ∧ read (write a) = .valid a) :
    optionalField v n read = .valid o := by
  refine withDefault_of_shows h (optional_writeOptional hread) fun hnull => ?_
  cases o with
  | none => rfl
  | some a => exact absurd hnull (hread a rfl).1

/-! ### Scalars and lists -/

theorem text_str (s : String) : text (.str s) = .valid s :=
  rfl

theorem truth_bool (b : Bool) : truth (.bool b) = .valid b :=
  rfl

theorem number_float (d : Double) : number (.float d) = .valid d :=
  rfl

theorem textFields_map (es : List (String × Value)) :
    textFields (es.map fun (name, v) => (.str name, v)) = .valid es := by
  induction es with
  | nil => rfl
  | cons e es ih =>
    rw [List.map_cons, textFields, ih]
    rfl

/-- A written table is read back. -/
theorem table_toValue (t : TextTable) : table t.toValue = .valid t := by
  show TextTable.ofEntries <$> textFields (t.entries.map fun (name, v) => (.str name, v)) = _
  rw [textFields_map]
  exact congrArg Checked.valid t.ofEntries_entries

/-- A text that a required id can be: it is not empty and holds no lone surrogate. -/
def IsFilled (s : String) : Prop :=
  s ≠ "" ∧ Text.holdsSurrogate s = false

theorem filledText_eq_valid_iff {s : String} :
    filledText v = .valid s ↔ text v = .valid s ∧ IsFilled s := by
  rw [filledText]
  cases text v with
  | faulty ps => exact iff_of_false nofun fun h => nomatch h.1
  | valid t =>
    rw [Checked.andThen, IsFilled]
    by_cases hsurrogate : Text.holdsSurrogate t = true
    · rw [if_pos hsurrogate]
      refine iff_of_false nofun ?_
      rintro ⟨⟨⟩, -, hnone⟩
      exact absurd hsurrogate (Bool.eq_false_iff.mp hnone)
    · rw [if_neg hsurrogate]
      by_cases hempty : t = ""
      · subst hempty
        refine iff_of_false nofun ?_
        rintro ⟨⟨⟩, hne, -⟩
        exact hne rfl
      · have hkept : t.isEmpty = false := Bool.eq_false_iff.mpr (mt String.isEmpty_iff.mp hempty)
        rw [hkept, if_neg Bool.false_ne_true]
        constructor
        · rintro ⟨⟩
          exact ⟨rfl, hempty, Bool.eq_false_iff.mpr hsurrogate⟩
        · exact And.left

theorem filledText_str_iff {s : String} : filledText (.str s) = .valid s ↔ IsFilled s :=
  filledText_eq_valid_iff.trans (and_iff_right rfl)

theorem ensures_filledText (v : Value) : (filledText v).Ensures IsFilled :=
  fun _ hs => (filledText_eq_valid_iff.mp hs).2

/-- Null is no word. -/
theorem ne_null_of_word {vocabulary : List (String × α)} {a : α} (h : word vocabulary x = .valid a) :
    x ≠ .null := by
  rintro rfl
  cases h

theorem places_map {read : Value → Checked α} {write : α → Value} :
    ∀ (i : Nat) (as : List α), (∀ a ∈ as, read (write a) = .valid a) →
      Checked.places read i (as.map write) = .valid as
  | _, [], _ => rfl
  | i, a :: as, h => by
    obtain ⟨hhead, htail⟩ := List.forall_mem_cons.mp h
    exact Checked.places_cons_eq_valid_iff.mpr ⟨a, as, hhead, places_map (i + 1) as htail, rfl⟩

theorem list_writeList {read : Value → Checked α} {write : α → Value} {as : List α}
    (h : ∀ a ∈ as, read (write a) = .valid a) : list read (writeList write as) = .valid as :=
  places_map 0 as h

/-! ### Fields by what they hold -/

theorem record_ne_null : form.record entries ≠ .null :=
  nofun

theorem writeList_ne_null {write : α → Value} {as : List α} : writeList write as ≠ .null :=
  nofun

theorem required_text_of_shows {s : String} (h : Shows v n (.str s)) : required v n text = .valid s :=
  required_of_shows h (text_str s) nofun

theorem required_filledText_of_shows {s : String} (h : Shows v n (.str s)) (hs : IsFilled s) :
    required v n filledText = .valid s :=
  required_of_shows h (filledText_str_iff.mpr hs) nofun

theorem required_number_of_shows {d : Double} (h : Shows v n (.float d)) :
    required v n number = .valid d :=
  required_of_shows h (number_float d) nofun

theorem withDefault_text_of_shows {s default : String} (h : Shows v n (.str s)) :
    withDefault v n text default = .valid s :=
  withDefault_of_shows h (text_str s) nofun

theorem withDefault_truth_of_shows {b default : Bool} (h : Shows v n (.bool b)) :
    withDefault v n truth default = .valid b :=
  withDefault_of_shows h (truth_bool b) nofun

theorem withDefault_word_of_shows [DecidableEq α] {vocabulary : List (String × α)} {a default : α}
    (h : Shows v n (writeWord vocabulary a))
    (hword : word vocabulary (writeWord vocabulary a) = .valid a) :
    withDefault v n (word vocabulary) default = .valid a :=
  withDefault_of_shows h hword fun hnull => absurd hnull (ne_null_of_word hword)

theorem withDefault_list_of_shows {read : Value → Checked α} {write : α → Value} {as default : List α}
    (h : Shows v n (writeList write as)) (hread : ∀ a ∈ as, read (write a) = .valid a) :
    withDefault v n (list read) default = .valid as :=
  withDefault_of_shows h (list_writeList hread) fun hnull => absurd hnull writeList_ne_null

theorem optionalField_text_of_shows {o : Option String} (h : Shows v n (writeOptional Value.str o)) :
    optionalField v n text = .valid o :=
  optionalField_of_shows h fun s _ => ⟨nofun, text_str s⟩

theorem optionalField_truth_of_shows {o : Option Bool} (h : Shows v n (writeOptional Value.bool o)) :
    optionalField v n truth = .valid o :=
  optionalField_of_shows h fun b _ => ⟨nofun, truth_bool b⟩

theorem optionalField_number_of_shows {o : Option Double} (h : Shows v n (writeOptional Value.float o)) :
    optionalField v n number = .valid o :=
  optionalField_of_shows h fun d _ => ⟨nofun, number_float d⟩

end WorkflowCheck.Decode
