import WorkflowCheck.Flow.Id

/-!
# The field that a handle names

`HandleNames` says without splitting anything what it is for the field part of a handle to name a field:
it is the field, or the field stands between its first separator and its second one, if there is a
second.  `namesField_iff` shows that this is what the test on segments decides.

A handle is written by putting a suffix behind the id of a field, unless the id has it already, and read by
taking the suffix off.  So what is read is what was written exactly for ids that do not end like a handle
(`fieldOfHandle_handleOfField_eq_self_iff`).
-/

namespace WorkflowCheck

/-! ### Segments -/

theorem segments_of_not_mem {separator : Char} :
    ∀ {cs : List Char}, separator ∉ cs → segments separator cs = [cs]
  | [], _ => rfl
  | c :: cs, h => by
    rw [List.mem_cons, not_or] at h
    rw [segments, if_neg (Ne.symm h.1), segments_of_not_mem h.2]

/-- The first segment ends at the first separator. -/
theorem segments_append {separator : Char} (rest : List Char) :
    ∀ {cs : List Char}, separator ∉ cs →
      segments separator (cs ++ separator :: rest) = cs :: segments separator rest
  | [], _ => by rw [List.nil_append, segments, if_pos rfl]
  | c :: cs, h => by
    rw [List.mem_cons, not_or] at h
    rw [List.cons_append, segments, if_neg (Ne.symm h.1), segments_append rest h.2]

/-- A list stands before a separator or at the end. -/
def EndsSegment (separator : Char) (rest : List Char) : Prop :=
  rest = [] ∨ ∃ more, rest = separator :: more

theorem segments_zero_eq_some_iff {separator : Char} {cs segment : List Char} :
    (segments separator cs)[0]? = some segment ↔
      ∃ rest, cs = segment ++ rest ∧ separator ∉ segment ∧ EndsSegment separator rest := by
  constructor
  · intro h
    by_cases hmem : separator ∈ cs
    · obtain ⟨first, rest, rfl, hfirst⟩ := List.eq_append_cons_of_mem hmem
      rw [segments_append rest hfirst, List.getElem?_cons_zero, Option.some.injEq] at h
      subst h
      exact ⟨separator :: rest, rfl, hfirst, Or.inr ⟨rest, rfl⟩⟩
    · rw [segments_of_not_mem hmem, List.getElem?_cons_zero, Option.some.injEq] at h
      subst h
      exact ⟨[], (List.append_nil cs).symm, hmem, Or.inl rfl⟩
  · rintro ⟨rest, rfl, hnot, rfl | ⟨more, rfl⟩⟩
    · rw [List.append_nil, segments_of_not_mem hnot]
      rfl
    · rw [segments_append more hnot]
      rfl

theorem segments_one_eq_some_iff {separator : Char} {cs segment : List Char} :
    (segments separator cs)[1]? = some segment ↔
      ∃ first rest, cs = first ++ separator :: (segment ++ rest) ∧ separator ∉ first ∧
        separator ∉ segment ∧ EndsSegment separator rest := by
  constructor
  · intro h
    by_cases hmem : separator ∈ cs
    · obtain ⟨first, behind, rfl, hfirst⟩ := List.eq_append_cons_of_mem hmem
      rw [segments_append behind hfirst, List.getElem?_cons_succ] at h
      obtain ⟨rest, rfl, hsegment, hrest⟩ := segments_zero_eq_some_iff.mp h
      exact ⟨first, rest, rfl, hfirst, hsegment, hrest⟩
    · rw [segments_of_not_mem hmem] at h
      simp at h
  · rintro ⟨first, rest, rfl, hfirst, hsegment, hrest⟩
    rw [segments_append _ hfirst, List.getElem?_cons_succ]
    exact segments_zero_eq_some_iff.mpr ⟨rest, rfl, hsegment, hrest⟩

/-! ### Naming a field -/

/-- The field part of a handle names a field: it is the field, or the field is its second segment
between separators. -/
def HandleNames (handle field : String) : Prop :=
  handle = field ∨
    ∃ first rest, handle.toList = first ++ ':' :: (field.toList ++ rest) ∧ ':' ∉ first ∧
      ':' ∉ field.toList ∧ EndsSegment ':' rest

theorem namesField_iff {handle field : String} :
    namesField handle field = true ↔ HandleNames handle field := by
  rw [namesField, Bool.or_eq_true, beq_iff_eq, beq_iff_eq, segments_one_eq_some_iff]
  rfl

/-! ### The suffix -/

/-- A text that ends in what the editor puts behind the ids of fields. -/
def IsHandle (text : String) : Prop :=
  ∃ field, text = field ++ handleSuffix

theorem isSuffixOf_handleSuffix_iff {text : String} :
    handleSuffix.toList.isSuffixOf text.toList = true ↔ IsHandle text := by
  rw [List.isSuffixOf_iff_suffix]
  constructor
  · rintro ⟨field, hfield⟩
    refine ⟨String.ofList field, String.toList_injective ?_⟩
    rw [String.toList_append, String.toList_ofList, hfield]
  · rintro ⟨field, rfl⟩
    exact ⟨field.toList, String.toList_append.symm⟩

theorem handleOfField_of_isHandle {field : String} (h : IsHandle field) : handleOfField field = field := by
  rw [handleOfField, if_pos (isSuffixOf_handleSuffix_iff.mpr h)]

theorem handleOfField_of_not_isHandle {field : String} (h : ¬ IsHandle field) :
    handleOfField field = field ++ handleSuffix := by
  rw [handleOfField, if_neg (mt isSuffixOf_handleSuffix_iff.mp h)]

theorem isHandle_handleOfField (field : String) : IsHandle (handleOfField field) := by
  by_cases h : IsHandle field
  · rwa [handleOfField_of_isHandle h]
  · exact ⟨field, handleOfField_of_not_isHandle h⟩

theorem IsHandle.ne_empty {text : String} (h : IsHandle text) : text ≠ "" := by
  obtain ⟨field, rfl⟩ := h
  intro hempty
  have hchars := congrArg String.toList hempty
  rw [String.toList_append] at hchars
  exact absurd (List.append_eq_nil_iff.mp hchars).2 (by decide)

/-- Of a handle one suffix is taken off. -/
theorem fieldOfHandle_append (field : String) : fieldOfHandle (field ++ handleSuffix) = field := by
  have hsuffix : handleSuffix.toList.isSuffixOf (field ++ handleSuffix).toList = true :=
    isSuffixOf_handleSuffix_iff.mpr ⟨field, rfl⟩
  rw [fieldOfHandle, if_pos hsuffix, String.toList_append, List.length_append, Nat.add_sub_cancel,
    List.take_left, String.ofList_toList]

/-- Without one suffix at its end, if it has it, a handle is a field. -/
def StripsTo (handle field : String) : Prop :=
  handle = field ++ handleSuffix ∨ (¬ IsHandle handle ∧ handle = field)

theorem fieldOfHandle_eq_iff {handle field : String} :
    fieldOfHandle handle = field ↔ StripsTo handle field := by
  by_cases h : IsHandle handle
  · obtain ⟨inner, rfl⟩ := h
    rw [fieldOfHandle_append, StripsTo, or_iff_left fun h => h.1 ⟨inner, rfl⟩]
    constructor
    · rintro rfl
      rfl
    · intro hsame
      rw [← fieldOfHandle_append inner, hsame, fieldOfHandle_append]
  · have hnot : handle ≠ field ++ handleSuffix := fun hsuffix => h ⟨field, hsuffix⟩
    rw [fieldOfHandle, if_neg (mt isSuffixOf_handleSuffix_iff.mp h), StripsTo, or_iff_right hnot,
      and_iff_right h]

theorem IsHandle.fieldOfHandle_ne {text : String} (h : IsHandle text) : fieldOfHandle text ≠ text := by
  obtain ⟨field, rfl⟩ := h
  rw [fieldOfHandle_append]
  intro hsame
  have hlength := congrArg String.length hsame
  rw [String.length_append] at hlength
  have hpos : 0 < handleSuffix.length := by decide
  omega

/-- The handle of a field reads as the field, unless the field ends like a handle: then it is taken to be one
already and loses its own end. -/
theorem fieldOfHandle_handleOfField_eq_self_iff {field : String} :
    fieldOfHandle (handleOfField field) = field ↔ ¬ IsHandle field := by
  by_cases h : IsHandle field
  · rw [handleOfField_of_isHandle h]
    exact iff_of_false h.fieldOfHandle_ne (not_not_intro h)
  · rw [handleOfField_of_not_isHandle h]
    exact iff_of_true (fieldOfHandle_append field) h

end WorkflowCheck
