import WorkflowCheck.Proofs.Flow.FreshId
import WorkflowCheck.Proofs.Flow.Handle

/-!
# What the id of an edge says of its ends

The id of an edge is made of the ids and handles at its ends with `_` and `_to_` between them, and they can
have these inside as well.  Cut into words at each `_`, an id can be read as one of a connection wherever it
has numbers and an arrow at the right distances (`Reading`), and each reading is that of one connection whose
parts are generated (`Connection.generated_iff`).  So a connection is the only one with its id exactly if its
parts bear neither further numbers nor further arrows (`Connection.only_of_id_iff`).
-/

namespace WorkflowCheck

/-! ### Words -/

/-- The words of a text, between its signs `_`. -/
def words (text : String) : List (List Char) :=
  text.toList.splitOn '_'

/-- The text of some words, with `_` between them. -/
def ofWords (ws : List (List Char)) : String :=
  String.ofList (['_'].intercalate ws)

section Words

variable {text : String} {ws : List (List Char)} {w : List Char}

theorem words_ne_nil (text : String) : words text ≠ [] :=
  List.splitOn_ne_nil _ _

theorem length_words_pos (text : String) : 0 < (words text).length :=
  List.length_pos_of_ne_nil (words_ne_nil text)

theorem ofWords_words (text : String) : ofWords (words text) = text := by
  rw [ofWords, words, List.intercalate_splitOn, String.ofList_toList]

theorem words_ofWords (hne : ws ≠ []) (h : ∀ w ∈ ws, '_' ∉ w) : words (ofWords ws) = ws := by
  rw [words, ofWords, String.toList_ofList, List.splitOn_intercalate '_' h hne]

theorem words_injective : Function.Injective words :=
  Function.LeftInverse.injective ofWords_words

theorem words_of_not_mem (text : String) (h : '_' ∉ text.toList) : words text = [text.toList] :=
  List.splitOn_eq_singleton h

theorem words_append (text text' : String) : words (text ++ "_" ++ text') = words text ++ words text' := by
  rw [words, String.toList_append, String.toList_append, List.append_assoc]
  exact List.splitOn_append_cons_self _ _

theorem not_mem_of_mem_splitOn : ∀ (cs : List Char) {w : List Char}, w ∈ cs.splitOn '_' → '_' ∉ w
  | [], _, h => by
    rw [List.splitOn_nil, List.mem_singleton] at h
    exact h ▸ List.not_mem_nil
  | c :: cs, w, h => by
    rw [List.splitOn_cons_eq_if_modifyHead] at h
    split_ifs at h with hc
    · rcases List.mem_cons.mp h with rfl | h
      · exact List.not_mem_nil
      · exact not_mem_of_mem_splitOn cs h
    · have ih : ∀ v ∈ cs.splitOn '_', '_' ∉ v := fun v => not_mem_of_mem_splitOn cs
      cases hcs : cs.splitOn '_' with
      | nil => exact absurd hcs (List.splitOn_ne_nil _ _)
      | cons first rest =>
        rw [hcs] at h ih
        rcases List.mem_cons.mp h with rfl | h
        · rw [List.mem_cons, not_or]
          exact ⟨fun heq => hc (beq_iff_eq.mpr heq.symm), ih first List.mem_cons_self⟩
        · exact ih w (List.mem_cons_of_mem _ h)

theorem not_mem_of_mem_words (h : w ∈ words text) : '_' ∉ w :=
  not_mem_of_mem_splitOn text.toList h

/-- What is put behind the last word is put behind the text. -/
theorem ofWords_concat_append (last rest : List Char) :
    ∀ ws, ofWords (ws ++ [last ++ rest]) = ofWords (ws ++ [last]) ++ String.ofList rest
  | [] => by simp [ofWords]
  | [w] => by simp [ofWords, String.append_assoc]
  | w :: w' :: ws => by
    have ih := ofWords_concat_append last rest (w' :: ws)
    have hcons : ∀ vs : List (List Char), ofWords (w :: w' :: vs) =
        String.ofList (w ++ ['_']) ++ ofWords (w' :: vs) := fun vs => by
      rw [ofWords, ofWords, List.intercalate_cons_cons, String.ofList_append]
    rw [List.cons_append, List.cons_append, hcons, List.cons_append, List.cons_append, hcons,
      String.append_assoc]
    exact congrArg _ ih

end Words

/-! ### Marks among words -/

/-- A word is a number as ids end in: from 1 on, in decimal digits. -/
def IsNumber (w : List Char) : Prop :=
  ∃ k, 0 < k ∧ w = Nat.toDigits 10 k

/-- A word ends like a handle. -/
def EndsHandle (w : List Char) : Prop :=
  handleSuffix.toList <:+ w

/-- A word of some kind is at a place. -/
def WordAt (P : List Char → Prop) (ws : List (List Char)) (i : Nat) : Prop :=
  ∃ w, ws[i]? = some w ∧ P w

/-- A word at a place ends like a handle, and `to` follows. -/
def ArrowAt (ws : List (List Char)) (i : Nat) : Prop :=
  WordAt EndsHandle ws i ∧ WordAt (· = "to".toList) ws (i + 1)

/-- Somewhere a word ends like a handle, `to` follows, and more words follow. -/
def HasArrow (ws : List (List Char)) : Prop :=
  ∃ i, ArrowAt ws i ∧ i + 2 < ws.length

section Marks

variable {w : List Char} {ws : List (List Char)} {P Q : List Char → Prop} {i j k : Nat}

theorem isNumber_iff : IsNumber w ↔
    0 < Nat.ofDigitChars 10 w 0 ∧ w = Nat.toDigits 10 (Nat.ofDigitChars 10 w 0) := by
  constructor
  · rintro ⟨k, hk, rfl⟩
    rw [Nat.ofDigitChars_ten_toDigits]
    exact ⟨hk, rfl⟩
  · exact fun h => ⟨_, h⟩

instance (w : List Char) : Decidable (IsNumber w) :=
  decidable_of_iff _ isNumber_iff.symm

theorem IsNumber.not_mem (h : IsNumber w) {c : Char} (hc : c.isDigit = false) : c ∉ w := by
  obtain ⟨k, -, rfl⟩ := h
  intro hmem
  rw [Nat.isDigit_of_mem_toDigits (by decide) (by decide) hmem] at hc
  cases hc

theorem EndsHandle.not_isNumber (h : EndsHandle w) : ¬ IsNumber w :=
  fun hw => hw.not_mem (c := '-') (by decide) (h.subset (by decide))

theorem EndsHandle.ne_to (h : EndsHandle w) : w ≠ "to".toList := by
  rintro rfl
  exact absurd h.length_le (by decide)

theorem not_isNumber_to : ¬ IsNumber "to".toList :=
  fun h => h.not_mem (c := 't') (by decide) (by decide)

theorem WordAt.lt (h : WordAt P ws i) : i < ws.length :=
  (List.getElem?_eq_some_iff.mp h.choose_spec.1).1

/-- A place does not have words of two kinds that exclude each other. -/
theorem WordAt.false (h : WordAt P ws i) (h' : WordAt Q ws i) (hPQ : ∀ w, P w → ¬ Q w) : False := by
  obtain ⟨w, hw, hP⟩ := h
  obtain ⟨v, hv, hQ⟩ := h'
  cases hw.symm.trans hv
  exact hPQ w hP hQ

end Marks

/-! ### Readings -/

/-- Words can be read as those of a connection: the source ends in the number at `a`, its handle in the word
at `b`, with `to` behind it, the target in the number at `d`, and the rest is its handle. -/
structure Reading (ws : List (List Char)) (a b d : Nat) : Prop where
  type : 0 < a
  number : WordAt IsNumber ws a
  handle : a < b
  arrow : ArrowAt ws b
  targetType : b + 2 < d
  targetNumber : WordAt IsNumber ws d
  targetHandle : d + 1 < ws.length
  last : WordAt EndsHandle ws (ws.length - 1)

section Readings

variable {ws : List (List Char)} {a b d : Nat}

/-- Words have no other reading if their numbers and arrows are those of the reading, but for such as can not
be used in one. -/
theorem Reading.unique_iff (h : Reading ws a b d) :
    (∀ a' b' d', Reading ws a' b' d' → a' = a ∧ b' = b ∧ d' = d) ↔
      (∀ i, WordAt IsNumber ws i → i = 0 ∨ i = a ∨ i = b + 2 ∨ i = d) ∧
        ∀ i, ArrowAt ws i → a < i → i + 2 < d → i = b := by
  obtain ⟨htype, hnumber, hhandle, harrow, htargetType, htargetNumber, htargetHandle, hlast⟩ := h
  constructor
  · intro hunique
    refine ⟨fun i hi => ?_, fun i hi hlow hhigh => ?_⟩
    · by_contra hother
      have hne : ∀ {j}, WordAt EndsHandle ws j → i ≠ j := by
        rintro j hj rfl
        exact hj.false hi fun w hw => hw.not_isNumber
      have hto : i ≠ b + 1 := by
        rintro rfl
        exact hi.false harrow.2 fun w hw hto => not_isNumber_to (hto ▸ hw)
      have hb := hne harrow.1
      have hend := hne hlast
      have hlt := hi.lt
      -- the number could stand for the one of the source or of the target
      rcases Nat.lt_or_ge i b with hlow | hhigh
      · have := hunique i b d ⟨by omega, hi, hlow, harrow, htargetType, htargetNumber, htargetHandle, hlast⟩
        omega
      · have := hunique a b i ⟨htype, hnumber, hhandle, harrow, by omega, hi, by omega, hlast⟩
        omega
    · exact (hunique a i d ⟨htype, hnumber, hlow, hi, hhigh, htargetNumber, htargetHandle, hlast⟩).2.1
  · rintro ⟨hnumbers, harrows⟩ a' b' d' h'
    have ha := hnumbers a' h'.number
    have hd := hnumbers d' h'.targetNumber
    have hb := harrows b' h'.arrow
    have h1 := h'.type
    have h2 := h'.handle
    have h3 := h'.targetType
    omega

end Readings

/-! ### Parts of words -/

/-- The words from one place on and before another. -/
def slice (ws : List (List Char)) (i j : Nat) : List (List Char) :=
  (ws.take j).drop i

section Slices

variable {ws xs ys zs : List (List Char)} {P : List Char → Prop} {i j k : Nat}

theorem slice_of_eq (hws : ws = xs ++ (ys ++ zs)) (hi : i = xs.length) (hj : j = xs.length + ys.length) :
    slice ws i j = ys := by
  subst hws hi hj
  rw [slice, ← List.append_assoc, List.take_left' List.length_append, List.drop_left]

theorem getElem?_slice : (slice ws i j)[k]? = if i + k < j then ws[i + k]? else none := by
  rw [slice, List.getElem?_drop, List.getElem?_take]

theorem length_slice : (slice ws i j).length = min j ws.length - i := by
  rw [slice, List.length_drop, List.length_take]

theorem wordAt_slice : WordAt P (slice ws i j) k ↔ i + k < j ∧ WordAt P ws (i + k) := by
  unfold WordAt
  rw [getElem?_slice]
  split_ifs with h
  · exact (and_iff_right h).symm
  · simp [h]

theorem wordAt_last_slice (hslice : slice ws i (j + 1) = ys) (hij : i ≤ j) (hj : j < ws.length) :
    WordAt P ys (ys.length - 1) ↔ WordAt P ws j := by
  have hlast : i + ((slice ws i (j + 1)).length - 1) = j := by
    rw [length_slice]
    omega
  rw [← hslice, wordAt_slice, hlast, and_iff_right (Nat.lt_succ_self j)]

theorem forall_mem_slice_iff :
    (∀ w ∈ slice ws i j, ¬ P w) ↔ ∀ k, i ≤ k → k < j → ¬ WordAt P ws k := by
  constructor
  · rintro h k hlow hhigh ⟨w, hw, hP⟩
    refine h w (List.mem_iff_getElem?.mpr ⟨k - i, ?_⟩) hP
    rw [getElem?_slice, Nat.add_sub_of_le hlow, if_pos hhigh, hw]
  · intro h w hw hP
    obtain ⟨k, hk⟩ := List.mem_iff_getElem?.mp hw
    obtain ⟨hhigh, hat⟩ := wordAt_slice.mp ⟨w, hk, hP⟩
    exact h (i + k) (Nat.le_add_right i k) hhigh hat

theorem hasArrow_slice_iff (hj : j ≤ ws.length) :
    HasArrow (slice ws i j) ↔ ∃ k, ArrowAt ws k ∧ i ≤ k ∧ k + 2 < j := by
  unfold HasArrow ArrowAt
  rw [length_slice]
  simp only [wordAt_slice]
  constructor
  · rintro ⟨k, ⟨⟨-, hword⟩, -, hto⟩, hmore⟩
    exact ⟨i + k, ⟨hword, hto⟩, Nat.le_add_right i k, by omega⟩
  · rintro ⟨k, ⟨hword, hto⟩, hlow, hmore⟩
    obtain ⟨k, rfl⟩ := Nat.exists_eq_add_of_le hlow
    exact ⟨k, ⟨⟨by omega, hword⟩, by omega, hto⟩, by omega⟩

theorem dropLast_slice (hij : i < j) (hj : j ≤ ws.length) :
    (slice ws i j).dropLast = slice ws i (j - 1) := by
  refine List.ext_getElem? fun k => ?_
  rw [List.dropLast_eq_take, List.getElem?_take, length_slice, getElem?_slice, getElem?_slice]
  split_ifs <;> first | rfl | omega

theorem tail_slice : (slice ws i j).tail = slice ws (i + 1) j :=
  List.tail_drop

theorem slice_append (hij : i ≤ j) (hjk : j ≤ k) (hk : k ≤ ws.length) :
    slice ws i j ++ slice ws j k = slice ws i k := by
  have hsplit : ws.take j ++ slice ws j k = ws.take k := by
    have h := List.take_append_drop j (ws.take k)
    rwa [List.take_take, Nat.min_eq_left hjk] at h
  have hle : i ≤ (ws.take j).length := by
    rw [List.length_take]
    omega
  calc slice ws i j ++ slice ws j k = (ws.take j ++ slice ws j k).drop i :=
        (List.drop_append_of_le_length hle).symm
    _ = slice ws i k := by rw [hsplit, slice]

theorem slice_singleton {w : List Char} (h : ws[i]? = some w) : slice ws i (i + 1) = [w] := by
  obtain ⟨hlt, -⟩ := List.getElem?_eq_some_iff.mp h
  rw [slice, List.take_add_one, h, List.drop_left' (List.length_take_of_le hlt.le)]
  rfl

theorem not_mem_of_mem_slice (hws : ∀ w ∈ ws, '_' ∉ w) : ∀ w ∈ slice ws i j, '_' ∉ w :=
  fun w hw => hws w (List.mem_of_mem_take (List.mem_of_mem_drop hw))

end Slices

/-! ### The words of generated parts -/

section Parts

variable {text : String} {ws : List (List Char)} {P : List Char → Prop}

theorem wordAt_last_iff :
    WordAt P ws (ws.length - 1) ↔ ∃ before last, ws = before ++ [last] ∧ P last := by
  constructor
  · rintro ⟨last, hlast, hP⟩
    rw [← List.getLast?_eq_getElem?] at hlast
    obtain ⟨before, rfl⟩ := List.getLast?_eq_some_iff.mp hlast
    exact ⟨before, last, rfl, hP⟩
  · rintro ⟨before, last, rfl, hP⟩
    exact ⟨last, by simp, hP⟩

theorem words_numberedId (type : String) (k : Nat) :
    words (numberedId type k) = words type ++ [Nat.toDigits 10 k] := by
  have hdigits : (toString k).toList = Nat.toDigits 10 k := by
    rw [Nat.toString_eq_ofList_toDigits, String.toList_ofList]
  have hfree : '_' ∉ (toString k).toList := by
    rw [hdigits]
    exact fun hmem => absurd (Nat.isDigit_of_mem_toDigits (by decide) (by decide) hmem) (by decide)
  rw [numberedId, words_append, words_of_not_mem _ hfree, hdigits]

/-- The generated ids are the texts of two words or more that end in a number. -/
theorem isFresh_iff_words : (∃ type taken, text = freshNodeId type taken) ↔
    1 < (words text).length ∧ WordAt IsNumber (words text) ((words text).length - 1) := by
  rw [exists_freshNodeId_iff]
  constructor
  · rintro ⟨type, k, hk, rfl⟩
    rw [wordAt_last_iff, words_numberedId]
    refine ⟨?_, words type, _, rfl, k, hk, rfl⟩
    have hpos := length_words_pos type
    rw [List.length_append, List.length_singleton]
    omega
  · rintro ⟨hlength, hlast⟩
    obtain ⟨before, last, hws, k, hk, rfl⟩ := wordAt_last_iff.mp hlast
    have hbefore : before ≠ [] := by
      rintro rfl
      simp [hws] at hlength
    refine ⟨ofWords before, k, hk, words_injective ?_⟩
    rw [words_numberedId, words_ofWords hbefore, hws]
    intro w hw
    have hmem : w ∈ words text := hws ▸ List.mem_append_left _ hw
    exact not_mem_of_mem_words hmem

/-- The handles are the texts whose last word ends like a handle. -/
theorem isHandle_iff_words : IsHandle text ↔ WordAt EndsHandle (words text) ((words text).length - 1) := by
  rw [wordAt_last_iff]
  constructor
  · rintro ⟨field, rfl⟩
    obtain ⟨before, last, hws⟩ : ∃ before last, words field = before ++ [last] :=
      ⟨_, _, (List.dropLast_append_getLast (words_ne_nil field)).symm⟩
    refine ⟨before, last ++ handleSuffix.toList, ?_, List.suffix_append _ _⟩
    have hfree : ∀ w ∈ before ++ [last ++ handleSuffix.toList], '_' ∉ w := by
      intro w hw
      have hfield : ∀ w ∈ before ++ [last], '_' ∉ w := fun w hw => not_mem_of_mem_words (hws ▸ hw)
      rcases List.mem_append.mp hw with hw | hw
      · exact hfield w (List.mem_append_left _ hw)
      · rw [List.mem_singleton.mp hw, List.mem_append, not_or]
        exact ⟨hfield last (List.mem_append_right _ List.mem_cons_self), by decide⟩
    rw [← words_ofWords (by simp) hfree, ofWords_concat_append, ← hws, ofWords_words, String.ofList_toList]
  · rintro ⟨before, last, hws, ⟨front, rfl⟩⟩
    refine ⟨ofWords (before ++ [front]), ?_⟩
    rw [← ofWords_words text, hws, ofWords_concat_append, String.ofList_toList]

end Parts

/-! ### Connections -/

/-- The two ends of an edge, each with its handle. -/
structure Connection where
  source : String
  sourceHandle : String
  target : String
  targetHandle : String
  deriving DecidableEq, Repr

namespace Connection

/-- The id that is generated for the edge. -/
def id (c : Connection) : String :=
  edgeId c.source c.sourceHandle c.target c.targetHandle

/-- The ends are ids that are generated for types, and their handles are those of fields. -/
structure Generated (c : Connection) : Prop where
  source : ∃ type taken, c.source = freshNodeId type taken
  sourceHandle : ∃ field, c.sourceHandle = handleOfField field
  target : ∃ type taken, c.target = freshNodeId type taken
  targetHandle : ∃ field, c.targetHandle = handleOfField field

/-- No handle has a number among its words, and no type behind its first word.  Neither the handle of the
source nor the type of the target has words of which one ends like a handle, the next one is `to`, and more
follow.  (An id without its last word is its type.) -/
structure Plain (c : Connection) : Prop where
  source : ∀ w ∈ (words c.source).dropLast.tail, ¬ IsNumber w
  sourceHandle : ∀ w ∈ words c.sourceHandle, ¬ IsNumber w
  target : ∀ w ∈ (words c.target).dropLast.tail, ¬ IsNumber w
  targetHandle : ∀ w ∈ words c.targetHandle, ¬ IsNumber w
  handleArrow : ¬ HasArrow (words c.sourceHandle)
  targetArrow : ¬ HasArrow (words c.target).dropLast

/-- The words of an id behind the first one. -/
def idWords (c : Connection) : List (List Char) :=
  words c.source ++ words c.sourceHandle ++ "to".toList :: (words c.target ++ words c.targetHandle)

/-- The place of the last word of the source. -/
def sourceCut (c : Connection) : Nat :=
  (words c.source).length - 1

/-- The place of the last word of the handle of the source. -/
def handleCut (c : Connection) : Nat :=
  c.sourceCut + (words c.sourceHandle).length

/-- The place of the last word of the target. -/
def targetCut (c : Connection) : Nat :=
  c.handleCut + 1 + (words c.target).length

variable {c c' : Connection}

theorem words_id (c : Connection) : words c.id = "edge".toList :: c.idWords := by
  have hid : c.id = "edge" ++ "_" ++
      (c.source ++ "_" ++ (c.sourceHandle ++ "_" ++ ("to" ++ "_" ++ (c.target ++ "_" ++ c.targetHandle)))) := by
    simp only [id, edgeId, String.append_assoc]
    rfl
  rw [hid, words_append, words_append, words_append, words_append, words_append, idWords,
    words_of_not_mem "edge" (by decide), words_of_not_mem "to" (by decide)]
  simp only [List.append_assoc, List.cons_append, List.nil_append]

theorem id_eq_iff : c.id = c'.id ↔ c.idWords = c'.idWords := by
  rw [← words_injective.eq_iff, words_id, words_id, List.cons_inj_right]

theorem cuts (c : Connection) : c.sourceCut + 1 = (words c.source).length ∧
    c.sourceCut < c.handleCut ∧ c.handleCut + 1 < c.targetCut ∧ c.targetCut + 1 < c.idWords.length := by
  have h1 := length_words_pos c.source
  have h2 := length_words_pos c.sourceHandle
  have h3 := length_words_pos c.target
  have h4 := length_words_pos c.targetHandle
  simp only [targetCut, handleCut, sourceCut, idWords, List.length_append, List.length_cons]
  omega

theorem slice_source : slice c.idWords 0 (c.sourceCut + 1) = words c.source := by
  rw [slice, List.drop_zero, idWords, List.append_assoc, List.take_left' c.cuts.1.symm]

theorem slice_sourceHandle :
    slice c.idWords (c.sourceCut + 1) (c.handleCut + 1) = words c.sourceHandle := by
  refine slice_of_eq (List.append_assoc _ _ _) c.cuts.1 ?_
  rw [handleCut, ← c.cuts.1]
  omega

theorem idWords_eq_target : c.idWords = (words c.source ++ words c.sourceHandle ++ ["to".toList]) ++
    (words c.target ++ words c.targetHandle) := by
  rw [idWords, List.append_assoc _ ["to".toList], List.singleton_append]

theorem length_before_target :
    (words c.source ++ words c.sourceHandle ++ ["to".toList]).length = c.handleCut + 2 := by
  rw [List.length_append, List.length_append, List.length_singleton, handleCut, ← c.cuts.1]
  omega

theorem slice_target : slice c.idWords (c.handleCut + 2) (c.targetCut + 1) = words c.target := by
  refine slice_of_eq idWords_eq_target length_before_target.symm ?_
  rw [length_before_target, targetCut]
  omega

theorem slice_targetHandle :
    slice c.idWords (c.targetCut + 1) c.idWords.length = words c.targetHandle := by
  have hcut : c.targetCut + 1 =
      (words c.source ++ words c.sourceHandle ++ ["to".toList] ++ words c.target).length := by
    rw [List.length_append, length_before_target, targetCut]
    omega
  rw [slice, List.take_length, idWords_eq_target, ← List.append_assoc, hcut, List.drop_left]

theorem wordAt_to : WordAt (· = "to".toList) c.idWords (c.handleCut + 1) := by
  refine ⟨_, ?_, rfl⟩
  have hplace : c.handleCut + 1 = (words c.source ++ words c.sourceHandle).length := by
    rw [List.length_append, handleCut, ← c.cuts.1]
    omega
  rw [hplace, idWords, List.getElem?_append_right le_rfl, Nat.sub_self, List.getElem?_cons_zero]

/-- The parts of a connection are generated exactly if its words can be read with them as parts. -/
theorem generated_iff : c.Generated ↔ Reading c.idWords c.sourceCut c.handleCut c.targetCut := by
  obtain ⟨hsource, hhandle, htarget, hlast⟩ := c.cuts
  have hends : c.Generated ↔
      (1 < (words c.source).length ∧ WordAt IsNumber c.idWords c.sourceCut) ∧
        WordAt EndsHandle c.idWords c.handleCut ∧
        (1 < (words c.target).length ∧ WordAt IsNumber c.idWords c.targetCut) ∧
        WordAt EndsHandle c.idWords (c.idWords.length - 1) := by
    have hhandles : ∀ text, (∃ field, text = handleOfField field) ↔ IsHandle text := fun text =>
      ⟨fun ⟨field, h⟩ => h ▸ isHandle_handleOfField field,
        fun h => ⟨text, (handleOfField_of_isHandle h).symm⟩⟩
    have hend : slice c.idWords (c.targetCut + 1) (c.idWords.length - 1 + 1) = words c.targetHandle := by
      rw [Nat.sub_add_cancel (by omega), slice_targetHandle]
    rw [← wordAt_last_slice slice_source (Nat.zero_le _) (by omega),
      ← wordAt_last_slice slice_sourceHandle hhandle (by omega),
      ← wordAt_last_slice slice_target htarget (by omega),
      ← wordAt_last_slice hend (by omega) (by omega),
      ← isFresh_iff_words, ← isFresh_iff_words, ← isHandle_iff_words, ← isHandle_iff_words,
      ← hhandles, ← hhandles]
    exact ⟨fun ⟨h1, h2, h3, h4⟩ => ⟨h1, h2, h3, h4⟩, fun ⟨h1, h2, h3, h4⟩ => ⟨h1, h2, h3, h4⟩⟩
  rw [hends]
  constructor
  · rintro ⟨⟨htype, hnumber⟩, hword, ⟨htargetType, htargetNumber⟩, hend⟩
    refine ⟨by omega, hnumber, hhandle, ⟨hword, wordAt_to⟩, ?_, htargetNumber, hlast, hend⟩
    rw [targetCut]
    omega
  · intro h
    have htype := h.type
    have htargetType := h.targetType
    refine ⟨⟨by omega, h.number⟩, h.arrow.1, ⟨?_, h.targetNumber⟩, h.last⟩
    rw [targetCut] at htargetType
    omega

/-- A plain connection has further numbers and arrows only where no reading of its words can use them. -/
theorem plain_iff (h : c.Generated) : c.Plain ↔
    (∀ i, WordAt IsNumber c.idWords i →
      i = 0 ∨ i = c.sourceCut ∨ i = c.handleCut + 2 ∨ i = c.targetCut) ∧
      ∀ i, ArrowAt c.idWords i → c.sourceCut < i → i + 2 < c.targetCut → i = c.handleCut := by
  obtain ⟨hsourceCut, hhandleCut, htargetCut, hlast⟩ := c.cuts
  have hhandle := (generated_iff.mp h).arrow.1
  have hsource : (words c.source).dropLast.tail = slice c.idWords 1 c.sourceCut := by
    rw [← slice_source, dropLast_slice (by omega) (by omega), tail_slice]
    rfl
  have htarget : (words c.target).dropLast = slice c.idWords (c.handleCut + 2) c.targetCut := by
    rw [← slice_target, dropLast_slice (by omega) (by omega)]
    rfl
  constructor
  · intro hplain
    refine ⟨fun i hi => ?_, fun i hi hlow hhigh => ?_⟩
    · have hto : i ≠ c.handleCut + 1 := by
        rintro rfl
        exact hi.false wordAt_to fun w hw hto => not_isNumber_to (hto ▸ hw)
      have h1 : ¬ (1 ≤ i ∧ i < c.sourceCut) := fun h =>
        forall_mem_slice_iff.mp (hsource ▸ hplain.source) i h.1 h.2 hi
      have h2 : ¬ (c.sourceCut + 1 ≤ i ∧ i < c.handleCut + 1) := fun h =>
        forall_mem_slice_iff.mp (slice_sourceHandle ▸ hplain.sourceHandle) i h.1 h.2 hi
      have h3 : ¬ (c.handleCut + 3 ≤ i ∧ i < c.targetCut) := fun h =>
        forall_mem_slice_iff.mp (tail_slice ▸ htarget ▸ hplain.target) i h.1 h.2 hi
      have h4 : ¬ (c.targetCut + 1 ≤ i ∧ i < c.idWords.length) := fun h =>
        forall_mem_slice_iff.mp (slice_targetHandle ▸ hplain.targetHandle) i h.1 h.2 hi
      have hlt := hi.lt
      omega
    · have hto : i ≠ c.handleCut + 1 := by
        rintro rfl
        exact hi.1.false wordAt_to fun w hw => hw.ne_to
      have hbefore : i + 1 ≠ c.handleCut := fun heq =>
        (heq ▸ hhandle).false hi.2 fun w hw => hw.ne_to
      have h1 : ¬ (c.sourceCut + 1 ≤ i ∧ i + 2 < c.handleCut + 1) := fun hin =>
        hplain.handleArrow (slice_sourceHandle ▸ (hasArrow_slice_iff (by omega)).mpr ⟨i, hi, hin⟩)
      have h2 : ¬ (c.handleCut + 2 ≤ i ∧ i + 2 < c.targetCut) := fun hin =>
        hplain.targetArrow (htarget ▸ (hasArrow_slice_iff (by omega)).mpr ⟨i, hi, hin⟩)
      omega
  · rintro ⟨hnumbers, harrows⟩
    have hfree : ∀ {i j}, 0 < i → (∀ k, i ≤ k → k < j → k ≠ c.sourceCut ∧ k ≠ c.handleCut + 2 ∧ k ≠ c.targetCut) →
        ∀ w ∈ slice c.idWords i j, ¬ IsNumber w := fun hi hother =>
      forall_mem_slice_iff.mpr fun k hlow hhigh hk => by
        have := hnumbers k hk
        have := hother k hlow hhigh
        omega
    refine ⟨?source, ?sourceHandle, ?target, ?targetHandle, ?handleArrow, ?targetArrow⟩
    case source => exact hsource ▸ hfree Nat.one_pos fun k hlow hhigh => by omega
    case sourceHandle =>
      exact slice_sourceHandle (c := c) ▸ hfree (Nat.succ_pos _) fun k hlow hhigh => by omega
    case target =>
      rw [htarget, tail_slice]
      exact hfree (Nat.succ_pos _) fun k hlow hhigh => by omega
    case targetHandle =>
      exact slice_targetHandle (c := c) ▸ hfree (Nat.succ_pos _) fun k hlow hhigh => by omega
    case handleArrow =>
      rw [← slice_sourceHandle, hasArrow_slice_iff (by omega)]
      rintro ⟨k, hk, hlow, hhigh⟩
      have := harrows k hk (by omega) (by omega)
      omega
    case targetArrow =>
      rw [htarget, hasArrow_slice_iff (by omega)]
      rintro ⟨k, hk, hlow, hhigh⟩
      have := harrows k hk (by omega) (by omega)
      omega

/-- Every reading of words is that of a connection. -/
theorem exists_of_reading {ws : List (List Char)} (hws : ∀ w ∈ ws, '_' ∉ w) {a b d : Nat}
    (h : Reading ws a b d) :
    ∃ c : Connection, c.idWords = ws ∧ c.sourceCut = a ∧ c.handleCut = b ∧ c.targetCut = d := by
  obtain ⟨-, -, hhandle, ⟨-, w, hto, rfl⟩, htarget, -, hlast, -⟩ := h
  have hpart : ∀ {i j}, i < j → j ≤ ws.length → words (ofWords (slice ws i j)) = slice ws i j := by
    intro i j hij hj
    refine words_ofWords (List.ne_nil_of_length_pos ?_) (not_mem_of_mem_slice hws)
    rw [length_slice]
    omega
  refine ⟨⟨ofWords (slice ws 0 (a + 1)), ofWords (slice ws (a + 1) (b + 1)), ofWords (slice ws (b + 2) (d + 1)),
    ofWords (slice ws (d + 1) ws.length)⟩, ?_, ?_⟩
  · rw [idWords]
    dsimp only
    rw [hpart (by omega) (by omega), hpart (by omega) (by omega), hpart (by omega) (by omega),
      hpart (by omega) (by omega), slice_append (by omega) (by omega) (by omega),
      slice_append (by omega) (by omega) (by omega), ← List.singleton_append, ← slice_singleton hto,
      slice_append (by omega) (by omega) (by omega), slice_append (by omega) (by omega) (by omega), slice,
      List.take_length, List.drop_zero]
  · rw [targetCut, handleCut, sourceCut]
    dsimp only
    rw [hpart (by omega) (by omega), hpart (by omega) (by omega), hpart (by omega) (by omega), length_slice,
      length_slice, length_slice]
    omega

theorem eq_of_cuts (hws : c'.idWords = c.idWords) (hsource : c'.sourceCut = c.sourceCut)
    (hhandle : c'.handleCut = c.handleCut) (htarget : c'.targetCut = c.targetCut) : c' = c := by
  have h1 : words c'.source = words c.source := by
    rw [← slice_source, ← slice_source, hws, hsource]
  have h2 : words c'.sourceHandle = words c.sourceHandle := by
    rw [← slice_sourceHandle, ← slice_sourceHandle, hws, hsource, hhandle]
  have h3 : words c'.target = words c.target := by
    rw [← slice_target, ← slice_target, hws, hhandle, htarget]
  have h4 : words c'.targetHandle = words c.targetHandle := by
    rw [← slice_targetHandle, ← slice_targetHandle, hws, htarget]
  cases c
  cases c'
  rw [Connection.mk.injEq]
  exact ⟨words_injective h1, words_injective h2, words_injective h3, words_injective h4⟩

theorem not_mem_of_mem_idWords : ∀ w ∈ c.idWords, '_' ∉ w := by
  intro w hw
  have hid : w ∈ words c.id := by
    rw [words_id]
    exact List.mem_cons_of_mem _ hw
  exact not_mem_of_mem_words hid

/-- **Which connections the generated ids of edges tell apart.**  Of the connections with generated ends and
handles one is the only one with its id exactly if it is plain. -/
theorem only_of_id_iff (h : c.Generated) :
    (∀ c' : Connection, c'.Generated → c'.id = c.id → c' = c) ↔ c.Plain := by
  rw [plain_iff h, ← (generated_iff.mp h).unique_iff]
  constructor
  · intro honly a b d hreading
    obtain ⟨c', hws, rfl, rfl, rfl⟩ := exists_of_reading not_mem_of_mem_idWords hreading
    have hc' : c'.Generated := generated_iff.mpr (hws ▸ hreading)
    obtain rfl := honly c' hc' (id_eq_iff.mpr hws)
    exact ⟨rfl, rfl, rfl⟩
  · intro hunique c' hc' hid
    have hws := id_eq_iff.mp hid
    obtain ⟨hsource, hhandle, htarget⟩ := hunique _ _ _ (hws ▸ generated_iff.mp hc')
    exact eq_of_cuts hws hsource hhandle htarget

/-- A connection between two nodes of one type. -/
def betweenCode : Connection :=
  ⟨"code_node_1", "out-handle", "code_node_2", "in-handle"⟩

theorem betweenCode_plain : betweenCode.Plain where
  source := by decide +kernel
  sourceHandle := by decide +kernel
  target := by decide +kernel
  targetHandle := by decide +kernel
  handleArrow := by
    rintro ⟨i, -, hmore⟩
    have hlength : (words betweenCode.sourceHandle).length = 1 := by decide +kernel
    omega
  targetArrow := by
    rintro ⟨i, -, hmore⟩
    have hlength : (words betweenCode.target).dropLast.length = 2 := by decide +kernel
    omega

theorem betweenCode_only_of_id : betweenCode.id = "edge_code_node_1_out-handle_to_code_node_2_in-handle" ∧
    ∀ c' : Connection, c'.Generated → c'.id = betweenCode.id → c' = betweenCode := by
  have hgenerated : betweenCode.Generated := by
    refine ⟨⟨"code_node", [], ?_⟩, ⟨"out", ?_⟩, ⟨"code_node", ["code_node_1"], ?_⟩, ⟨"in", ?_⟩⟩ <;> decide +kernel
  exact ⟨by decide +kernel, (only_of_id_iff hgenerated).mpr betweenCode_plain⟩

/-- The handle of the source begins with a number. -/
def numberInHandle : Connection :=
  ⟨"a_1", "1_x-handle", "t_1", "y-handle"⟩

/-- The type of the source ends in a number. -/
def numberInType : Connection :=
  ⟨"a_1_1", "x-handle", "t_1", "y-handle"⟩

/-- Two connections with generated ends and handles that have one id. -/
theorem numberInHandle_id_eq : numberInHandle.Generated ∧ numberInType.Generated ∧
    numberInHandle.id = numberInType.id ∧ numberInHandle ≠ numberInType := by
  refine ⟨?_, ?_, by decide +kernel, by decide +kernel⟩
  · refine ⟨⟨"a", [], ?_⟩, ⟨"1_x", ?_⟩, ⟨"t", [], ?_⟩, ⟨"y", ?_⟩⟩ <;> decide +kernel
  · refine ⟨⟨"a_1", [], ?_⟩, ⟨"x", ?_⟩, ⟨"t", [], ?_⟩, ⟨"y", ?_⟩⟩ <;> decide +kernel

end Connection

end WorkflowCheck
