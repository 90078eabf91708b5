import WorkflowCheck.Command.Run
import WorkflowCheck.Proofs.Json.ReadBack
import WorkflowCheck.Proofs.Registry.Bulk
import WorkflowCheck.Proofs.Yaml.ReadBack

/-!
# Written contracts are read back

A contract that was read, and a built-in one, is read back from its record (`Contract.read_write`).  So a
registry that can be made comes back whole from the records of its contracts, and what is shown of a type is
an entry for the same contract (`made_loads_back`), but for one kind of text.  A registry is YAML, while what is shown
is JSON, which spells a wide character as the escapes of its halves; YAML takes these for two lone surrogates, which
no type may hold (`moodContract_not_entry`).
-/

namespace WorkflowCheck

open Decode

/-! ### One contract -/

theorem Category.word_writeWord (c : Category) :
    word Category.words (writeWord Category.words c) = .valid c := by
  cases c <;> rfl

namespace Contract

/-- The record of a contract whose type is a filled text is read as this contract, if it breaks no rule. -/
theorem read_write_eq {c : Contract} (htype : IsFilled c.type) :
    read c.write = c.brokenRule?.elim (.valid c) fun rule => .fault (.broken rule) := by
  have hshows := forall_shows .full (rfl : c.write = _) (by simp [FieldName.same])
  simp only [List.forall_mem_cons] at hshows
  obtain ⟨htype', hcategory, hdescription, hrequired, hoptional, houtputs, hdynamic, -⟩ := hshows
  have hword := c.category.word_writeWord
  have htexts : ∀ as : List String, ∀ s ∈ as, text (.str s) = .valid s := fun _ s _ => text_str s
  rw [read, record_of_isObject rfl, required_filledText_of_shows htype' htype,
    required_of_shows hcategory hword (ne_null_of_word hword), withDefault_text_of_shows hdescription,
    withDefault_list_of_shows hrequired (htexts _), withDefault_list_of_shows hoptional (htexts _),
    withDefault_list_of_shows houtputs (htexts _), optionalField_text_of_shows hdynamic]
  change Checked.andThen (.valid c) _ = _
  dsimp only [Checked.andThen]
  cases c.brokenRule? <;> rfl

/-- A contract whose type is a filled text and that breaks no rule is read back from its record. -/
theorem read_write {c : Contract} (htype : IsFilled c.type) (hrule : c.brokenRule? = none) :
    read c.write = .valid c := by
  rw [read_write_eq htype, hrule]
  rfl

theorem ensures_read_write (c : Contract) : (read c.write).Ensures fun _ => IsFilled c.type := by
  have hshows := forall_shows .full (rfl : c.write = _) (by simp [FieldName.same])
  simp only [List.forall_mem_cons] at hshows
  refine ensures_record (.andThen (P := fun _ => IsFilled c.type) ?fields fun _ h _ _ => h)
  refine .seq (.seq (.seq (.seq (.seq (.seq (.map fun s hs _ _ _ _ _ _ => ?type))))))
  have htext := filledText_eq_valid_iff.mp (valid_of_required hshows.1 hs)
  cases htext.1
  exact htext.2

/-- The record of a contract is read as no other one. -/
theorem eq_of_read_write {c c' : Contract} (h : read c'.write = .valid c) : c = c' := by
  rw [read_write_eq (ensures_read_write c' c h)] at h
  cases hrule : c'.brokenRule? with
  | some rule =>
    rw [hrule] at h
    cases h
  | none =>
    rw [hrule] at h
    cases h
    rfl

/-- The texts of a contract. -/
def texts (c : Contract) : List String :=
  c.type :: c.description :: (c.requiredInputs ++ c.optionalInputs ++ c.outputs ++ c.dynamicField.toList)

/-- A record in full is plain if the values of its fields are. -/
theorem plain_record_full {text key : String → Prop} {d : Nat} {entries : List (FieldName × Value)}
    (hnodup : (entries.map (·.1.own)).Nodup) (hkeys : ∀ name ∈ entries.map (·.1.own), key name)
    (hvalues : ∀ e ∈ entries, Json.Plain text key d e.2) :
    Json.Plain text key (d + 1) (Form.full.record entries) := by
  show Json.Plain text key (d + 1) (.record (entries.flatMap fun e => [(e.1.own, e.2)]))
  rw [← List.map_eq_flatMap]
  refine .record ?_ ?_ ?_
  · rwa [List.map_map]
  · intro f hf
    obtain ⟨e, he, rfl⟩ := List.mem_map.mp hf
    exact hkeys _ (List.mem_map_of_mem he)
  · intro f hf
    obtain ⟨e, he, rfl⟩ := List.mem_map.mp hf
    exact hvalues e he

/-- The names of the fields of a contract. -/
def fieldNames : List String :=
  ["type", "category", "description", "required_inputs", "optional_inputs", "outputs", "dynamic_inputs_field"]

/-- The record of a contract is plain if its texts, the words for categories and the names of fields meet the
conditions. -/
theorem plain_write {text key : String → Prop} {c : Contract} (htexts : ∀ s ∈ c.texts, text s)
    (hwords : ∀ w ∈ Category.words.map (·.1), text w) (hnames : ∀ name ∈ fieldNames, key name) :
    Json.Plain text key 2 c.write := by
  have htext : ∀ s ∈ c.texts, Json.Plain text key 1 (.str s) := fun s hs => .str 1 (htexts s hs)
  have hlist : ∀ ss : List String, (∀ s ∈ ss, s ∈ c.texts) → Json.Plain text key 1 (writeList Value.str ss) := by
    intro ss hss
    refine .arr fun v hv => ?_
    obtain ⟨s, hs, rfl⟩ := List.mem_map.mp hv
    exact .str 0 (htexts s (hss s hs))
  have hword : Json.Plain text key 1 (writeWord Category.words c.category) := by
    rw [writeWord]
    split
    case h_1 w _ hw => exact .str 1 (hwords w (List.mem_map_of_mem (List.mem_of_find?_eq_some hw)))
    case h_2 => exact .null 1
  have hdynamic : Json.Plain text key 1 (writeOptional Value.str c.dynamicField) := by
    cases hfield : c.dynamicField with
    | none => exact .null 1
    | some s => exact htext s (by simp [texts, hfield])
  have hnodup : fieldNames.Nodup := by decide
  refine plain_record_full hnodup hnames ?_
  simp only [List.forall_mem_cons]
  refine ⟨htext _ ?_, hword, htext _ ?_, hlist _ ?_, hlist _ ?_, hlist _ ?_, hdynamic, nofun⟩
  all_goals
    simp +contextual [texts]

/-- A contract with two lone surrogates for each wide character in its texts. -/
def halved (c : Contract) : Contract :=
  { c with
    type := Yaml.halved c.type
    description := Yaml.halved c.description
    requiredInputs := c.requiredInputs.map Yaml.halved
    optionalInputs := c.optionalInputs.map Yaml.halved
    outputs := c.outputs.map Yaml.halved
    dynamicField := c.dynamicField.map Yaml.halved }

theorem texts_halved (c : Contract) : c.halved.texts = c.texts.map Yaml.halved := by
  have hdynamic : (c.dynamicField.map Yaml.halved).toList = c.dynamicField.toList.map Yaml.halved := by
    cases c.dynamicField <;> rfl
  simp only [texts, halved, hdynamic, List.map_cons, List.map_append]

theorem halved_eq_self_iff {c : Contract} : c.halved = c ↔ ∀ s ∈ c.texts, Yaml.Narrow s := by
  constructor
  · intro h
    rw [← Yaml.map_halved_eq_self_iff, ← texts_halved, h]
  · intro h
    have htext : ∀ s ∈ c.texts, Yaml.halved s = s := fun s hs => Yaml.halved_eq_self_iff.mpr (h s hs)
    have hlist : ∀ ss : List String, (∀ s ∈ ss, s ∈ c.texts) → ss.map Yaml.halved = ss := fun ss hss =>
      Yaml.map_halved_eq_self_iff.mpr fun s hs => h s (hss s hs)
    have hdynamic : c.dynamicField.map Yaml.halved = c.dynamicField := by
      cases hfield : c.dynamicField with
      | none => rfl
      | some s => exact congrArg some (htext s (by simp [texts, hfield]))
    rw [halved, htext c.type, htext c.description, hlist c.requiredInputs, hlist c.optionalInputs, hlist c.outputs,
      hdynamic]
    all_goals simp +contextual [texts]

/-- The record of a contract has the halves where the contract has them. -/
theorem halvedValue_write (c : Contract) : Yaml.halvedValue c.write = c.halved.write := by
  have hlist : ∀ ss : List String,
      Yaml.halvedValue (writeList Value.str ss) = writeList Value.str (ss.map Yaml.halved) := by
    intro ss
    rw [writeList, Yaml.halvedValue, Yaml.halvedItems_eq, List.map_map, writeList, List.map_map]
    rfl
  have hword : Yaml.halvedValue (writeWord Category.words c.category) = writeWord Category.words c.category := by
    have hnarrow : ∀ w ∈ Category.words.map (·.1), Yaml.Narrow w := by decide
    rw [writeWord]
    split
    case h_1 w _ hw =>
      have hmem : w ∈ Category.words.map (·.1) := List.mem_map_of_mem (List.mem_of_find?_eq_some hw)
      rw [Yaml.halvedValue, Yaml.halved_eq_self_iff.mpr (hnarrow w hmem)]
    case h_2 => rfl
  have hdynamic : Yaml.halvedValue (writeOptional Value.str c.dynamicField) =
      writeOptional Value.str (c.dynamicField.map Yaml.halved) := by
    cases c.dynamicField <;> rfl
  have hwrite : ∀ c : Contract, c.write = .record
      [("type", .str c.type), ("category", writeWord Category.words c.category),
        ("description", .str c.description), ("required_inputs", writeList Value.str c.requiredInputs),
        ("optional_inputs", writeList Value.str c.optionalInputs), ("outputs", writeList Value.str c.outputs),
        ("dynamic_inputs_field", writeOptional Value.str c.dynamicField)] := fun _ => rfl
  rw [hwrite, hwrite, Yaml.halvedValue_record]
  simp only [List.map_cons, List.map_nil, hlist, hword, hdynamic]
  rfl

end Contract

/-! ### Whole registries -/

namespace Registry

variable {r : Registry}

/-- The contracts of a registry in the order of its types. -/
def listed (r : Registry) : List Contract :=
  r.types.filterMap r.get?

/-- The payload of the records of all contracts. -/
def toPayload (r : Registry) : Value :=
  .record [("node_types", writeList Contract.write r.listed)]

/-- Each contract of a registry is read back from its record. -/
def ReadsBack (r : Registry) : Prop :=
  ∀ type c, r.get? type = some c → Contract.read c.write = .valid c

theorem invariant_readsBack : Invariant ReadsBack fun c => Contract.read c.write = .valid c where
  empty := nofun
  withContract := by
    intro r c hr hc type c' hc'
    rw [get?_withContract] at hc'
    split at hc'
    case isTrue =>
      cases hc'
      exact hc
    case isFalse => exact hr type c' hc'
  read v c hc :=
    have hkept := Contract.ensures_read_filled v c hc
    Contract.read_write hkept.1 hkept.2
  builtinContracts c hc :=
    have hkept := builtinContracts_filled c hc
    Contract.read_write hkept.1 hkept.2

theorem Sound.contracts_eq (h : r.Sound) : r.contracts = r.listed.map fun c => (c.type, c) := by
  have hentries : ∀ e ∈ r.contracts, r.get? e.1 = some e.2 := fun e he => Table.get?_of_mem h.nodup he
  have hlisted : r.listed = r.contracts.map (·.2) := by
    rw [listed, types, Table.keys, List.filterMap_map, ← List.filterMap_eq_map]
    exact List.filterMap_congr hentries
  rw [hlisted, List.map_map]
  refine (List.map_id r.contracts).symm.trans (List.map_congr_left fun e he => ?_)
  exact Prod.ext (h.typed e.1 e.2 (hentries e he)).symm rfl

/-- Contracts in the order of their registry make it. -/
theorem Sound.ofContracts_listed (h : r.Sound) : ofContracts r.listed = .ok r := by
  have hnodup : (r.listed.map (·.type)).Nodup := by
    have htypes := congrArg (List.map (·.1)) h.contracts_eq
    rw [List.map_map] at htypes
    exact htypes ▸ h.nodup
  rw [ofContracts_eq_ok_iff]
  refine ⟨hnodup, ?_⟩
  have hcontracts := (contracts_foldl_withContract hnodup).trans h.contracts_eq.symm
  cases r
  exact congrArg Registry.mk hcontracts.symm

theorem ReadsBack.readAll_listed (h : r.ReadsBack) : ReadAll (r.listed.map Contract.write) r.listed := by
  rw [ReadAll, List.forall₂_map_left_iff, List.forall₂_same]
  intro c hc
  obtain ⟨type, -, hget⟩ := List.mem_filterMap.mp hc
  exact h type c hget

theorem Sound.ofPayload_toPayload (h : r.Sound) (hread : r.ReadsBack) : ofPayload r.toPayload = .ok r :=
  ofPayload_eq_ok_iff.mpr ⟨_, r.listed, ⟨rfl, _, rfl, rfl⟩, hread.readAll_listed, h.ofContracts_listed⟩

end Registry

/-! ### What the command shows -/

namespace Command

/-- A text is an entry for a contract: it is read as YAML, as registries are, and what it holds as this contract. -/
def IsEntry (output : String) (c : Contract) : Prop :=
  ∃ v, Yaml.read output none = .ok v ∧ Contract.read v = .valid c

/-- A contract is shown: its record, which is read as this contract.  What is shown is an entry for it unless a
character is written as its two halves.  As JSON it is read as the record, unless two lone surrogates are the halves of
one character. -/
structure Shows (c : Contract) (output : String) : Prop where
  output_eq : output = lines [Json.indented c.write]
  record : Contract.read c.write = .valid c
  entry : IsEntry output c ↔ ∀ s ∈ c.texts, Yaml.Narrow s
  json : (∀ s ∈ c.texts, Json.Unpaired s) → Json.read output = .ok c.write

theorem lines_indented (v : Value) : lines [Json.indented v] = Json.indented v ++ "\n" := by
  simp [lines, String.join]

theorem yaml_read_write (c : Contract) : Yaml.read (lines [Json.indented c.write]) none = .ok c.halved.write := by
  have hplain : Json.Plain (fun _ => True) Yaml.IsKey 2 c.write :=
    Contract.plain_write (fun _ _ => trivial) (fun _ _ => trivial) (by decide +kernel)
  rw [lines_indented, ← Contract.halvedValue_write]
  exact Yaml.read_valueText hplain (.inr rfl) (by decide)

theorem shows_of_read {c : Contract} (h : Contract.read c.write = .valid c) :
    Shows c (lines [Json.indented c.write]) := by
  refine ⟨rfl, h, ⟨fun hentry => ?_, fun hnarrow => ?_⟩, fun hc => ?_⟩
  · obtain ⟨v, hv, hread⟩ := hentry
    obtain rfl := Except.ok.inj ((yaml_read_write c).symm.trans hv)
    exact Contract.halved_eq_self_iff.mp (Contract.eq_of_read_write hread).symm
  · have hyaml := yaml_read_write c
    rw [Contract.halved_eq_self_iff.mpr hnarrow] at hyaml
    exact ⟨_, hyaml, h⟩
  · have hunpaired : ∀ ss : List String, (∀ s ∈ ss, Text.holdsSurrogate s = false) → ∀ s ∈ ss, Json.Unpaired s :=
      fun ss h s hs => Json.unpaired_of_no_surrogate (h s hs)
    have hplain : Json.Plain Json.Unpaired Json.Unpaired 2 c.write :=
      Contract.plain_write hc (hunpaired _ (by decide)) (hunpaired _ (by decide))
    have hend : Json.IsBlank "\n".toList := by
      simp [Json.IsBlank, Json.Token.isBlank]
    rw [lines_indented]
    exact hplain.read_valueText (by decide) (Json.Layout.indented_blank rfl rfl) hend

theorem ofPayload_of_loadRegistry {t : FileTree} {path : Path} {r : Registry}
    (h : t.loadRegistry path = .ok r) : ∃ v, Registry.ofPayload v = .ok r := by
  have hmap : ∀ {x : Except RegistryError Registry}, x.mapError RegistryFileError.invalid = .ok r → x = .ok r := by
    intro x hx
    cases x with
    | error e => cases hx
    | ok r' => exact congrArg Except.ok (Except.ok.inj hx)
  unfold FileTree.loadRegistry at h
  split at h
  case h_4 file hfile =>
    split at h
    case h_4 v hv => exact ⟨_, hmap h⟩
    all_goals cases h
  all_goals cases h

/-- The registry of a command is the built-in one or that of a payload. -/
theorem exists_made_of_chooseRegistry {t : FileTree} {name : Option Value} {r : Registry}
    {records : List Record} (h : chooseRegistry t name = .ok (r, records)) :
    ∃ makers, r ∈ Registry.made makers := by
  cases name with
  | none =>
    cases h
    exact ⟨[.builtin], List.mem_singleton_self _⟩
  | some name =>
    obtain ⟨path, hpath, h⟩ := exists_ok_of_bind h
    obtain ⟨r', hr', h⟩ := exists_ok_of_bind h
    cases h
    obtain ⟨v, hv⟩ := ofPayload_of_loadRegistry hr'
    refine ⟨[.payload v], ?_⟩
    show r ∈ (Registry.ofPayload v).toOption.toList
    rw [hv]
    exact List.mem_singleton_self r

/-- A type of a registry that can be made is shown with its contract. -/
theorem showTypes_of_made {makers : List Registry.Maker} {r : Registry} (hr : r ∈ Registry.made makers)
    {type : String} {c : Contract} (hc : r.get? type = some c) :
    c.type = type ∧ (showTypes r (some type)).status = 0 ∧ Shows c (showTypes r (some type)).output := by
  have hread := Registry.invariant_readsBack.made makers r hr type c hc
  rw [showTypes, hc]
  exact ⟨(Registry.invariant_sound.made makers r hr).typed type c hc, rfl, shows_of_read hread⟩

/-- A run that is asked for a type shows its contract, or it fails and shows nothing. -/
theorem run_types_shows {s : RawSettings} {t : FileTree} {words : List String} {request : Request}
    {type : String} {outcome : Outcome} (hwords : Request.ofWords words = some request)
    (htask : request.task = .types (some type)) (hrun : run s t words = .ok outcome) :
    (outcome.status = 0 ∧ ∃ r records c, chooseRegistry t (registryName? s request) = .ok (r, records) ∧
        r.get? type = some c ∧ c.type = type ∧ Shows c outcome.output) ∨
      (outcome.status ≠ 0 ∧ outcome.output = "") := by
  unfold run at hrun
  rw [hwords] at hrun
  dsimp only at hrun
  split at hrun
  case h_1 => cases hrun
  case h_2 rank hrank =>
    obtain ⟨whole, hwhole, rfl⟩ := exists_ok_of_map hrun
    unfold Request.run at hwhole
    split at hwhole
    case h_1 e he =>
      split_ifs at hwhole
      cases hwhole
      exact .inr ⟨Nat.succ_ne_zero 1, rfl⟩
    case h_2 r records hr =>
      obtain ⟨makers, hmade⟩ := exists_made_of_chooseRegistry hr
      rw [htask] at hwhole
      cases hwhole
      cases hc : r.get? type with
      | none =>
        rw [showTypes, hc]
        exact .inr ⟨Nat.one_ne_zero, rfl⟩
      | some c =>
        obtain ⟨htype, hstatus, hshown⟩ := showTypes_of_made hmade hc
        exact .inl ⟨hstatus, r, records, c, hr, hc, htype, hshown⟩

end Command

namespace Registry

/-- **The registries that can be made come back from the records of their contracts**: the payload with these,
in the order of the types, makes the same registry, with the same types in the same order and the same
contract for each.  Whatever is shown of a type, by a registry that can be made or by a run of the command, is the
record of the contract of that type, and an entry for it if and only if its texts have no wide characters. -/
theorem made_loads_back (makers : List Maker) :
    (∀ r ∈ made makers, ofPayload r.toPayload = .ok r ∧
      ∀ type ∈ r.types, ∃ c, r.get? type = some c ∧ c.type = type ∧
        (Command.showTypes r (some type)).status = 0 ∧
        Command.Shows c (Command.showTypes r (some type)).output) ∧
      ∀ s t words request type outcome, Command.Request.ofWords words = some request →
        request.task = .types (some type) → Command.run s t words = .ok outcome →
        (outcome.status = 0 ∧
          ∃ r records c, Command.chooseRegistry t (Command.registryName? s request) = .ok (r, records) ∧
            r.get? type = some c ∧ c.type = type ∧ Command.Shows c outcome.output) ∨
          (outcome.status ≠ 0 ∧ outcome.output = "") := by
  refine ⟨fun r hr => ?_, fun s t words request type outcome => Command.run_types_shows⟩
  have hsound := invariant_sound.made makers r hr
  have hread := invariant_readsBack.made makers r hr
  refine ⟨hsound.ofPayload_toPayload hread, fun type htype => ?_⟩
  obtain ⟨c, hc⟩ := (hsound.listed_iff type).mp htype
  exact ⟨c, hc, Command.showTypes_of_made hr hc⟩

/-- Contracts with repeated names in a list, and with a name for further inputs that is empty. -/
def repeatsContract : ReadContract :=
  ⟨⟨"repeats_node", .compute, "", ["a", "a"], ["b"], ["out", "out"], some ""⟩,
    .record
      [("type", .str "repeats_node"), ("category", .str "compute"),
        ("required_inputs", .arr [.str "a", .str "a"]), ("optional_inputs", .arr [.str "b"]),
        ("outputs", .arr [.str "out", .str "out"]), ("dynamic_inputs_field", .str "")],
    rfl⟩

theorem repeatsContract_loads_back :
    (∃ r ∈ made [.contracts [newsContract, repeatsContract]],
      ofPayload r.toPayload = .ok r ∧ r.types = ["news_node", "repeats_node"] ∧
        ∃ c, r.get? "repeats_node" = some c ∧ c = repeatsContract.val ∧
          Command.IsEntry (Command.showTypes r (some "repeats_node")).output c) ∧
      ∃ outcome, Command.run ({} : Settings).toRaw ⟨⟨true, []⟩, [], []⟩ ["types", "code_node"] = .ok outcome ∧
        outcome.status = 0 ∧ ∃ c, c.type = "code_node" ∧ Command.Shows c outcome.output := by
  obtain ⟨hmade, hruns⟩ := made_loads_back [.contracts [newsContract, repeatsContract]]
  constructor
  · have hr : [newsContract.val, repeatsContract.val].foldl withContract empty ∈
        made [.contracts [newsContract, repeatsContract]] := List.mem_singleton_self _
    obtain ⟨hpayload, hlisted⟩ := hmade _ hr
    refine ⟨_, hr, hpayload, rfl, ?_⟩
    obtain ⟨c, hc, -, -, hshown⟩ := hlisted "repeats_node" (by decide)
    have heq : c = repeatsContract.val := Option.some.inj hc.symm
    refine ⟨c, hc, heq, hshown.entry.mpr ?_⟩
    subst heq
    decide
  · have hwords : Command.Request.ofWords ["types", "code_node"] =
        some ⟨none, none, .types (some "code_node")⟩ := by decide +kernel
    have hstatus : (Command.run ({} : Settings).toRaw ⟨⟨true, []⟩, [], []⟩
        ["types", "code_node"]).toOption.map (·.status) = some 0 := by decide +kernel
    cases hrun : Command.run ({} : Settings).toRaw ⟨⟨true, []⟩, [], []⟩ ["types", "code_node"] with
    | error e =>
      rw [hrun] at hstatus
      cases hstatus
    | ok outcome =>
      rw [hrun] at hstatus
      have hzero : outcome.status = 0 := Option.some.inj hstatus
      rcases hruns _ _ _ _ _ _ hwords rfl hrun with ⟨-, r, records, c, -, -, hshown⟩ | ⟨hne, -⟩
      · exact ⟨outcome, rfl, hzero, c, hshown⟩
      · exact absurd hzero hne

/-- A contract whose type has a character that is written as its halves. -/
def moodContract : ReadContract :=
  ⟨⟨"mood_😀", .compute, "", [], [], [], none⟩,
    .record [("type", .str "mood_😀"), ("category", .str "compute")], rfl⟩

/-- What is shown of that contract is an entry for none. -/
theorem moodContract_not_entry :
    ∃ r ∈ made [.contracts [moodContract]], r.get? "mood_😀" = some moodContract.val ∧
      ∀ c, ¬Command.IsEntry (Command.showTypes r (some "mood_😀")).output c := by
  have hr : [moodContract.val].foldl withContract empty ∈ made [.contracts [moodContract]] :=
    List.mem_singleton_self _
  refine ⟨_, hr, rfl, ?_⟩
  rintro c ⟨v, hv, hread⟩
  obtain rfl := Except.ok.inj ((Command.yaml_read_write moodContract.val).symm.trans hv)
  have hfaulty : (Contract.read moodContract.val.halved.write).toOption.isSome = false := by decide +kernel
  rw [hread] at hfaulty
  cases hfaulty

end Registry

end WorkflowCheck
