import EventRules.Proofs.Evaluation.Trial
import EventRules.Proofs.Yaml.Answers
import EventRules.Rule.Table

/-!
# Identity — what is written of a rule tells which rule it is

A fault of a rule names the rule by its written form.  A rule from a document is read back from that
form, in the order in which it is written as in the order of its names, and parts that are missing stay
missing.  There is one exception: a document can leave a null as the output of a rule, and a null that
is written for an output is read as none.

* `Rule.IsWellFormed`, `Rule.isWellFormed_of_gives` — rules as documents leave them;
* `LawfulCondition` — what conditions owe to their written form;
* `Rule.read_toJson`, `Rule.read_canonical` — what the written form is read as;
* `Table.rules_are_identified` — all rules of all documents.
-/

namespace EventRules

open Answering

/-! ## Conditions -/

/-- The laws of the written form of conditions. -/
class LawfulCondition (κ : Type) [Condition κ] : Prop where
  toJson_ne_null (condition : κ) : Condition.toJson condition ≠ .null
  toJson_injective : Function.Injective (Condition.toJson : κ → Json)
  /-- The values of a document are in canonical form. -/
  canonical_of_gives {condition : κ} : Gives (Condition.read : Yaml.NodeReader κ) condition →
    (Condition.toJson condition).Canonical
  read_toJson {condition : κ} : (Condition.toJson condition).Canonical →
    (Condition.read : TreeReader κ) (Condition.toJson condition) = .ok condition

theorem ActionCondition.canonical_toJson (condition : ActionCondition) :
    condition.toJson.Canonical :=
  ⟨List.pairwise_singleton _ _, trivial, trivial⟩

instance : LawfulCondition ActionCondition where
  toJson_ne_null _ := nofun
  toJson_injective := by
    rintro ⟨first⟩ ⟨second⟩ ⟨⟩
    rfl
  canonical_of_gives _ := ActionCondition.canonical_toJson _
  read_toJson _ := rfl

theorem Operator.name_injective : Function.Injective Operator.name := by
  intro first second h
  cases first <;> cases second <;> first | rfl | exact absurd h (by decide)

/-- Signs are read as well, but never written. -/
theorem Operator.read_name (op : Operator) :
    (Operator.read : TreeReader Operator) (.string op.name) = .ok op := by
  cases op <;> decide +kernel

namespace PropertyCondition

theorem canonical_toJson_iff {condition : PropertyCondition} :
    condition.toJson.Canonical ↔ condition.value.Canonical := by
  have names : ["key", "op", "value"].Pairwise (· < ·) := by decide
  have sorted : Fields.Sorted [("key", Json.string condition.key),
      ("op", .string condition.op.name), ("value", condition.value)] := List.pairwise_map.1 names
  exact ⟨fun canonical => canonical.2.2.2.1,
    fun canonical => ⟨sorted, trivial, trivial, canonical, trivial⟩⟩

theorem canonical_of_gives {condition : PropertyCondition}
    (h : Gives (PropertyCondition.read : Yaml.NodeReader PropertyCondition) condition) :
    condition.toJson.Canonical := by
  have maintains : (record : Record Yaml.NodeReader Draft PropertyCondition).Maintains
      fun draft => ∀ value ∈ draft.value, value.Canonical := by
    refine ⟨nofun, ?_, nofun⟩
    intro field hfield acc next hacc h
    simp only [record, List.mem_cons, List.not_mem_nil, or_false] at hfield
    rcases hfield with rfl | rfl | rfl <;>
      obtain ⟨own, hown, rfl⟩ := Yaml.NodeReader.gives_bind_pure h
    · exact hacc
    · exact hacc
    · rintro value ⟨⟩
      exact Yaml.NodeReader.gives_json hown
  obtain ⟨draft, hdraft, hfinish⟩ := Yaml.NodeReader.gives_record maintains h
  obtain ⟨key, -, hfinish⟩ := ok_of_bind hfinish
  obtain ⟨op, -, hfinish⟩ := ok_of_bind hfinish
  obtain ⟨value, hvalue, hfinish⟩ := ok_of_bind hfinish
  cases hfinish
  exact canonical_toJson_iff.2 (hdraft value (Record.eq_some_of_required hvalue))

theorem toJson_injective : Function.Injective toJson := by
  rintro ⟨key, op, value⟩ ⟨_, other, _⟩ h
  simp only [toJson, Json.object.injEq, List.cons.injEq, Prod.mk.injEq, Json.string.injEq,
    true_and, and_true] at h
  obtain ⟨rfl, hop, rfl⟩ := h
  rw [Operator.name_injective hop]

theorem read_toJson {condition : PropertyCondition} (canonical : condition.toJson.Canonical) :
    (PropertyCondition.read : TreeReader PropertyCondition) condition.toJson = .ok condition := by
  rcases condition with ⟨key, op, value⟩
  have hvalue : (Source.json : TreeReader Json) value = .ok value :=
    congrArg _ (Json.canonical_of_canonical (canonical_toJson_iff.1 canonical))
  have gathers : (record : Record TreeReader Draft PropertyCondition).Gathers
      [("key", .string key), ("op", .string op.name), ("value", value)] ⟨none, none, none⟩
      ⟨some key, some op, some value⟩ :=
    .known rfl rfl (LawfulSource.stands_bind_pure _ (LawfulSource.stands_text key)) <|
    .known rfl rfl (LawfulSource.stands_bind_pure _ (Operator.read_name op)) <|
    .known rfl rfl (LawfulSource.stands_bind_pure _ hvalue) .nil
  exact TreeReader.stands_record gathers rfl

end PropertyCondition

instance : LawfulCondition PropertyCondition where
  toJson_ne_null _ := nofun
  toJson_injective := PropertyCondition.toJson_injective
  canonical_of_gives := PropertyCondition.canonical_of_gives
  read_toJson := PropertyCondition.read_toJson

namespace Rule

variable {κ : Type} [Condition κ]

/-! ## Rules from documents -/

/-- The condition of a rule is in canonical form, as its output always is. -/
def IsWellFormed (rule : Rule κ) : Prop :=
  ∀ condition ∈ rule.condition, (Condition.toJson condition).Canonical

theorem isWellFormed_of_gives [LawfulCondition κ] {rule : Rule κ}
    (h : Gives (Rule.read : Yaml.NodeReader (Rule κ)) rule) : rule.IsWellFormed := by
  have maintains : (record : Record Yaml.NodeReader (Draft κ) (Rule κ)).Maintains fun draft =>
      ∀ condition ∈ draft.condition.join, (Condition.toJson condition).Canonical := by
    refine ⟨nofun, ?_, nofun⟩
    intro field hfield acc next hacc h
    simp only [record, List.mem_cons, List.not_mem_nil, or_false] at hfield
    rcases hfield with rfl | rfl | rfl <;>
      obtain ⟨own, hown, rfl⟩ := Yaml.NodeReader.gives_bind_pure h
    · exact hacc
    · intro condition hcondition
      exact LawfulCondition.canonical_of_gives
        (Yaml.NodeReader.gives_optional hown condition hcondition)
    · exact hacc
  obtain ⟨draft, hdraft, hfinish⟩ := Yaml.NodeReader.gives_record maintains h
  obtain ⟨name, -, hfinish⟩ := ok_of_bind hfinish
  cases hfinish
  exact hdraft

/-! ## The written form -/

/-- What is written of the condition. -/
def conditionEntry (rule : Rule κ) : List (String × Json) :=
  (rule.condition.map fun condition => ("when", Condition.toJson condition)).toList

/-- What is written of the output. -/
def outputEntry (rule : Rule κ) : List (String × Json) :=
  (rule.output.map fun output => ("create", output.tree.value)).toList

theorem toJson_eq (rule : Rule κ) :
    rule.toJson =
      .object (("name", .string rule.name) :: (rule.conditionEntry ++ rule.outputEntry)) :=
  rfl

theorem canonical_toJson {rule : Rule κ} (wellFormed : rule.IsWellFormed) :
    rule.toJson.canonical =
      .object (rule.outputEntry ++ ("name", .string rule.name) :: rule.conditionEntry) := by
  have values : Json.CanonicalEntries
      (("name", .string rule.name) :: (rule.conditionEntry ++ rule.outputEntry)) := by
    refine Json.canonicalEntries_iff.2 fun entry hentry => ?_
    simp only [conditionEntry, outputEntry, List.mem_cons, List.mem_append, Option.mem_toList,
      Option.map_eq_some_iff] at hentry
    rcases hentry with rfl | ⟨condition, hcondition, rfl⟩ | ⟨output, houtput, rfl⟩
    · trivial
    · exact wellFormed condition hcondition
    · exact output.tree.canonical
  -- so only the order of the names is left, with and without either part
  rw [toJson_eq, Json.canonical, Json.canonicalEntries_of_canonical values]
  rcases rule with ⟨name, _ | condition, _ | output⟩ <;> rfl

/-- The parts of a rule stand in a value under their names. -/
structure HasParts (rule : Rule κ) (written : Json) : Prop where
  name : written.get? "name" = some (.string rule.name)
  condition : written.get? "when" = rule.condition.map Condition.toJson
  output : written.get? "create" = rule.output.map fun output => output.tree.value

theorem hasParts_toJson (rule : Rule κ) : rule.HasParts rule.toJson := by
  rcases rule with ⟨name, _ | condition, _ | output⟩ <;> exact ⟨rfl, rfl, rfl⟩

theorem hasParts_canonical {rule : Rule κ} (wellFormed : rule.IsWellFormed) :
    rule.HasParts rule.toJson.canonical := by
  rw [canonical_toJson wellFormed]
  rcases rule with ⟨name, _ | condition, _ | output⟩ <;> exact ⟨rfl, rfl, rfl⟩

/-- The parts tell everything about a rule. -/
theorem HasParts.unique [LawfulCondition κ] {rule other : Rule κ} {written : Json}
    (h : rule.HasParts written) (same : other.HasParts written) : other = rule := by
  have tree_injective : Function.Injective fun output : OutputTemplate => output.tree.value := by
    rintro ⟨⟨first, _⟩⟩ ⟨⟨second, _⟩⟩ ⟨⟩
    rfl
  have hname := Option.some.inj (same.name.symm.trans h.name)
  have hcondition := Option.map_injective LawfulCondition.toJson_injective
    (same.condition.symm.trans h.condition)
  have houtput := Option.map_injective tree_injective (same.output.symm.trans h.output)
  rcases rule with ⟨name, condition, output⟩
  rcases other with ⟨own, condition', output'⟩
  cases hname
  cases hcondition
  cases houtput
  rfl

/-! ## Reading the written form -/

/-- An output as it is read: a null is none. -/
def outputRead (output : OutputTemplate) : Option OutputTemplate :=
  if output.tree.value = .null then none else some output

/-- A rule without an output that is null. -/
def withoutNull (rule : Rule κ) : Rule κ := { rule with output := rule.output.bind outputRead }

omit [Condition κ] in
theorem withoutNull_eq_self_iff {rule : Rule κ} :
    rule.withoutNull = rule ↔ rule.output ≠ some (.ofJson .null) := by
  rcases rule with ⟨name, condition, _ | ⟨⟨tree, _⟩⟩⟩ <;>
    simp [withoutNull, outputRead, OutputTemplate.ofJson, Json.Ordered.ofJson, Json.canonical]

theorem read_output (output : OutputTemplate) :
    (Source.optional (OutputTemplate.ofJson <$> Source.json) : TreeReader (Option OutputTemplate))
      output.tree.value = .ok (outputRead output) := by
  unfold outputRead
  by_cases hnull : output.tree.value = .null
  · rw [if_pos hnull, hnull]
    rfl
  · rw [if_neg hnull]
    have stands := LawfulSource.stands_map OutputTemplate.ofJson
      (LawfulSource.stands_json (m := TreeReader) output.tree.value)
    rw [Json.canonical_of_canonical output.tree.canonical, OutputTemplate.ofJson,
      Json.Ordered.ofJson_value] at stands
    exact LawfulSource.stands_optional hnull stands

/-- What the parts of a rule leave behind when they have been read. -/
def gathered (rule : Rule κ) : Draft κ :=
  ⟨some rule.name, rule.condition.map some, rule.output.map outputRead⟩

theorem finish_gathered (rule : Rule κ) :
    (record (m := TreeReader)).finish rule.gathered = .ok rule.withoutNull := by
  rcases rule with ⟨name, condition, output⟩
  have hcondition : (condition.map some).join = condition := by
    cases condition <;> rfl
  have houtput : (output.map outputRead).join = output.bind outputRead := by
    cases output <;> rfl
  show Except.ok (Rule.mk name (condition.map some).join (output.map outputRead).join) = _
  rw [hcondition, houtput]
  rfl

section Parts

variable {rest : List (String × Json)} {final : Draft κ} {rule : Rule κ}

theorem gathers_name {name : String} {condition : Option (Option κ)}
    {output : Option (Option OutputTemplate)}
    (h : (record (m := TreeReader)).Gathers rest ⟨some name, condition, output⟩ final) :
    (record (m := TreeReader)).Gathers (("name", .string name) :: rest)
      ⟨none, condition, output⟩ final :=
  .known rfl rfl (LawfulSource.stands_bind_pure _ (LawfulSource.stands_text name)) h

theorem gathers_condition [LawfulCondition κ] (wellFormed : rule.IsWellFormed)
    {name : Option String} {output : Option (Option OutputTemplate)}
    (h : (record (m := TreeReader)).Gathers rest ⟨name, rule.condition.map some, output⟩ final) :
    (record (m := TreeReader)).Gathers (rule.conditionEntry ++ rest) ⟨name, none, output⟩ final := by
  rcases rule with ⟨own, _ | condition, tree⟩
  · exact h
  · have stands : Stands (Source.optional Condition.read : TreeReader (Option κ))
        (Condition.toJson condition) (some condition) :=
      LawfulSource.stands_optional (LawfulCondition.toJson_ne_null condition)
        (LawfulCondition.read_toJson (wellFormed condition rfl))
    exact .known rfl rfl (LawfulSource.stands_bind_pure _ stands) h

theorem gathers_output {name : Option String}
    {condition : Option (Option κ)}
    (h : (record (m := TreeReader)).Gathers rest ⟨name, condition, rule.output.map outputRead⟩
      final) :
    (record (m := TreeReader)).Gathers (rule.outputEntry ++ rest) ⟨name, condition, none⟩ final := by
  rcases rule with ⟨own, other, _ | output⟩
  · exact h
  · have stands : Stands (Source.optional (OutputTemplate.ofJson <$> Source.json) : TreeReader _)
        output.tree.value (outputRead output) := read_output output
    exact .known rfl rfl (LawfulSource.stands_bind_pure _ stands) h

end Parts

/-- What is written is read as the rule, in the order in which it is written. -/
theorem read_toJson [LawfulCondition κ] {rule : Rule κ} (wellFormed : rule.IsWellFormed) :
    (Rule.read : TreeReader (Rule κ)) rule.toJson = .ok rule.withoutNull := by
  have last : (record (m := TreeReader)).Gathers rule.outputEntry
      ⟨some rule.name, rule.condition.map some, none⟩ rule.gathered := by
    rw [← List.append_nil rule.outputEntry]
    exact gathers_output .nil
  exact TreeReader.stands_record (gathers_name (gathers_condition wellFormed last))
    (finish_gathered rule)

/-- The same in the order of the names. -/
theorem read_canonical [LawfulCondition κ] {rule : Rule κ} (wellFormed : rule.IsWellFormed) :
    (Rule.read : TreeReader (Rule κ)) rule.toJson.canonical = .ok rule.withoutNull := by
  have last : (record (m := TreeReader)).Gathers rule.conditionEntry
      ⟨some rule.name, none, rule.output.map outputRead⟩ rule.gathered := by
    rw [← List.append_nil rule.conditionEntry]
    exact gathers_condition wellFormed .nil
  rw [canonical_toJson wellFormed]
  exact TreeReader.stands_record (gathers_output (gathers_name last))
    (finish_gathered rule)

/-! ## Identity -/

/-- What is written of a rule, in its own order and in the order of the names. -/
def writtenForms (rule : Rule κ) : List Json := [rule.toJson, rule.toJson.canonical]

theorem hasParts_of_mem {rule : Rule κ} (wellFormed : rule.IsWellFormed)
    {written : Json} (h : written ∈ rule.writtenForms) : rule.HasParts written := by
  rcases List.mem_pair.1 h with rfl | rfl
  · exact hasParts_toJson rule
  · exact hasParts_canonical wellFormed

/-- What is written of a rule tells which rule it is. -/
structure IsIdentified (rule : Rule κ) : Prop where
  wellFormed : rule.IsWellFormed
  /-- Decoding gives the rule back, without an output that is null. -/
  decoded : ∀ written ∈ rule.writtenForms,
    (Rule.read : TreeReader (Rule κ)) written = .ok rule.withoutNull
  same : rule.withoutNull = rule ↔ rule.output ≠ some (.ofJson .null)
  apart : ∀ other : Rule κ, other.toJson = rule.toJson → other = rule
  apartByName : ∀ other : Rule κ, other.IsWellFormed →
    other.toJson.canonical = rule.toJson.canonical → other = rule
  noCondition : ∀ written ∈ rule.writtenForms,
    (written.get? "when" = none ↔ rule.condition = none)
  noOutput : ∀ written ∈ rule.writtenForms,
    (written.get? "create" = none ↔ rule.output = none)
  /-- A fault of the rule itself is told about its written form. -/
  told : ∀ written defect,
    (rule.validate = .error (.invalid written defect) ∨
      ∃ output context, rule.produce output context = .error (.invalid written defect)) →
    written = rule.toJson

theorem rule_of_invalid {rule : Rule κ} {written : Json} {defect : Defect}
    (h : rule.validate = .error (.invalid written defect) ∨
      ∃ output context, rule.produce output context = .error (.invalid written defect)) :
    written = rule.toJson := by
  rcases h with hvalidate | ⟨output, context, hproduce⟩
  · obtain ⟨found, hfound⟩ := validate_error hvalidate
    cases hfound
    rfl
  -- of what can go wrong in the making of an output, only a text of the rule is told so
  · rw [produce_eq] at hproduce
    split at hproduce
    · cases hproduce
      rfl
    · split at hproduce <;> cases hproduce

theorem isIdentified_of_isWellFormed [LawfulCondition κ] {rule : Rule κ}
    (wellFormed : rule.IsWellFormed) : rule.IsIdentified where
  wellFormed := wellFormed
  decoded written hwritten := by
    rcases List.mem_pair.1 hwritten with rfl | rfl
    · exact read_toJson wellFormed
    · exact read_canonical wellFormed
  same := withoutNull_eq_self_iff
  apart other h := (hasParts_toJson rule).unique (h ▸ hasParts_toJson other)
  apartByName other wellFormedOther h :=
    (hasParts_canonical wellFormed).unique (h ▸ hasParts_canonical wellFormedOther)
  noCondition written hwritten := by
    rw [(hasParts_of_mem wellFormed hwritten).condition, Option.map_eq_none_iff]
  noOutput written hwritten := by
    rw [(hasParts_of_mem wellFormed hwritten).output, Option.map_eq_none_iff]
  told _ _ := rule_of_invalid

end Rule

namespace Table

/-- All rules of a document are well-formed. -/
theorem isWellFormed_of_ofText {document : String} {table : Table}
    (h : Table.ofText document = .ok table) :
    (∀ rule ∈ table.actionRules, rule.IsWellFormed) ∧
      ∀ rule ∈ table.propertyRules, rule.IsWellFormed := by
  have maintains : (record (m := Yaml.NodeReader)).Maintains fun draft =>
      (∀ rule ∈ draft.actionRules.getD [], rule.IsWellFormed) ∧
        ∀ rule ∈ draft.propertyRules.getD [], rule.IsWellFormed := by
    refine ⟨⟨nofun, nofun⟩, ?_, nofun⟩
    intro field hfield acc next hacc h
    simp only [record, List.mem_cons, List.not_mem_nil, or_false] at hfield
    rcases hfield with rfl | rfl <;>
      obtain ⟨rules, hrules, rfl⟩ := Yaml.NodeReader.gives_bind_pure h <;>
      have all := fun rule hrule =>
        Rule.isWellFormed_of_gives (Yaml.NodeReader.gives_list hrules rule hrule)
    · exact ⟨all, hacc.2⟩
    · exact ⟨hacc.1, all⟩
  unfold Table.ofText at h
  split at h
  · rename_i own hread
    cases h
    obtain ⟨draft, hdraft, hfinish⟩ :=
      Yaml.NodeReader.gives_record maintains (Yaml.gives_of_decode hread)
    cases hfinish
    exact hdraft
  · cases h

/-- Whatever the document, what is written of its rules tells which rules they are. -/
theorem rules_are_identified {document : String} {table : Table}
    (h : Table.ofText document = .ok table) :
    (∀ rule ∈ table.actionRules, rule.IsIdentified) ∧
      ∀ rule ∈ table.propertyRules, rule.IsIdentified := by
  obtain ⟨actionRules, propertyRules⟩ := isWellFormed_of_ofText h
  exact ⟨fun rule hrule => Rule.isIdentified_of_isWellFormed (actionRules rule hrule),
    fun rule hrule => Rule.isIdentified_of_isWellFormed (propertyRules rule hrule)⟩

/-- A rule without a condition, and one with a sign as its operator and without an output. -/
theorem incomplete_rules_are_read_back :
    ∃ first second, Table.ofText ("property_rules:\n" ++
        "- name: a\n  create: [\x7b b: ~ \x7d]\n" ++
        "- name: c\n  when: \x7b op: '>', value: ~, key: d \x7d\n") =
        .ok ⟨[], [first, second]⟩ ∧
      first.condition = none ∧ second.condition = some ⟨"d", .gt, .null⟩ ∧ second.output = none ∧
      (Rule.read : TreeReader PropertyRule) first.toJson = .ok first ∧
      (Rule.read : TreeReader PropertyRule) second.toJson.canonical = .ok second := by
  let first : PropertyRule := ⟨"a", none, some (.ofJson (.array [.object [("b", .null)]]))⟩
  let second : PropertyRule := ⟨"c", some ⟨"d", .gt, .null⟩, none⟩
  have hdocument : Table.ofText ("property_rules:\n" ++
      "- name: a\n  create: [\x7b b: ~ \x7d]\n" ++
      "- name: c\n  when: \x7b op: '>', value: ~, key: d \x7d\n") =
      .ok ⟨[], [first, second]⟩ := by
    decide +kernel
  obtain ⟨-, rules⟩ := rules_are_identified hdocument
  have hfirst := rules first (by simp)
  have hsecond := rules second (by simp)
  refine ⟨first, second, hdocument, rfl, rfl, rfl, ?_, ?_⟩
  · rw [hfirst.decoded first.toJson (by simp [Rule.writtenForms]), hfirst.same.2 (by decide)]
  · rw [hsecond.decoded second.toJson.canonical (by simp [Rule.writtenForms]),
      hsecond.same.2 (by decide)]

/-- Infinity is left as a null, which is written for the output and then read as none. -/
theorem null_output_is_not_read_back :
    ∃ table rule, Table.ofText "property_rules:\n- name: n\n  create: .inf\n" = .ok table ∧
      rule ∈ table.propertyRules ∧ rule.output = some (.ofJson .null) ∧
      (Rule.read : TreeReader PropertyRule) rule.toJson = .ok ⟨"n", none, none⟩ ∧
      (Rule.read : TreeReader PropertyRule) rule.toJson ≠ .ok rule := by
  let rule : PropertyRule := ⟨"n", none, some (.ofJson .null)⟩
  exact ⟨⟨[], [rule]⟩, rule, by decide +kernel, List.mem_singleton_self rule, rfl, rfl,
    by decide +kernel⟩

end Table
end EventRules
