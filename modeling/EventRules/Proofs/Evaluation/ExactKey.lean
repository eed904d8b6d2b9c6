import EventRules.Evaluation.Reaction
import EventRules.Proofs.Evaluation.FirstMatch

/-!
# ExactKey — all that a rule for one key learns of an event

A property rule whose pattern has no star at its end looks for one key, and a batch has one change at
most under it.  Of the event such a rule learns the entity and the new value under its key, and nothing
of the other changes, their number and their order, or of any value from before.

* `PropertyChangeEvent.newValue?` — the new value of a property;
* `PropertyRule.prepare_of_namesOneKey` — what the rule prepares, from that value alone;
* `Table.exact_keys_noninterference` — events that look the same to a rule are the same to it.
-/

namespace EventRules

/-- The new value that an event gives a property. -/
def PropertyChangeEvent.newValue? (event : PropertyChangeEvent) (key : String) : Option Json :=
  (event.changes.entries.lookup key).map Change.newValue

/-- The condition of a rule, where it has one, is about one key and not about all that begin alike. -/
def PropertyRule.NamesOneKey (rule : PropertyRule) : Prop :=
  ∀ condition ∈ rule.condition, ∀ start : String, condition.key ≠ start ++ "*"

/-- Two events give the property that a rule is about the same new value, or both give it none. -/
def PropertyRule.SeesAlike (rule : PropertyRule) (left right : PropertyChangeEvent) : Prop :=
  ∀ condition ∈ rule.condition, left.newValue? condition.key = right.newValue? condition.key

/-! ## One key -/

namespace PropertyCondition

variable {condition : PropertyCondition}

theorem accepts_iff_of_exact (exact : ∀ start : String, condition.key ≠ start ++ "*")
    {entry : String × Change} :
    condition.Accepts entry ↔
      entry.1 = condition.key ∧ condition.op.holds entry.2.newValue condition.value = true := by
  constructor
  · rintro ⟨fits, hvalue⟩
    cases fits with
    | starred hpattern _ =>
        exact absurd hpattern (exact _)
    | exact _ hkey =>
        exact ⟨hkey, hvalue⟩
  · rintro ⟨hkey, hvalue⟩
    exact ⟨.exact exact hkey, hvalue⟩

/-- The first change that an exact condition accepts is the only one under its key, if its value
compares as it should. -/
theorem firstMatch?_of_exact (exact : ∀ start : String, condition.key ≠ start ++ "*")
    (changes : Batch) :
    condition.firstMatch? changes =
      ((changes.entries.lookup condition.key).filter fun change =>
        condition.op.holds change.newValue condition.value).map fun change =>
          (condition.key, change) := by
  cases hlookup : changes.entries.lookup condition.key with
  | none =>
      rw [firstMatch?_eq_none_iff.2]
      · rfl
      · intro entry hentry haccepts
        obtain ⟨hkey, -⟩ := (accepts_iff_of_exact exact).1 haccepts
        exact lookup_eq_none_iff_not_mem.1 hlookup (hkey ▸ List.mem_map_of_mem hentry)
  | some change =>
      -- every entry under the key is this one, whatever stands before it
      have only : ∀ entry ∈ changes.entries,
          entry.1 = condition.key → entry = (condition.key, change) := by
        intro entry hentry hkey
        have hfound : changes.entries.lookup condition.key = some entry.2 := by
          rw [← mem_iff_lookup changes.nodup, ← hkey]
          exact hentry
        have hchange : entry.2 = change := by
          rw [hlookup] at hfound
          exact (Option.some.inj hfound).symm
        exact Prod.ext hkey hchange
      by_cases hvalue : condition.op.holds change.newValue condition.value = true
      · have haccepted : ∃ entry ∈ changes.entries, condition.Accepts entry :=
          ⟨(condition.key, change), mem_of_lookup hlookup,
            (accepts_iff_of_exact exact).2 ⟨rfl, hvalue⟩⟩
        obtain ⟨before, key, found, after, hsplit, hbefore, haccepts⟩ := exists_split haccepted
        obtain ⟨hkey, -⟩ := (accepts_iff_of_exact exact).1 haccepts
        have hentry : (key, found) = (condition.key, change) :=
          only (key, found) (by rw [hsplit]; simp) hkey
        rw [firstMatch?_split hsplit hbefore haccepts, hentry]
        simp [Option.filter, hvalue]
      · rw [firstMatch?_eq_none_iff.2]
        · simp [Option.filter, hvalue]
        · intro entry hentry haccepts
          obtain ⟨hkey, hholds⟩ := (accepts_iff_of_exact exact).1 haccepts
          rw [only entry hentry hkey] at hholds
          exact hvalue hholds

end PropertyCondition

namespace PropertyRule

variable {rule : PropertyRule} {condition : PropertyCondition} {output : OutputTemplate}
  {event left right : PropertyChangeEvent}

/-- The new value under the key and the name of the entity decide alone. -/
theorem prepare_of_namesOneKey (whole : rule.IsWhole condition output)
    (single : rule.NamesOneKey) :
    rule.prepare event =
      match (event.newValue? condition.key).filter fun value =>
        condition.op.holds value condition.value with
      | none => .ok none
      | some value =>
          (rule.produce output (propertyContext condition.key value event.thng)).map fun payload =>
            some ⟨event.thng, payload⟩ := by
  have exact := single condition whole.hasCondition
  have hprepare : rule.prepare event = _ := Trial.prepare_property_of_whole whole
  rw [hprepare, PropertyCondition.firstMatch?_of_exact exact,
    PropertyChangeEvent.newValue?]
  cases event.changes.entries.lookup condition.key with
  | none =>
      rfl
  | some change =>
      by_cases hvalue : condition.op.holds change.newValue condition.value = true
      · simp [Option.filter, hvalue]
      · simp [Option.filter, hvalue]

theorem prepare_eq_of_seesAlike (single : rule.NamesOneKey) (entity : left.thng = right.thng)
    (alike : rule.SeesAlike left right) :
    rule.prepare left = rule.prepare right := by
  cases hvalid : rule.validate with
  | error fault =>
      -- a rule that is not whole fails before it looks at the event
      simp [prepare, hvalid, bind, Except.bind]
  | ok parts =>
      obtain ⟨condition, output⟩ := parts
      have whole : rule.IsWhole condition output := Rule.validate_eq_ok_iff.1 hvalid
      rw [prepare_of_namesOneKey whole single, prepare_of_namesOneKey whole single,
        alike condition whole.hasCondition, entity]

end PropertyRule

/-! ## Any order -/

theorem lookup_eq_of_perm {α : Type} {entries others : List (String × α)}
    (perm : entries.Perm others) (nodup : (entries.map Prod.fst).Nodup) (name : String) :
    entries.lookup name = others.lookup name := by
  have nodup' : (others.map Prod.fst).Nodup := (perm.map Prod.fst).nodup nodup
  apply Option.ext
  intro value
  calc
    entries.lookup name = some value
        ↔ (name, value) ∈ entries := (mem_iff_lookup nodup).symm
    _ ↔ (name, value) ∈ others := perm.mem_iff
    _ ↔ others.lookup name = some value := mem_iff_lookup nodup'

/-- Events are the same to a rule for one key if they are about one entity and agree under that key;
and a table of such rules evaluates the changes of an event alike in any order. -/
theorem Table.exact_keys_noninterference {left right : PropertyChangeEvent}
    (entity : left.thng = right.thng) :
    (∀ rule : PropertyRule, rule.NamesOneKey → rule.SeesAlike left right →
      rule.prepare left = rule.prepare right) ∧
    (∀ table : Table, (∀ rule ∈ table.propertyRules, PropertyRule.NamesOneKey rule) →
      left.changes.entries.Perm right.changes.entries →
      ∀ {σ : Type} (api : Api σ) (sink : LogSink) (patience : Patience) (state : σ),
        table.evaluate api sink patience (.thngPropertiesChanged left) state =
          table.evaluate api sink patience (.thngPropertiesChanged right) state) := by
  refine ⟨fun rule single alike =>
    PropertyRule.prepare_eq_of_seesAlike single entity alike, ?_⟩
  intro table single perm σ api sink patience state
  have alike : ∀ rule : PropertyRule, rule.SeesAlike left right := by
    intro rule condition _
    rw [PropertyChangeEvent.newValue?, PropertyChangeEvent.newValue?,
      lookup_eq_of_perm perm left.changes.nodup]
  have prepared :
      table.prepare (.thngPropertiesChanged left) = table.prepare (.thngPropertiesChanged right) := by
    apply List.map_congr_left
    intro rule hrule
    rw [PropertyRule.prepare_eq_of_seesAlike (single rule hrule) entity (alike rule)]
  rw [Table.evaluate, Table.evaluate, prepared]

namespace Blindness

def rule : PropertyRule :=
  .of "echo" ⟨"level", .gt, .ofNat 2⟩
    (.ofJson (.object [("key", .string "last"), ("value", .string "\x7b\x7b value \x7d\x7d")]))

def quiet : PropertyChangeEvent :=
  ⟨"T1", .ofAssignments
    [("noise", .ofNew (.ofNat 9)), ("level", ⟨.ofNat 3, some (.ofNat 1)⟩)]⟩

/-- Other neighbours, another order and no value from before. -/
def loud : PropertyChangeEvent :=
  ⟨"T1", .ofAssignments
    [("level", .ofNew (.ofNat 3)), ("levels", .ofNew (.ofNat 8)), ("noise", .ofNew .null)]⟩

def turned : PropertyChangeEvent := ⟨quiet.thng, .ofAssignments quiet.changes.entries.reverse⟩

end Blindness

open Blindness in
/-- The rule tells the level of both events, and its table does the same with the changes turned
around. -/
theorem Blindness.level_is_all_it_sees :
    quiet.thng = loud.thng ∧
    rule.prepare loud = .ok (some ⟨"T1", .property ⟨"last", .ofNat 3⟩⟩) ∧
    rule.prepare quiet = rule.prepare loud ∧
    ∀ {σ : Type} (api : Api σ) (state : σ),
      Table.evaluate ⟨[], [rule]⟩ api .steady .unlimited (.thngPropertiesChanged quiet) state =
        Table.evaluate ⟨[], [rule]⟩ api .steady .unlimited (.thngPropertiesChanged turned) state := by
  have single : rule.NamesOneKey := by
    intro condition hcondition start hstart
    cases hcondition
    have hlast := getLast?_eq_star_iff.2 ⟨start, hstart⟩
    exact absurd hlast (by decide)
  have alike : rule.SeesAlike quiet loud := by
    intro condition hcondition
    cases hcondition
    rfl
  obtain ⟨hrule, -⟩ := Table.exact_keys_noninterference (show quiet.thng = loud.thng from rfl)
  obtain ⟨-, htable⟩ := Table.exact_keys_noninterference (show quiet.thng = turned.thng from rfl)
  refine ⟨rfl, by decide +kernel, hrule rule single alike, ?_⟩
  intro σ api state
  have rules : ∀ own ∈ (⟨[], [rule]⟩ : Table).propertyRules, PropertyRule.NamesOneKey own := by
    intro own hown
    rw [List.mem_singleton.1 hown]
    exact single
  exact htable ⟨[], [rule]⟩ rules (List.reverse_perm _).symm api .steady .unlimited state

end EventRules
