import EventRules.Proofs.Evaluation.Trial
import EventRules.Proofs.Event.Batch
import EventRules.Proofs.Event.Wire

/-!
# FirstMatch — the change that a property rule looks at

A property rule fires once at most for an event, on the first change in the order of the sender that
its condition accepts.  The order is that of the text: a key that is sent again keeps its place.

* `PropertyCondition.Accepts` — a change that a condition accepts, its key pattern written out;
* `PropertyRule.prepare_split` — the first such change decides, whatever stands around it;
* `PropertyRule.first_change_decides` — from the text of an event to what the rule prepares.
-/

namespace EventRules

/-! ## Patterns -/

/-- A key fits a pattern: with a star at its end the pattern stands for all keys that begin as it does,
and else for itself. -/
inductive FitsPattern (pattern key : String) : Prop
  | starred {start : String} :
      pattern = start ++ "*" → start.toList <+: key.toList → FitsPattern pattern key
  | exact : (∀ start : String, pattern ≠ start ++ "*") → key = pattern → FitsPattern pattern key

theorem getLast?_eq_star_iff {pattern : String} :
    pattern.toList.getLast? = some '*' ↔ ∃ start : String, pattern = start ++ "*" := by
  rw [List.getLast?_eq_some_iff]
  constructor
  · rintro ⟨chars, hchars⟩
    refine ⟨String.ofList chars, String.toList_injective ?_⟩
    simpa using hchars
  · rintro ⟨start, rfl⟩
    exact ⟨start.toList, by simp⟩

namespace PropertyCondition

theorem keyHolds_iff {condition : PropertyCondition} {key : String} :
    condition.keyHolds key = true ↔ FitsPattern condition.key key := by
  rw [keyHolds, keyFits]
  by_cases hstar : condition.key.toList.getLast? = some '*'
  · rw [if_pos hstar]
    obtain ⟨start, hstart⟩ := getLast?_eq_star_iff.1 hstar
    have hdrop : condition.key.toList.dropLast = start.toList := by
      simp [hstart]
    rw [hdrop, List.isPrefixOf_iff_prefix]
    constructor
    · intro hprefix
      exact .starred hstart hprefix
    · intro fits
      cases fits with
      | @starred own hown hprefix =>
          have : own = start := (String.append_left_inj "*").1 (hown.symm.trans hstart)
          exact this ▸ hprefix
      | exact hnone _ =>
          exact absurd hstart (hnone start)
  · rw [if_neg hstar, beq_iff_eq]
    have hnone : ∀ start : String, condition.key ≠ start ++ "*" := fun start hstart =>
      hstar (getLast?_eq_star_iff.2 ⟨start, hstart⟩)
    constructor
    · intro hkey
      exact .exact hnone (String.toList_injective hkey)
    · intro fits
      cases fits with
      | starred hown _ =>
          exact absurd hown (hnone _)
      | exact _ hkey =>
          rw [hkey]

/-- A condition accepts a change: the key fits, and the new value compares as it should. -/
structure Accepts (condition : PropertyCondition) (entry : String × Change) : Prop where
  key : FitsPattern condition.key entry.1
  value : condition.op.holds entry.2.newValue condition.value = true

theorem holds_iff_accepts {condition : PropertyCondition} {entry : String × Change} :
    condition.holds entry.1 entry.2.newValue = true ↔ condition.Accepts entry := by
  rw [holds, Bool.and_eq_true, keyHolds_iff]
  constructor
  · rintro ⟨hkey, hvalue⟩
    exact ⟨hkey, hvalue⟩
  · rintro ⟨hkey, hvalue⟩
    exact ⟨hkey, hvalue⟩

/-! ## The first change that is accepted -/

theorem firstMatch?_eq_none_iff {condition : PropertyCondition} {changes : Batch} :
    condition.firstMatch? changes = none ↔
      ∀ entry ∈ changes.entries, ¬ condition.Accepts entry := by
  simp only [firstMatch?, List.find?_eq_none, holds_iff_accepts]

theorem firstMatch?_split {condition : PropertyCondition} {changes : Batch}
    {before after : List (String × Change)} {entry : String × Change}
    (hsplit : changes.entries = before ++ entry :: after)
    (hbefore : ∀ other ∈ before, ¬ condition.Accepts other) (haccepts : condition.Accepts entry) :
    condition.firstMatch? changes = some entry := by
  rw [firstMatch?, hsplit, List.find?_eq_some_iff_append]
  refine ⟨holds_iff_accepts.2 haccepts, before, after, rfl, fun other hother => ?_⟩
  have hnot := hbefore other hother
  rw [← holds_iff_accepts] at hnot
  simpa using hnot

theorem exists_split {condition : PropertyCondition} {changes : Batch}
    (h : ∃ entry ∈ changes.entries, condition.Accepts entry) :
    ∃ before key change after, changes.entries = before ++ (key, change) :: after ∧
      (∀ other ∈ before, ¬ condition.Accepts other) ∧ condition.Accepts (key, change) := by
  cases hfirst : condition.firstMatch? changes with
  | none =>
      obtain ⟨entry, hentry, haccepts⟩ := h
      exact absurd haccepts (firstMatch?_eq_none_iff.1 hfirst entry hentry)
  | some found =>
      rw [firstMatch?, List.find?_eq_some_iff_append] at hfirst
      obtain ⟨hholds, before, after, hsplit, hbefore⟩ := hfirst
      refine ⟨before, found.1, found.2, after, hsplit, fun other hother => ?_,
        holds_iff_accepts.1 hholds⟩
      have hnot := hbefore other hother
      rw [← holds_iff_accepts]
      simpa using hnot

end PropertyCondition

namespace PropertyRule

variable {rule : PropertyRule} {condition : PropertyCondition} {output : OutputTemplate}

theorem prepare_eq_none_iff (whole : rule.IsWhole condition output) (event : PropertyChangeEvent) :
    rule.prepare event = .ok none ↔
      ∀ entry ∈ event.changes.entries, ¬ condition.Accepts entry := by
  rw [← PropertyCondition.firstMatch?_eq_none_iff]
  have hprepare : rule.prepare event = _ := Trial.prepare_property_of_whole whole
  rw [hprepare]
  cases condition.firstMatch? event.changes with
  | none =>
      simp
  | some found =>
      cases hproduce : rule.produce output
        (propertyContext found.1 found.2.newValue event.thng) <;> simp [Except.map, hproduce]

/-- The first change that is accepted decides, whatever stands before it and behind it. -/
theorem prepare_split (whole : rule.IsWhole condition output) {changes : Batch}
    {before after : List (String × Change)} {key : String} {change : Change}
    (hsplit : changes.entries = before ++ (key, change) :: after)
    (hbefore : ∀ other ∈ before, ¬ condition.Accepts other)
    (haccepts : condition.Accepts (key, change)) (thng : String) :
    rule.prepare ⟨thng, changes⟩ =
      (rule.produce output (propertyContext key change.newValue thng)).map fun payload =>
        some ⟨thng, payload⟩ := by
  have hprepare : rule.prepare ⟨thng, changes⟩ = _ := Trial.prepare_property_of_whole whole
  rw [hprepare, PropertyCondition.firstMatch?_split hsplit hbefore haccepts]

/-- The event is what its text says, key by key, and the first change that is accepted decides. -/
theorem first_change_decides {text : String} {delivery : Delivery} {event : PropertyChangeEvent}
    (decoded : event.DecodedFrom text delivery) (whole : rule.IsWhole condition output) :
    -- each key stands once, where the text first names it, with the change that it names last
    (∃ sent : SentEvent, sent.StandsIn text delivery ∧ event.thng = sent.thng ∧
      event.changes.entries.map Prod.fst = (sent.changes.map Prod.fst).eraseDups ∧
      (event.changes.entries.map Prod.fst).Nodup ∧
      ∀ key change, (key, change) ∈ event.changes.entries ↔
        sent.changes.reverse.lookup key = some change) ∧
    -- without a change that is accepted there is no output
    (rule.prepare event = .ok none ↔
      ∀ entry ∈ event.changes.entries, ¬ condition.Accepts entry) ∧
    -- and else the first one of them is rendered, whatever the others are
    ((∃ entry ∈ event.changes.entries, condition.Accepts entry) →
      ∃ before key change after, event.changes.entries = before ++ (key, change) :: after ∧
        (∀ other ∈ before, ¬ condition.Accepts other) ∧ condition.Accepts (key, change) ∧
        rule.prepare event =
          ((rule.produce output (propertyContext key change.newValue event.thng)).map fun payload =>
            some ⟨event.thng, payload⟩) ∧
        ∀ changes : Batch, ∀ earlier later,
          changes.entries = earlier ++ (key, change) :: later →
          (∀ other ∈ earlier, ¬ condition.Accepts other) →
          rule.prepare ⟨event.thng, changes⟩ = rule.prepare event) := by
  obtain ⟨sent, hstands, hsettled⟩ := PropertyChangeEvent.decodedFrom_iff.1 decoded
  refine ⟨⟨sent, hstands, ?_⟩, prepare_eq_none_iff whole event, fun haccepted => ?_⟩
  · rw [← hsettled]
    exact ⟨rfl, Batch.map_fst_ofAssignments sent.changes,
      (Batch.ofAssignments sent.changes).nodup, fun key change => Batch.mem_ofAssignments_iff⟩
  · obtain ⟨before, key, change, after, hsplit, hbefore, haccepts⟩ :=
      PropertyCondition.exists_split haccepted
    have hprepare : rule.prepare event = _ :=
      prepare_split whole hsplit hbefore haccepts event.thng
    refine ⟨before, key, change, after, hsplit, hbefore, haccepts, hprepare, ?_⟩
    intro changes earlier later hother hearlier
    rw [prepare_split whole hother hearlier haccepts, hprepare]

end PropertyRule

namespace WireOrder

/-- The key `b` is sent twice, before and behind `a`. -/
def text : String :=
  "\x7b\"changes\":\x7b\"b\":\x7b\"newValue\":1\x7d,\"a\":\x7b\"newValue\":5\x7d," ++
    "\"b\":\x7b\"newValue\":7\x7d\x7d,\"event\":\"thngPropertiesChanged\",\"thng\":\x7b\"id\":\"T1\"\x7d\x7d"

def event : PropertyChangeEvent :=
  ⟨"T1", .ofAssignments [("b", .ofNew (.ofNat 7)), ("a", .ofNew (.ofNat 5))]⟩

def condition : PropertyCondition := ⟨"*", .gte, .ofNat 3⟩

def output : OutputTemplate :=
  .ofJson (.object
    [("key", .string "\x7b\x7b key \x7d\x7d"), ("value", .string "\x7b\x7b value \x7d\x7d")])

/-- A rule for all keys, which tells the key and the value that it found. -/
def rule : PropertyRule := .of "any" condition output

end WireOrder

open WireOrder in
/-- The last value of `b` decides, since `b` was named first. -/
theorem WireOrder.first_name_decides :
    event.DecodedFrom text .enveloped ∧
    rule.prepare event = .ok (some ⟨"T1", .property ⟨"b", .ofNat 7⟩⟩) ∧
    ∀ changes : Batch, changes.entries.head? = some ("b", .ofNew (.ofNat 7)) →
      rule.prepare ⟨"T1", changes⟩ = rule.prepare event := by
  have decoded : event.DecodedFrom text .enveloped := .enveloped (by decide +kernel)
  have hcheck : output.check = .ok () := by
    decide +kernel
  have whole : rule.IsWhole condition output := ⟨rfl, rfl, hcheck⟩
  have haccepts : condition.Accepts ("b", .ofNew (.ofNat 7)) :=
    PropertyCondition.holds_iff_accepts.1 (by decide +kernel)
  obtain ⟨-, -, hfires⟩ := PropertyRule.first_change_decides decoded whole
  obtain ⟨before, key, change, after, hsplit, hbefore, -, -, halone⟩ :=
    hfires ⟨_, List.mem_cons_self, haccepts⟩
  refine ⟨decoded, by decide +kernel, fun changes hhead => ?_⟩
  obtain ⟨later, hchanges⟩ := List.head?_eq_some_iff.1 hhead
  cases before with
  | nil =>
      obtain ⟨hfirst, -⟩ := List.cons.inj hsplit
      rw [← hfirst] at halone
      exact halone changes [] later hchanges (by simp)
  | cons first rest =>
      obtain ⟨rfl, -⟩ := List.cons.inj hsplit
      exact absurd haccepts (hbefore _ List.mem_cons_self)

end EventRules
