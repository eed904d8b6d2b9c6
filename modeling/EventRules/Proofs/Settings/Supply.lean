import Mathlib.Data.List.Basic
import EventRules.Settings.Assignments

/-!
# Supply — which assignments take effect

Assignments are made one after the other.  A name that has a text keeps it, even an empty one; a name
without one takes that of the first assignment to it.  Names that are hidden make no difference to the
others, unless a value that is assigned to one of those refers to them.

* `Environment.get?_supply`, `Environment.get?_supplyOne` — one assignment;
* `Environment.get?_supplyAll_of_first` — the assignment that takes effect;
* `Environment.AgreeOff`, `Environment.AgreeOff.supplyAll` — environments that agree on what is not
  hidden.
-/

namespace EventRules
namespace Environment

variable {environment : Environment} {name : String}

/-! ## One assignment -/

/-- The text that an assignment has in an environment. -/
def assigned (environment : Environment) (assignment : Assignment) : String :=
  String.ofList (assignment.value.flatMap environment.partText)

theorem get?_supply (environment : Environment) (own value name : String) :
    (environment.supply own value).get? name =
      (environment.get? name).or (if name = own then some value else none) := by
  unfold supply
  by_cases hown : (environment.get? own).isSome = true
  · rw [if_pos hown]
    by_cases hname : name = own
    · rw [hname, Option.or_of_isSome hown]
    · rw [if_neg hname, Option.or_none]
  · rw [if_neg hown, get?, List.lookup_append]
    congr 1
    by_cases hname : name = own
    · rw [hname, List.lookup_cons_self, if_pos rfl]
    · rw [List.lookup_cons, beq_false_of_ne hname, if_neg hname, List.lookup_nil]

theorem get?_supplyOne (environment : Environment) (assignment : Assignment) (name : String) :
    (environment.supplyOne assignment).get? name =
      (environment.get? name).or
        (if name = assignment.name then some (environment.assigned assignment) else none) :=
  get?_supply environment assignment.name (environment.assigned assignment) name

/-! ## One assignment after the other -/

theorem supplyAll_cons (environment : Environment) (assignment : Assignment)
    (rest : List Assignment) :
    environment.supplyAll (assignment :: rest) =
      (environment.supplyOne assignment).supplyAll rest := rfl

theorem supplyAll_append (environment : Environment) (first second : List Assignment) :
    environment.supplyAll (first ++ second) = (environment.supplyAll first).supplyAll second :=
  List.foldl_append

/-- A name keeps the text that it has. -/
theorem get?_supplyAll_of_some {text : String} (h : environment.get? name = some text)
    (assignments : List Assignment) :
    (environment.supplyAll assignments).get? name = some text := by
  induction assignments generalizing environment with
  | nil =>
      exact h
  | cons assignment rest ih =>
      refine ih ?_
      rw [get?_supplyOne, h, Option.some_or]

theorem get?_supplyAll_of_apart {assignments : List Assignment}
    (h : ∀ assignment ∈ assignments, assignment.name ≠ name) :
    (environment.supplyAll assignments).get? name = environment.get? name := by
  induction assignments generalizing environment with
  | nil =>
      rfl
  | cons assignment rest ih =>
      obtain ⟨hfirst, hrest⟩ := List.forall_mem_cons.1 h
      rw [supplyAll_cons, ih hrest, get?_supplyOne, if_neg hfirst.symm, Option.or_none]

/-- A name without a text takes that of the first assignment to it, as it is then. -/
theorem get?_supplyAll_of_first {before : List Assignment} {assignment : Assignment}
    (hmissing : environment.get? assignment.name = none)
    (hfirst : ∀ earlier ∈ before, earlier.name ≠ assignment.name) (after : List Assignment) :
    (environment.supplyAll (before ++ assignment :: after)).get? assignment.name =
      some ((environment.supplyAll before).assigned assignment) := by
  rw [supplyAll_append, supplyAll_cons]
  -- nothing before gives the name a text, and nothing behind takes it away
  refine get?_supplyAll_of_some ?_ after
  rw [get?_supplyOne, get?_supplyAll_of_apart hfirst, hmissing, Option.none_or, if_pos rfl]

/-! ## Hidden names -/

/-- Every name that is not hidden has the same text, or none, in both environments. -/
def AgreeOff (hidden : String → Prop) (environment other : Environment) : Prop :=
  ∀ name, ¬ hidden name → other.get? name = environment.get? name

/-- A value with no reference to a hidden name. -/
def Open (hidden : String → Prop) (assignment : Assignment) : Prop :=
  ∀ name, .variable name ∈ assignment.value → ¬ hidden (String.ofList name)

/-- A text refers to nothing. -/
theorem open_literal (hidden : String → Prop) (name : String) (text : List Char) :
    Open hidden ⟨name, text.map .literal⟩ := by
  intro own hown
  obtain ⟨c, -, hc⟩ := List.mem_map.1 hown
  cases hc

namespace AgreeOff

variable {hidden : String → Prop} {other third : Environment} {assignment : Assignment}

theorem refl (hidden : String → Prop) (environment : Environment) :
    AgreeOff hidden environment environment := fun _ _ => rfl

theorem symm (h : AgreeOff hidden environment other) : AgreeOff hidden other environment :=
  fun name hname => (h name hname).symm

theorem trans (h : AgreeOff hidden environment other) (h' : AgreeOff hidden other third) :
    AgreeOff hidden environment third :=
  fun name hname => (h' name hname).trans (h name hname)

theorem assigned (h : AgreeOff hidden environment other) (hopen : Open hidden assignment) :
    other.assigned assignment = environment.assigned assignment := by
  refine congrArg String.ofList (List.flatMap_congr fun part hpart => ?_)
  rcases part with c | name
  · rfl
  · rw [partText, partText, h _ (hopen name hpart)]

theorem supplyOne (h : AgreeOff hidden environment other) (hopen : Open hidden assignment) :
    AgreeOff hidden (environment.supplyOne assignment) (other.supplyOne assignment) := by
  intro name hname
  rw [get?_supplyOne, get?_supplyOne, h name hname, h.assigned hopen]

theorem supplyOne_hidden (h : AgreeOff hidden environment other)
    (hhidden : hidden assignment.name) :
    AgreeOff hidden environment (other.supplyOne assignment) := by
  intro name hname
  have hother : name ≠ assignment.name := fun same => hname (same ▸ hhidden)
  rw [get?_supplyOne, if_neg hother, Option.or_none, h name hname]

section Lists

variable [DecidablePred hidden]

/-- The assignments to hidden names could as well be left out. -/
theorem supplyAll_filter {assignments : List Assignment} (h : AgreeOff hidden environment other)
    (hopen : ∀ assignment ∈ assignments, ¬ hidden assignment.name → Open hidden assignment) :
    AgreeOff hidden
      (environment.supplyAll (assignments.filter fun assignment => ¬ hidden assignment.name))
      (other.supplyAll assignments) := by
  -- one assignment keeps the agreement, and if it is hidden, made on one side only
  induction assignments generalizing environment other with
  | nil =>
      exact h
  | cons assignment rest ih =>
      obtain ⟨hfirst, hrest⟩ := List.forall_mem_cons.1 hopen
      by_cases hhidden : hidden assignment.name
      · rw [List.filter_cons_of_neg (by simpa using hhidden)]
        exact ih (h.supplyOne_hidden hhidden) hrest
      · rw [List.filter_cons_of_pos (by simpa using hhidden)]
        exact ih (h.supplyOne (hfirst hhidden)) hrest

/-- Environments agree on what is not hidden if they did before, and were given the same assignments
to names that are not hidden. -/
theorem supplyAll {assignments others : List Assignment} (h : AgreeOff hidden environment other)
    (hsame : (others.filter fun assignment => ¬ hidden assignment.name) =
      assignments.filter fun assignment => ¬ hidden assignment.name)
    (hopen : ∀ assignment ∈ assignments, ¬ hidden assignment.name → Open hidden assignment) :
    AgreeOff hidden (environment.supplyAll assignments) (other.supplyAll others) := by
  have hopen' : ∀ assignment ∈ others, ¬ hidden assignment.name → Open hidden assignment := by
    intro assignment hmem hshown
    have hkept : assignment ∈ assignments.filter fun assignment => ¬ hidden assignment.name :=
      hsame ▸ List.mem_filter.2 ⟨hmem, by simpa using hshown⟩
    exact hopen assignment (List.mem_filter.1 hkept).1 hshown
  -- both agree with the environment that is given no hidden assignments
  have hfirst := (AgreeOff.refl hidden environment).supplyAll_filter hopen
  have hsecond := h.supplyAll_filter hopen'
  rw [hsame] at hsecond
  exact hfirst.symm.trans hsecond

end Lists

end AgreeOff
end Environment
end EventRules
