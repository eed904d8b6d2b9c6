import EventRules.Template.Run.Statement
import Mathlib.Data.List.Forall2

/-!
# Lines — what the lines of an expression are for

The lines that an expression keeps are for faults only.  Expressions that differ in nothing but lines
have the same value, leave the same scope behind, and fail for the same reason.

* `Expr.Alike` — expressions that differ in nothing but lines;
* `Run.Alike` — computations that differ in nothing but the lines of faults;
* `Expr.Alike.eval` — alike expressions have alike values.
-/

namespace EventRules
namespace Template

/-! ## Expressions -/

mutual

/-- Expressions that differ in nothing but lines. -/
inductive Expr.Alike : Expr → Expr → Prop
  | var (name : String) (line line' : Nat) : Expr.Alike (.var name line) (.var name line')
  | literal (value : Literal) : Expr.Alike (.literal value) (.literal value)
  | negation {e e' : Expr} (he : Expr.Alike e e') : Expr.Alike (.negation e) (.negation e')
  | minus {e e' : Expr} (he : Expr.Alike e e') (line line' : Nat) :
      Expr.Alike (.minus e line) (.minus e' line')
  | binary (op : BinaryOp) {left left' right right' : Expr} (hleft : Expr.Alike left left')
      (hright : Expr.Alike right right') (line line' : Nat) :
      Expr.Alike (.binary op left right line) (.binary op left' right' line')
  | choice {test test' yes yes' : Expr} {no no' : Option Expr} (htest : Expr.Alike test test')
      (hyes : Expr.Alike yes yes') (hno : Option.Rel Expr.Alike no no') :
      Expr.Alike (.choice test yes no) (.choice test' yes' no')
  | filter (name : String) {value value' : Option Expr} {args args' : List Argument}
      (hvalue : Option.Rel Expr.Alike value value') (hargs : List.Forall₂ Argument.Alike args args')
      (line line' : Nat) : Expr.Alike (.filter name value args line) (.filter name value' args' line')
  | test (name : String) {value value' : Expr} {args args' : List Argument}
      (hvalue : Expr.Alike value value') (hargs : List.Forall₂ Argument.Alike args args')
      (line line' : Nat) : Expr.Alike (.test name value args line) (.test name value' args' line')
  | part {e e' : Expr} (he : Expr.Alike e e') (name : String) (line line' : Nat) :
      Expr.Alike (.attribute e name line) (.attribute e' name line')
  | item {e e' index index' : Expr} (he : Expr.Alike e e') (hindex : Expr.Alike index index')
      (line line' : Nat) : Expr.Alike (.item e index line) (.item e' index' line')
  | slice {e e' : Expr} {start start' stop stop' step step' : Option Expr} (he : Expr.Alike e e')
      (hstart : Option.Rel Expr.Alike start start') (hstop : Option.Rel Expr.Alike stop stop')
      (hstep : Option.Rel Expr.Alike step step') (line line' : Nat) :
      Expr.Alike (.slice e start stop step line) (.slice e' start' stop' step' line')
  | call {callee callee' : Expr} {args args' : List Argument} (hcallee : Expr.Alike callee callee')
      (hargs : List.Forall₂ Argument.Alike args args') (line line' : Nat) :
      Expr.Alike (.call callee args line) (.call callee' args' line')
  | list {items items' : List Expr} (hitems : List.Forall₂ Expr.Alike items items') :
      Expr.Alike (.list items) (.list items')
  | map {entries entries' : List (Expr × Expr)} (hentries : List.Forall₂ Entry.Alike entries entries') :
      Expr.Alike (.map entries) (.map entries')

inductive Argument.Alike : Argument → Argument → Prop
  | positional {e e' : Expr} (he : Expr.Alike e e') : Argument.Alike (.positional e) (.positional e')
  | named (name : String) {e e' : Expr} (he : Expr.Alike e e') :
      Argument.Alike (.named name e) (.named name e')
  | spread {e e' : Expr} (he : Expr.Alike e e') : Argument.Alike (.spread e) (.spread e')
  | spreadNamed {e e' : Expr} (he : Expr.Alike e e') :
      Argument.Alike (.spreadNamed e) (.spreadNamed e')

/-- Entries of a map. -/
inductive Entry.Alike : Expr × Expr → Expr × Expr → Prop
  | pair {key key' value value' : Expr} (hkey : Expr.Alike key key')
      (hvalue : Expr.Alike value value') : Entry.Alike (key, value) (key', value')

end

namespace Expr.Alike

/-- Minus signs in front of a value, whatever lines they stand on. -/
theorem minuses {lines lines' : List Nat} (hlines : lines.length = lines'.length)
    {value value' : Expr} (hvalue : Expr.Alike value value') :
    Expr.Alike (lines.foldl (fun value line => .minus value line) value)
      (lines'.foldl (fun value line => .minus value line) value') := by
  induction lines generalizing lines' value value' with
  | nil =>
      obtain rfl := List.length_eq_zero_iff.mp hlines.symm
      exact hvalue
  | cons line lines ih =>
      obtain ⟨line', lines', rfl⟩ := List.exists_cons_of_length_eq_add_one hlines.symm
      exact ih (Nat.succ.inj hlines) (.minus hvalue line line')

theorem tested (negated : Bool) (name : String) {value value' : Expr}
    (hvalue : Expr.Alike value value') {args args' : List Argument}
    (hargs : List.Forall₂ Argument.Alike args args') (line line' : Nat) :
    Expr.Alike
      (if negated then .negation (.test name value args line) else .test name value args line)
      (if negated then .negation (.test name value' args' line')
        else .test name value' args' line') := by
  have htest := Expr.Alike.test name hvalue hargs line line'
  cases negated with
  | true =>
      exact .negation htest
  | false =>
      exact htest

theorem negations (count : Nat) {value value' : Expr} (hvalue : Expr.Alike value value') :
    Expr.Alike (count.fold (fun _ _ value => .negation value) value)
      (count.fold (fun _ _ value => .negation value) value') := by
  induction count with
  | zero =>
      exact hvalue
  | succ count ih =>
      exact .negation ih

end Expr.Alike

/-! ## Computations -/

/-- A fault of which it is not said where it was found. -/
def Fault.unplaced (fault : Fault) : Fault := { fault with line := none }

/-- Results that are the same, or faults that are the same but for what a function leaves out. -/
theorem outcomes_of_mapError {ε ε' α : Type} {f : ε → ε'} {made made' : Except ε α}
    (h : made.mapError f = made'.mapError f) :
    (∃ a, made = .ok a ∧ made' = .ok a) ∨
      ∃ fault fault', made = .error fault ∧ made' = .error fault' ∧ f fault = f fault' := by
  cases made with
  | error fault =>
      cases made' with
      | error fault' =>
          exact .inr ⟨fault, fault', rfl, rfl, Except.error.inj h⟩
      | ok a =>
          cases h
  | ok a =>
      cases made' with
      | error fault' =>
          cases h
      | ok a' =>
          exact .inl ⟨a, rfl, congrArg Except.ok (Except.ok.inj h).symm⟩

namespace Run

/-- Computations that differ in nothing but the lines of their faults. -/
def Alike {α : Type} (run run' : Run α) : Prop :=
  ∀ scope, (run scope).mapError Fault.unplaced = (run' scope).mapError Fault.unplaced

namespace Alike

variable {α β : Type} {run run' : Run α}

theorem refl (run : Run α) : Alike run run := fun _ => rfl

/-- Both have the same result, or they fail for the same reason. -/
theorem outcomes (h : Alike run run') (scope : Scope) :
    (∃ made, run scope = .ok made ∧ run' scope = .ok made) ∨
    ∃ fault fault', run scope = .error fault ∧ run' scope = .error fault' ∧
      fault.unplaced = fault'.unplaced :=
  outcomes_of_mapError (h scope)

theorem bind (h : Alike run run') {next next' : α → Run β} (hnext : ∀ a, Alike (next a) (next' a)) :
    Alike (run >>= next) (run' >>= next') := by
  intro scope
  show (run scope >>= fun p => next p.1 p.2).mapError _ =
    (run' scope >>= fun p => next' p.1 p.2).mapError _
  obtain ⟨made, hrun, hrun'⟩ | ⟨fault, fault', hrun, hrun', hfault⟩ := h.outcomes scope
  · rw [hrun, hrun']
    exact hnext made.1 made.2
  · rw [hrun, hrun']
    exact congrArg Except.error hfault

theorem onLine (h : Alike run run') (line line' : Nat) :
    Alike (Run.onLine line run) (Run.onLine line' run') := by
  intro scope
  unfold Run.onLine
  obtain ⟨made, hrun, hrun'⟩ | ⟨fault, fault', hrun, hrun', hfault⟩ := h.outcomes scope
  · rw [hrun, hrun']
  · rw [hrun, hrun']
    exact congrArg Except.error hfault

/-- Computations that are made one after the other for the items of two lists. -/
theorem mapM {γ δ : Type} {R : γ → δ → Prop} {f : γ → Run α} {f' : δ → Run α}
    (h : ∀ x y, R x y → Alike (f x) (f' y)) {xs : List γ} {ys : List δ}
    (hlists : List.Forall₂ R xs ys) : Alike (xs.mapM f) (ys.mapM f') := by
  induction hlists with
  | nil =>
      exact refl _
  | cons hhead _ ih =>
      rw [List.mapM_cons, List.mapM_cons]
      exact (h _ _ hhead).bind fun _ => ih.bind fun _ => refl _

theorem foldlM {γ δ : Type} {R : γ → δ → Prop} {f : α → γ → Run α} {f' : α → δ → Run α}
    (h : ∀ a x y, R x y → Alike (f a x) (f' a y)) {xs : List γ} {ys : List δ}
    (hlists : List.Forall₂ R xs ys) (a : α) : Alike (xs.foldlM f a) (ys.foldlM f' a) := by
  induction hlists generalizing a with
  | nil =>
      exact refl _
  | cons hhead _ ih =>
      rw [List.foldlM_cons, List.foldlM_cons]
      exact (h a _ _ hhead).bind fun next => ih next

end Alike

/-! ## Evaluation -/

section Evaluation

variable {evaluator : Evaluator}
  (hvalue : ∀ {e e' : Expr}, Expr.Alike e e' → Alike (evaluator.value e) (evaluator.value e'))

include hvalue

theorem arguments_alike {args args' : List Argument} (h : List.Forall₂ Argument.Alike args args') :
    Alike (arguments evaluator args) (arguments evaluator args') := by
  unfold arguments
  refine (Alike.foldlM (fun found arg arg' harg => ?_) h _).bind fun _ => .refl _
  cases harg with
  | positional he =>
      exact (hvalue he).bind fun _ => .refl _
  | named name he =>
      exact (hvalue he).bind fun _ => .refl _
  | spread he =>
      exact (hvalue he).bind fun _ => .refl _
  | spreadNamed he =>
      exact (hvalue he).bind fun _ => .refl _

theorem bound_alike {part part' : Option Expr} (h : Option.Rel Expr.Alike part part') :
    Alike (bound evaluator part) (bound evaluator part') := by
  cases h with
  | some he =>
      exact hvalue he
  | none =>
      exact .refl _

theorem both_alike {entry entry' : Expr × Expr} (h : Entry.Alike entry entry') :
    Alike (both evaluator entry) (both evaluator entry') := by
  obtain ⟨hkey, hentry⟩ := h
  exact (hvalue hkey).bind fun _ => (hvalue hentry).bind fun _ => .refl _

theorem call_alike {callee callee' : Expr} {args args' : List Argument} (further : Run Bindings)
    (hcallee : Expr.Alike callee callee') (hargs : List.Forall₂ Argument.Alike args args') :
    Alike (call evaluator callee args further) (call evaluator callee' args' further) := by
  unfold call
  extract_lets given given'
  have hgiven : Alike given given' := (arguments_alike hvalue hargs).bind fun _ => .refl _
  have hplain := (hvalue hcallee).bind fun value => hgiven.bind fun found =>
    Alike.refl (callValue evaluator value found)
  cases hcallee with
  | var name line line' =>
      exact hgiven.bind fun _ => .refl _
  | part he name line line' =>
      have hmethod := (hvalue he).bind fun value => hgiven.bind fun found =>
        Alike.refl (callMethod evaluator value name found)
      cases he with
      | var s line line' =>
          by_cases hself : s = "self"
          · subst hself
            exact .refl _
          · -- no other name has a meaning of its own, on whatever line it stands
            split
            · rename_i heq
              cases heq
            · rename_i heq
              cases heq
              exact absurd rfl hself
            · rename_i heq
              cases heq
              split
              · rename_i heq
                cases heq
              · rename_i heq
                cases heq
                exact absurd rfl hself
              · rename_i heq
                cases heq
                exact hmethod
              · rename_i hnone
                exact absurd rfl (hnone _ _ _)
            · rename_i hnone
              exact absurd rfl (hnone _ _ _)
      | _ =>
          exact hmethod
  | _ =>
      exact hplain

theorem expression_alike {e e' : Expr} (h : Expr.Alike e e') :
    Alike (expression evaluator e) (expression evaluator e') := by
  cases h with
  | var name line line' =>
      exact .refl _
  | literal value =>
      exact .refl _
  | negation he =>
      exact (hvalue he).bind fun _ => .refl _
  | minus he line line' =>
      exact (hvalue he).bind fun _ => (Alike.refl _).onLine line line'
  | binary op hleft hright line line' =>
      cases op with
      | both =>
          refine (hvalue hleft).bind fun a => ?_
          split
          · exact hvalue hright
          · exact .refl _
      | either =>
          refine (hvalue hleft).bind fun a => ?_
          split
          · exact .refl _
          · exact hvalue hright
      | _ =>
          exact (hvalue hleft).bind fun _ => (hvalue hright).bind fun _ =>
            (Alike.refl _).onLine line line'
  | choice htest hyes hno =>
      refine (hvalue htest).bind fun value => ?_
      split
      · exact hvalue hyes
      · cases hno with
        | some he =>
            exact hvalue he
        | none =>
            exact .refl _
  | filter name hfirst hargs line line' =>
      have hrest : ∀ first, Alike
          (do
            let further ← Run.onLine line (arguments evaluator _)
            Run.onLine line (applyFilter name (first :: further)))
          (do
            let further ← Run.onLine line' (arguments evaluator _)
            Run.onLine line' (applyFilter name (first :: further))) := fun first =>
        ((arguments_alike hvalue hargs).onLine line line').bind fun _ =>
          (Alike.refl _).onLine line line'
      cases hfirst with
      | some he =>
          exact (hvalue he).bind hrest
      | none =>
          exact (Alike.refl _).bind fun scope => hrest scope.piped
  | test name hfirst hargs line line' =>
      exact (hvalue hfirst).bind fun _ =>
        ((arguments_alike hvalue hargs).onLine line line').bind fun _ =>
          (Alike.refl _).onLine line line'
  | part he name line line' =>
      exact (hvalue he).bind fun _ => (Alike.refl _).onLine line line'
  | item he hindex line line' =>
      exact (hvalue he).bind fun _ => (hvalue hindex).bind fun _ => (Alike.refl _).onLine line line'
  | slice he hstart hstop hstep line line' =>
      exact (hvalue he).bind fun _ => (bound_alike hvalue hstart).bind fun _ =>
        (bound_alike hvalue hstop).bind fun _ => (bound_alike hvalue hstep).bind fun _ =>
          (Alike.refl _).onLine line line'
  | call hcallee hargs line line' =>
      exact (call_alike hvalue (return []) hcallee hargs).onLine line line'
  | list hitems =>
      exact (Alike.mapM (R := Expr.Alike) (fun _ _ => hvalue) hitems).bind fun _ => .refl _
  | map hentries =>
      exact (Alike.mapM (R := Entry.Alike) (fun _ _ => both_alike hvalue) hentries).bind fun _ => .refl _

end Evaluation

end Run

theorem evaluator_alike (levels : Nat) {e e' : Expr} (h : Expr.Alike e e') :
    Run.Alike ((evaluator levels).value e) ((evaluator levels).value e') := by
  induction levels generalizing e e' with
  | zero =>
      exact .refl _
  | succ levels ih =>
      exact Run.expression_alike ih h

/-- Lines decide neither about a value nor about whether there is one. -/
theorem Expr.Alike.eval {e e' : Expr} (h : Expr.Alike e e') (levels : Nat) (context : Value) :
    (e.eval levels context).mapError Fault.unplaced =
      (e'.eval levels context).mapError Fault.unplaced := by
  show (((evaluator levels).value e (Scope.ofContext context [])).map (·.1)).mapError _ =
    (((evaluator levels).value e' (Scope.ofContext context [])).map (·.1)).mapError _
  obtain ⟨made, hrun, hrun'⟩ | ⟨fault, fault', hrun, hrun', hfault⟩ :=
    (evaluator_alike levels h).outcomes (Scope.ofContext context [])
  · rw [hrun, hrun']
  · rw [hrun, hrun']
    exact congrArg Except.error hfault

end Template
end EventRules
