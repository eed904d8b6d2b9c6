import EventRules.Proofs.Template.Cursor
import EventRules.Proofs.Template.Lines

/-!
# Parsing — an expression with a closing mark behind it

The mark that ends an output goes on no expression, so that an expression is read the same way
whether an output ends behind it or the tokens do.  What is read in an output is therefore what is
read of the expression by itself, apart from the lines on which the tokens stand.

* `Grammar.Takes` — parsers that follow one another wherever few enough tokens are left;
* `Grammar.Takes.exprs` — expressions, by the number of tokens;
* `Grammar.Follows.expr` — an expression that begins an output.
-/

namespace EventRules
namespace Template
namespace Grammar

variable {α β γ δ : Type} {c c' : Cursor}

/-! ## Brackets and arguments -/

/-- Parsers that follow one another and take a token, wherever fewer tokens than that are left. -/
def Takes (R : α → β → Prop) (p : Parser α) (p' : Parser β) (bound : Nat) : Prop :=
  ∀ d d', Cursor.Inside d d' → d'.rest.length < bound →
    Follows p p' d d' fun a b n => R a b ∧ n < d'.rest.length

theorem Takes.mono {R : α → β → Prop} {p : Parser α} {p' : Parser β} {bound bound' : Nat}
    (h : Takes R p p' bound) (hle : bound' ≤ bound) : Takes R p p' bound' :=
  fun d d' hd hlt => h d d' hd (by omega)

/-- Lists of what has been found so far, and whether there is no more to be found. -/
def SameState (R : α → β → Prop) (state : List α × Bool) (state' : List β × Bool) : Prop :=
  List.Forall₂ R state.1 state'.1 ∧ state.2 = state'.2

/-- Items up to a closing sign, where an item may depend on those before it. -/
def listed {α : Type} (close comma : String) (item : List α → Parser α) : Parser (List α) := do
  let found ← grow (fun (state : List α × Bool) => do
    let (items, finished) := state
    if finished then return none
    else if ← Grammar.skip (sign close) then return some (items, true)
    else
      if !items.isEmpty then Grammar.expect (sign ",") comma
      if !items.isEmpty && (← Grammar.skip (sign close)) then return some (items, true)
      else return some ((← item items) :: items, false)) ([], false)
  return found.1.reverse

theorem separated_eq (close comma : String) (item : Parser α) :
    separated close comma item = listed close comma fun _ => item := rfl

theorem arguments_eq (expr orLevel : Parser Expr) :
    arguments expr orLevel =
      (expect (sign "(") "`(`" >>= fun _ =>
        listed ")" "`,`" fun args => argument expr orLevel (args.any isNamed)) := rfl

theorem Follows.listed {R : α → β → Prop} {item : List α → Parser α} {item' : List β → Parser β}
    (close comma : String) (h : c.Inside c')
    (hitem : ∀ items items', List.Forall₂ R items items' →
      Takes R (item items) (item' items') (c'.rest.length + 1)) :
    Follows (listed close comma item) (listed close comma item') c c'
      fun found found' n => List.Forall₂ R found found' ∧ n ≤ c'.rest.length := by
  unfold Grammar.listed
  refine (Follows.grow (R := SameState R) h ?_ ⟨.nil, rfl⟩).bind fun found found' d d' hd hfound =>
    .pure hd ⟨List.rel_reverse hfound.1.1, hfound.2⟩
  rintro ⟨items, finished⟩ ⟨items', -⟩ d d' hd hle ⟨hitems, rfl⟩
  have hmore : ∀ e e', e.Inside e' → e'.rest.length ≤ d'.rest.length →
      Follows (item items >>= fun x => Pure.pure (some (x :: items, false)))
        (item' items' >>= fun x => Pure.pure (some (x :: items', false))) e e'
        (Grown (SameState R) d'.rest.length) := fun e e' he hlt =>
    (hitem items items' hitems e e' he (by omega)).bind fun x x' b b' hb hx =>
      .pure hb ⟨⟨.cons hx.1 hitems, rfl⟩, by omega⟩
  cases finished with
  | true =>
      exact .pure hd (Nat.le_refl _)
  | false =>
      refine .skip (by simp [sign]) hd (fun e e' he hlt => .pure he ⟨⟨hitems, rfl⟩, hlt⟩) ?_
      cases hitems with
      | nil =>
          -- before the first item the closing sign is looked for again, instead of a comma
          exact .skip (by simp [sign]) hd (fun e e' he hlt => hmore e e' he (by omega))
            (hmore d d' hd (Nat.le_refl _))
      | cons hhead htail =>
          refine .expect (by simp [sign]) comma hd fun e e' he hlt => ?_
          refine .skip (by simp [sign]) he (fun b b' hb hless =>
            .pure hb ⟨⟨.cons hhead htail, rfl⟩, by omega⟩) ?_
          exact hmore e e' he (by omega)

theorem Follows.separated {R : α → β → Prop} {item : Parser α} {item' : Parser β}
    (close comma : String) (h : c.Inside c') (hitem : Takes R item item' (c'.rest.length + 1)) :
    Follows (separated close comma item) (separated close comma item') c c'
      fun found found' n => List.Forall₂ R found found' ∧ n ≤ c'.rest.length := by
  rw [separated_eq, separated_eq]
  exact .listed close comma h fun _ _ _ => hitem

theorem any_isNamed {args args' : List Argument} (h : List.Forall₂ Argument.Alike args args') :
    args.any isNamed = args'.any isNamed := by
  induction h with
  | nil =>
      rfl
  | cons harg _ ih =>
      rw [List.any_cons, List.any_cons, ih]
      cases harg <;> rfl

section Nested

variable {expr expr' orLevel orLevel' : Parser Expr}

theorem Takes.argument {bound : Nat} (hexpr : Takes Expr.Alike expr expr' bound)
    (hor : Takes Expr.Alike orLevel orLevel' bound) (named : Bool) :
    Takes Argument.Alike (argument expr orLevel named) (argument expr' orLevel' named) bound := by
  intro d d' hd hle
  have hplain : ∀ e e' made made', Cursor.Inside e e' → Expr.Alike made made' →
      e'.rest.length < d'.rest.length →
      Follows (if named then fail "non-keyword arg after keyword arg" else return .positional made)
        (if named then fail "non-keyword arg after keyword arg" else return .positional made') e e'
        fun a b n => Argument.Alike a b ∧ n < d'.rest.length := by
    intro e e' made made' he hmade hlt
    cases named with
    | true =>
        exact .of_fails (fails_fail _ _)
    | false =>
        exact .pure he ⟨.positional hmade, hlt⟩
  unfold Grammar.argument
  refine .skip (by simp [sign]) hd (fun e e' he hlt => ?_) ?_
  · exact (hexpr e e' he (by omega)).bind fun _ _ _ _ hb hmade =>
      .pure hb ⟨.spreadNamed hmade.1, by omega⟩
  refine .skip (by simp [sign]) hd (fun e e' he hlt => ?_) ?_
  · exact (hexpr e e' he (by omega)).bind fun _ _ _ _ hb hmade =>
      .pure hb ⟨.spread hmade.1, by omega⟩
  refine (hexpr d d' hd hle).bind fun made made' e e' he hmade => ?_
  have hother := hplain e e' made made' he hmade.1 hmade.2
  -- only behind a name alone may the sign of a named argument stand
  cases hmade.1 with
  | var name line line' =>
      refine .skip (by simp [sign]) he (fun b b' hb hlt => ?_) hother
      have hless := hmade.2
      exact (hor b b' hb (by omega)).bind fun _ _ _ _ hq hvalue =>
        .pure hq ⟨.named name hvalue.1, by omega⟩
  | _ =>
      exact hother

theorem Takes.arguments {bound : Nat} (hexpr : Takes Expr.Alike expr expr' bound)
    (hor : Takes Expr.Alike orLevel orLevel' bound) :
    Takes (List.Forall₂ Argument.Alike) (arguments expr orLevel) (arguments expr' orLevel')
      (bound + 1) := by
  intro d d' hd hle
  rw [arguments_eq, arguments_eq]
  refine .expect (by simp [sign]) _ hd fun e e' he hlt => ?_
  refine (Follows.listed _ _ he fun args args' hargs => ?_).mono fun _ _ _ h => ⟨h.1, by omega⟩
  rw [any_isNamed hargs]
  exact .argument (hexpr.mono (by omega)) (hor.mono (by omega)) _

/-! ## Values -/

theorem Follows.moreStrings (first : String) (h : c.Inside c') :
    Follows (moreStrings first) (moreStrings first) c c'
      fun s s' n => s = s' ∧ n ≤ c'.rest.length := by
  refine .grow h ?_ rfl
  rintro s _ d d' hd hle rfl
  refine .current hd (fun token hrest => ?_) fun hend => ?_
  · split
    · exact .next hd (fun _ e e' he hlt => .pure he ⟨rfl, hlt⟩) fun hend => absurd hend hrest
    · exact .pure hd (Nat.le_refl _)
  · exact ⟨.pure hd (Nat.le_refl _), .pure hd (Nat.le_refl _)⟩

theorem Follows.tupleOrGroup {bound : Nat} (hexpr : Takes Expr.Alike expr expr' bound)
    (h : c.Inside c') (hlt : c'.rest.length < bound) :
    Follows (tupleOrGroup expr) (tupleOrGroup expr') c c'
      fun e e' n => Expr.Alike e e' ∧ n ≤ c'.rest.length := by
  unfold Grammar.tupleOrGroup
  refine .skip (by simp [sign]) h (fun d d' hd hless => .pure hd ⟨.list .nil, by omega⟩) ?_
  refine (hexpr c c' h hlt).bind fun first first' d d' hd hfirst => ?_
  have hfewer := hfirst.2
  refine .isAt (by simp [sign]) hd (fun _ => ?_) ?_
  · have hstart : SameState Expr.Alike ([first], false) ([first'], false) :=
      ⟨.cons hfirst.1 .nil, rfl⟩
    refine (Follows.grow hd ?_ hstart).bind fun found found' e e' he hfound =>
      .pure he ⟨.list (List.rel_reverse hfound.1.1), by omega⟩
    rintro ⟨items, finished⟩ ⟨items', -⟩ e e' he hle ⟨hitems, rfl⟩
    cases finished with
    | true =>
        exact .pure he (Nat.le_refl _)
    | false =>
        refine .skip (by simp [sign]) he (fun b b' hb hless => .pure hb ⟨⟨hitems, rfl⟩, hless⟩) ?_
        refine .expect (by simp [sign]) _ he fun b b' hb hless => ?_
        refine .skip (by simp [sign]) hb (fun _ _ hq _ => .pure hq ⟨⟨hitems, rfl⟩, by omega⟩) ?_
        exact (hexpr b b' hb (by omega)).bind fun x x' _ _ hq hx =>
          .pure hq ⟨⟨.cons hx.1 hitems, rfl⟩, by omega⟩
  · exact .expect (by simp [sign]) _ hd fun e e' he hless => .pure he ⟨hfirst.1, by omega⟩

theorem Takes.mapEntry {bound : Nat} (hexpr : Takes Expr.Alike expr expr' bound) :
    Takes Entry.Alike (mapEntry expr) (mapEntry expr') bound := by
  intro d d' hd hlt
  refine (hexpr d d' hd hlt).bind fun key key' e e' he hkey => ?_
  refine .expect (by simp [sign]) _ he fun b b' hb hless => ?_
  have hfewer := hkey.2
  exact (hexpr b b' hb (by omega)).bind fun value value' _ _ hq hvalue =>
    .pure hq ⟨.pair hkey.1 hvalue.1, by omega⟩

theorem Takes.primary {bound : Nat} (hexpr : Takes Expr.Alike expr expr' bound) :
    Takes Expr.Alike (primary expr) (primary expr') (bound + 1) := by
  intro d d' hd hlt
  unfold Grammar.primary
  refine .deeper hd fun e e' he hrest => ?_
  rw [← hrest] at hlt ⊢
  have hdone : ∀ {e made} b b', b.Inside b' → Expr.Alike e made → b'.rest.length < e'.rest.length →
      Follows (return e) (return made) b b' fun a a' n => Expr.Alike a a' ∧ n < e'.rest.length :=
    fun b b' hb hmade hless => .pure hb ⟨hmade, hless⟩
  refine .next he (fun token b b' hb hless => ?_) fun _ _ =>
    ⟨fails_fail _ _, fails_fail _ _⟩
  cases token with
  | name s =>
      dsimp only
      split
      · exact hdone b b' hb (.literal _) hless
      split
      · exact hdone b b' hb (.literal _) hless
      split
      · exact hdone b b' hb (.literal _) hless
      split
      · -- naming the caller is remembered, and neither place has changed
        intro a q hrun
        cases hrun
        exact ⟨.var s b'.line, _, rfl, ⟨hb.tokens, hb.fault, hb.depth⟩, ⟨List.suffix_refl _, rfl⟩,
          .var .., hless⟩
      · exact hdone b b' hb (.var ..) hless
  | string s =>
      refine (Follows.moreStrings s hb).bind ?_
      rintro t _ q q' hq ⟨rfl, hle⟩
      exact hdone q q' hq (.literal _) (by omega)
  | integer n =>
      exact hdone b b' hb (.literal _) hless
  | float x =>
      exact hdone b b' hb (.literal _) hless
  | _ =>
      dsimp only
      split
      · exact (Follows.tupleOrGroup hexpr hb (by omega)).mono fun _ _ _ hmade =>
          ⟨hmade.1, by omega⟩
      split
      · exact (Follows.separated "]" "`,`" hb (hexpr.mono (by omega))).bind
          fun items items' q q' hq hitems => hdone q q' hq (.list hitems.1) (by omega)
      split
      · exact (Follows.separated "\x7d" "`,`" hb (hexpr.mapEntry.mono (by omega))).bind
          fun items items' q q' hq hitems => hdone q q' hq (.map hitems.1) (by omega)
      · exact .of_fails (fails_fail _ _)

/-! ## Behind a value -/

theorem Follows.slicePart {bound : Nat} (hexpr : Takes Expr.Alike expr expr' bound)
    (atColon : Bool) (h : c.Inside c') (hlt : c'.rest.length < bound) :
    Follows (slicePart expr atColon) (slicePart expr' atColon) c c'
      fun e e' n => Option.Rel Expr.Alike e e' ∧ n ≤ c'.rest.length := by
  have hpart : ∀ stops : Bool,
      Follows (if stops then return none else return some (← expr))
        (if stops then return none else return some (← expr')) c c'
        fun e e' n => Option.Rel Expr.Alike e e' ∧ n ≤ c'.rest.length := by
    intro stops
    cases stops with
    | true =>
        exact .pure h ⟨.none, Nat.le_refl _⟩
    | false =>
        exact (hexpr c c' h hlt).bind fun _ _ _ _ hd hmade => .pure hd ⟨.some hmade.1, by omega⟩
  unfold Grammar.slicePart
  exact .isAt (by simp [sign]) h
    (fun _ => .isAt (by simp [sign]) h (fun _ => hpart _) (hpart _))
    (.isAt (by simp [sign]) h (fun _ => hpart _) (hpart _))

theorem Follows.subscript {bound : Nat} (hexpr : Takes Expr.Alike expr expr' bound)
    {value value' : Expr} (hvalue : Expr.Alike value value') (line line' : Nat) (h : c.Inside c')
    (hlt : c'.rest.length < bound) :
    Follows (subscript expr value line) (subscript expr' value' line') c c'
      fun e e' n => Expr.Alike e e' ∧ n ≤ c'.rest.length := by
  have hclosing : ∀ d d' (a a' : Expr), Cursor.Inside d d' → Expr.Alike a a' →
      d'.rest.length ≤ c'.rest.length →
      Follows (do Grammar.expect (sign "]") "`]`"; return a)
        (do Grammar.expect (sign "]") "`]`"; return a') d d'
        fun e e' n => Expr.Alike e e' ∧ n ≤ c'.rest.length := fun d d' a a' hd hmade hle =>
    .expect (by simp [sign]) _ hd fun _ _ he hless => .pure he ⟨hmade, by omega⟩
  unfold Grammar.subscript
  extract_lets next next'
  have hnext : ∀ start start' d d', Cursor.Inside d d' → Option.Rel Expr.Alike start start' →
      d'.rest.length ≤ c'.rest.length → Follows (next start) (next' start') d d'
        fun e e' n => Expr.Alike e e' ∧ n ≤ c'.rest.length := by
    intro start start' d d' hd hstart hle
    refine .skip (by simp [sign]) hd (fun e e' he hless => ?_) ?_
    · refine (Follows.slicePart hexpr true he (by omega)).bind fun stop stop' b b' hb hstop => ?_
      have hslice := fun step step' (hstep : Option.Rel Expr.Alike step step') =>
        Expr.Alike.slice hvalue hstart hstop.1 hstep line line'
      have hfewer := hstop.2
      refine .skip (by simp [sign]) hb (fun q q' hq hless => ?_) ?_
      · exact (Follows.slicePart hexpr false hq (by omega)).bind fun step step' r r' hr hstep =>
          hclosing r r' _ _ hr (hslice step step' hstep.1) (by omega)
      · exact hclosing b b' _ _ hb (hslice none none .none) (by omega)
    · cases hstart with
      | some hindex =>
          exact hclosing d d' _ _ hd (.item hvalue hindex line line') hle
      | none =>
          exact .expect (by simp [sign]) _ hd fun _ _ _ _ => .of_fails (fails_fail _ _)
  refine .isAt (by simp [sign]) h (fun _ => hnext none none c c' h .none (Nat.le_refl _)) ?_
  exact .map_bind <| (hexpr c c' h hlt).bind fun start start' d d' hd hstart =>
    hnext (some start) (some start') d d' hd (.some hstart.1) (by omega)

theorem Follows.postfixed {bound : Nat} (hexpr : Takes Expr.Alike expr expr' bound)
    (hor : Takes Expr.Alike orLevel orLevel' bound) {value value' : Expr}
    (hvalue : Expr.Alike value value') (line line' : Nat) (h : c.Inside c')
    (hlt : c'.rest.length ≤ bound) :
    Follows (postfixed expr orLevel value line) (postfixed expr' orLevel' value' line') c c'
      fun e e' n => Expr.Alike e e' ∧ n ≤ c'.rest.length := by
  unfold Grammar.postfixed
  refine (Follows.grow (R := fun state state' : Expr × Nat => Expr.Alike state.1 state'.1) h ?_
    hvalue).bind fun found found' d d' hd hfound => .pure hd hfound
  rintro ⟨value, line⟩ ⟨value', line'⟩ d d' hd hle hvalue
  refine .currentLine fun here here' => .current hd (fun token hrest => ?_) fun hend => ?_
  · split
    · refine .next hd (fun _ e e' he hless => ?_) fun hend => absurd hend hrest
      refine .next he (fun found b b' hb hfewer => ?_) fun _ _ =>
        ⟨fails_unexpected _ _ _, fails_unexpected _ _ _⟩
      split
      · exact .pure hb ⟨.part hvalue _ _ _, by omega⟩
      · exact .pure hb ⟨.item hvalue (.literal _) _ _, by omega⟩
      · exact .of_fails (fails_unexpected _ _ _)
    · refine .next hd (fun _ e e' he hless => ?_) fun hend => absurd hend hrest
      exact (Follows.subscript hexpr hvalue line line' he (by omega)).bind
        fun made made' b b' hb hmade => .pure hb ⟨hmade.1, by omega⟩
    · exact (Takes.arguments hexpr hor d d' hd (by omega)).bind
        fun args args' b b' hb hargs => .pure hb ⟨.call hvalue hargs.1 _ _, hargs.2⟩
    · exact .pure hd (Nat.le_refl _)
  · exact ⟨.pure hd (Nat.le_refl _), .pure hd (Nat.le_refl _)⟩

theorem Takes.signedPrimary {bound : Nat} (hexpr : Takes Expr.Alike expr expr' bound) :
    Takes Expr.Alike (signedPrimary expr) (signedPrimary expr') (bound + 1) := by
  intro d d' hd hlt
  unfold Grammar.signedPrimary
  refine (Follows.grow (R := fun lines lines' : List Nat => lines.length = lines'.length) hd ?_
    rfl).bind fun lines lines' e e' he hlines => ?_
  · intro lines lines' e e' he hle hlines
    refine .currentLine fun here here' => .skip (by simp [sign]) he (fun b b' hb hless => ?_) ?_
    · exact .pure hb ⟨congrArg (· + 1) hlines, hless⟩
    · exact .pure he (Nat.le_refl _)
  · refine (hexpr.primary e e' he (by omega)).bind fun value value' b b' hb hvalue =>
      .pure hb ⟨Expr.Alike.minuses hlines.1 hvalue.1, by omega⟩

/-- A value with signs before it and parts behind it, and what is made of it. -/
theorem Follows.operand {bound : Nat} (hexpr : Takes Expr.Alike expr expr' bound)
    (hor : Takes Expr.Alike orLevel orLevel' bound) {f : Expr → Parser γ} {f' : Expr → Parser δ}
    {post : γ → δ → Nat → Prop} (h : c.Inside c') (hlt : c'.rest.length ≤ bound)
    (hnext : ∀ value value' d d', Cursor.Inside d d' → Expr.Alike value value' →
      d'.rest.length < c'.rest.length → Follows (f value) (f' value') d d' post) :
    Follows
      (do
        let start ← Grammar.currentLine
        let value ← signedPrimary expr
        f (← Grammar.postfixed expr orLevel value start))
      (do
        let start ← Grammar.currentLine
        let value ← signedPrimary expr'
        f' (← Grammar.postfixed expr' orLevel' value start)) c c' post := by
  refine .currentLine fun start start' => ?_
  refine (hexpr.signedPrimary c c' h (by omega)).bind fun value value' d d' hd hvalue => ?_
  have hfewer := hvalue.2
  exact (Follows.postfixed hexpr hor hvalue.1 start start' hd (by omega)).bind
    fun made made' e e' he hmade => hnext made made' e e' he hmade.1 (by omega)

theorem Follows.filtered {bound : Nat} (hexpr : Takes Expr.Alike expr expr' bound)
    (hor : Takes Expr.Alike orLevel orLevel' bound) {value value' : Expr}
    (hvalue : Expr.Alike value value') (h : c.Inside c') (hlt : c'.rest.length ≤ bound) :
    Follows (filtered expr orLevel value) (filtered expr' orLevel' value') c c'
      fun e e' n => Expr.Alike e e' ∧ n ≤ c'.rest.length := by
  refine .grow h (fun value value' d d' hd hle hvalue => ?_) hvalue
  refine .current hd (fun token hrest => ?_) fun _ =>
    ⟨.pure hd (Nat.le_refl _), .pure hd (Nat.le_refl _)⟩
  split
  · refine .next hd (fun _ e e' he hless => ?_) fun hend => absurd hend hrest
    refine .expectName _ he fun name b b' hb hfewer => .get ?_
    refine .isAt (by simp [sign]) hb (fun _ => ?_)
      (.pure hb ⟨.filter _ (.some hvalue) .nil _ _, by omega⟩)
    exact (Takes.arguments hexpr hor b b' hb (by omega)).bind fun args args' q q' hq hargs =>
      .pure hq ⟨.filter _ (.some hvalue) hargs.1 _ _, by omega⟩
  · refine .next hd (fun _ e e' he hless => ?_) fun hend => absurd hend hrest
    refine (Follows.skipped (by simp) he).bind fun negated negated' b b' hb hskipped => ?_
    obtain ⟨rfl, hle⟩ := hskipped
    refine .expectName _ hb fun name q q' hq hfewer => .get ?_
    have htest := fun args args' (hargs : List.Forall₂ Argument.Alike args args') =>
      Expr.Alike.tested negated name hvalue hargs q.line q'.line
    refine .isAt (by simp [sign]) hq (fun hsome => ?_) ?_
    · refine .current hq (fun token _ => ?_) fun hend => absurd hend hsome
      exact (Takes.arguments hexpr hor q q' hq (by omega)).bind fun args args' r r' hr hargs =>
        .pure hr ⟨htest args args' hargs.1, by omega⟩
    · refine .current hq (fun token _ => ?_) fun _ =>
        ⟨.pure hq ⟨htest [] [] .nil, by omega⟩, .pure hq ⟨htest [] [] .nil, by omega⟩⟩
      cases beginsArgument (some token) with
      | true =>
          refine .operand hexpr hor hq (by omega) fun arg arg' r r' hr harg _ => ?_
          exact .pure hr ⟨htest _ _ (.cons (.positional harg) .nil), by omega⟩
      | false =>
          exact .pure hq ⟨htest [] [] .nil, by omega⟩
  · exact .pure hd (Nat.le_refl _)

theorem Takes.signed {bound : Nat} (hexpr : Takes Expr.Alike expr expr' bound)
    (hor : Takes Expr.Alike orLevel orLevel' bound) :
    Takes Expr.Alike (signed expr orLevel) (signed expr' orLevel') (bound + 1) := by
  intro d d' hd hlt
  refine .operand hexpr hor hd (by omega) fun value value' e e' he hvalue hless => ?_
  exact (Follows.filtered hexpr hor hvalue he (by omega)).mono fun _ _ _ hmade =>
    ⟨hmade.1, by omega⟩

/-! ## Operators -/

theorem Takes.leftAssociative {op? : Token → Option BinaryOp} (hend : op? .outputEnd = none)
    {operand operand' : Parser Expr} {bound : Nat} (h : Takes Expr.Alike operand operand' bound) :
    Takes Expr.Alike (leftAssociative op? operand) (leftAssociative op? operand') bound := by
  intro d d' hd hlt
  refine .get ?_
  refine (h d d' hd hlt).bind fun first first' e e' he hfirst => ?_
  have hfewer := hfirst.2
  refine (Follows.grow he (fun left left' b b' hb hle hleft => ?_) hfirst.1).mono
    fun _ _ _ hmade => ⟨hmade.1, by omega⟩
  have hstop : Follows (return none) (return none) b b' (Grown Expr.Alike b'.rest.length) :=
    .pure hb (Nat.le_refl _)
  refine .current hb (fun token hrest => ?_) fun _ => ?_
  · cases hop : (some token).bind op? with
    | some op =>
        refine .next hb (fun _ q q' hq hless => ?_) fun hend => absurd hend hrest
        exact (h q q' hq (by omega)).bind fun right right' r r' hr hright =>
          .pure hr ⟨.binary op hleft hright.1 _ _, by omega⟩
    | none =>
        exact hstop
  · rw [Option.bind_some, hend]
    exact ⟨hstop, hstop⟩

theorem Takes.sums {bound : Nat} (hexpr : Takes Expr.Alike expr expr' bound)
    (hor : Takes Expr.Alike orLevel orLevel' bound) :
    Takes Expr.Alike (sums expr orLevel) (sums expr' orLevel') (bound + 1) :=
  .leftAssociative rfl (.leftAssociative rfl (.leftAssociative rfl (.leftAssociative rfl
    (.signed hexpr hor))))

theorem Takes.comparisons {bound : Nat} (hexpr : Takes Expr.Alike expr expr' bound)
    (hor : Takes Expr.Alike orLevel orLevel' bound) :
    Takes Expr.Alike (comparisons expr orLevel) (comparisons expr' orLevel') (bound + 1) := by
  intro d d' hd hlt
  have hsums : Takes Expr.Alike (Grammar.sums expr orLevel) (Grammar.sums expr' orLevel')
      (bound + 1) :=
    .sums hexpr hor
  refine .get ?_
  refine (hsums d d' hd hlt).bind fun first first' e e' he hfirst => ?_
  have hfewer := hfirst.2
  refine (Follows.grow he (fun left left' b b' hb hle hleft => ?_) hfirst.1).mono
    fun _ _ _ hmade => ⟨hmade.1, by omega⟩
  have hstop : Follows (return none) (return none) b b' (Grown Expr.Alike b'.rest.length) :=
    .pure hb (Nat.le_refl _)
  refine .current hb (fun token hrest => ?_) fun _ => ⟨hstop, hstop⟩
  split
  · refine .next hb (fun _ q q' hq hless => ?_) fun hend => absurd hend hrest
    refine .expect (by simp) _ hq fun r r' hr hshort => ?_
    exact (hsums r r' hr (by omega)).bind fun right right' _ _ ht hright =>
      .pure ht ⟨.negation (.binary _ hleft hright.1 _ _), by omega⟩
  · cases hop : (some token).bind comparisonOp? with
    | some op =>
        refine .next hb (fun _ q q' hq hless => ?_) fun hend => absurd hend hrest
        exact (hsums q q' hq (by omega)).bind fun right right' r r' hr hright =>
          .pure hr ⟨.binary op hleft hright.1 _ _, by omega⟩
    | none =>
        exact hstop

theorem Takes.negations {bound : Nat} (hexpr : Takes Expr.Alike expr expr' bound)
    (hor : Takes Expr.Alike orLevel orLevel' bound) :
    Takes Expr.Alike (negations expr orLevel) (negations expr' orLevel') (bound + 1) := by
  intro d d' hd hlt
  refine (Follows.grow (R := Eq) hd (fun n n' b b' hb hle hn => ?_) rfl).bind
    fun count count' e e' he hcount => ?_
  · obtain rfl := hn
    exact .skip (by simp) hb (fun q q' hq hless => .pure hq ⟨rfl, hless⟩) (.pure hb (Nat.le_refl _))
  · obtain ⟨rfl, hle⟩ := hcount
    refine (Takes.comparisons hexpr hor e e' he (by omega)).bind fun value value' b b' hb hvalue =>
      .pure hb ⟨Expr.Alike.negations count hvalue.1, by omega⟩

theorem Takes.alternatives {bound : Nat} (hexpr : Takes Expr.Alike expr expr' bound)
    (hor : Takes Expr.Alike orLevel orLevel' bound) :
    Takes Expr.Alike (alternatives expr orLevel) (alternatives expr' orLevel') (bound + 1) :=
  .leftAssociative rfl (.leftAssociative rfl (.negations hexpr hor))

theorem Takes.choices {bound : Nat} (hexpr : Takes Expr.Alike expr expr' bound)
    (hor : Takes Expr.Alike orLevel orLevel' bound) :
    Takes Expr.Alike (choices expr orLevel) (choices expr' orLevel') (bound + 1) := by
  intro d d' hd hlt
  have halternatives : Takes Expr.Alike (Grammar.alternatives expr orLevel)
      (Grammar.alternatives expr' orLevel') (bound + 1) := .alternatives hexpr hor
  refine (halternatives d d' hd hlt).bind fun first first' e e' he hfirst => ?_
  have hfewer := hfirst.2
  refine (Follows.grow he (fun yes yes' b b' hb hle hyes => ?_) hfirst.1).mono
    fun _ _ _ hmade => ⟨hmade.1, by omega⟩
  refine .skip (by simp) hb (fun q q' hq hless => ?_) (.pure hb (Nat.le_refl _))
  refine (halternatives q q' hq (by omega)).bind fun test test' r r' hr htest => ?_
  have hshort := htest.2
  refine .skip (by simp) hr (fun t t' ht _ => ?_) (.pure hr ⟨.choice htest.1 hyes .none, by omega⟩)
  exact .map_bind <| (hexpr t t' ht (by omega)).bind fun no no' _ _ hu hno =>
    .pure hu ⟨.choice htest.1 hyes (.some hno.1), by omega⟩

end Nested

/-! ## Expressions -/

/-- How many levels of nesting are allowed does not matter, if there is one for every token. -/
theorem Takes.exprs (bound : Nat) : ∀ {levels levels' : Nat}, bound ≤ levels → bound ≤ levels' →
    Takes Expr.Alike (exprs levels).1 (exprs levels').1 bound ∧
      Takes Expr.Alike (exprs levels).2 (exprs levels').2 bound := by
  -- what is nested in an expression is read when at least one token has been taken
  induction bound with
  | zero =>
      intro _ _ _ _
      exact ⟨fun _ _ _ hlt => absurd hlt (Nat.not_lt_zero _),
        fun _ _ _ hlt => absurd hlt (Nat.not_lt_zero _)⟩
  | succ bound ih =>
      intro levels levels' hle hle'
      obtain ⟨levels, rfl⟩ : ∃ n, levels = n + 1 := ⟨levels - 1, by omega⟩
      obtain ⟨levels', rfl⟩ : ∃ n, levels' = n + 1 := ⟨levels' - 1, by omega⟩
      obtain ⟨hexpr, hor⟩ := @ih levels levels' (by omega) (by omega)
      constructor
      · intro d d' hd hlt
        refine .deeper hd fun e e' he hrest => ?_
        rw [← hrest] at hlt ⊢
        exact Takes.choices hexpr hor e e' he hlt
      · exact .alternatives hexpr hor

theorem Follows.expr (h : c.Inside c') :
    Follows expr expr c c' fun e e' n => Expr.Alike e e' ∧ n < c'.rest.length := by
  have hlength := h.length_le
  have hboth := @Takes.exprs (c'.rest.length + 1) (c.rest.length + 1) (c'.rest.length + 1)
    (by omega) (Nat.le_refl _)
  unfold Grammar.expr
  refine .get ?_
  exact hboth.1 c c' h (Nat.lt_succ_self _)

/-- An expression is taken from the front of the tokens. -/
theorem behind_of_expr {made : Expr × Cursor} (h : expr c = .ok made) : made.2.Behind c := by
  have hinside : c.Inside
      { c with rest := c.rest.takeWhile (·.token ≠ .outputEnd), fault := none } := by
    refine ⟨?_, rfl, rfl⟩
    rw [List.takeWhile_map]
    rfl
  obtain ⟨_, _, -, -, hbehind, -⟩ := Follows.expr hinside made.1 made.2 h
  exact hbehind

end Grammar
end Template
end EventRules
