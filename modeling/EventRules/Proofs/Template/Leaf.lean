import EventRules.Proofs.Template.Parsing
import EventRules.Proofs.Template.Scanning
import EventRules.Proofs.Template.Texts

/-!
# Leaf — a text that is one output

A text that is one output as a template is taken as the expression in that output, unless marks of a
template stand within the expression or a control stands at one of its ends.  Its value is then the
value of the expression that the template would show.

* `Grammar.isClosed_of_template` — what the tokens of a template of one output are;
* `Grammar.expression_of_template` — the expression in it;
* `OutputTemplate.output_keeps_value` — the text has the value of that expression;
* `OutputTemplate.output_with_marks_is_text` — what becomes of other outputs.
-/

namespace EventRules
namespace Template
namespace Grammar

/-! ## A template of one output -/

/-- One further statement, where no block ends the statements. -/
def statementsStep (statement : Parser Statement) (state : List Statement × Bool) :
    Parser (Option (List Statement × Bool)) := do
  let (items, finished) := state
  if finished then return none
  else
    match ← next? with
    | none => return some (items, true)
    | some (.text s) => return some (.text s :: items, false)
    | some .outputStart =>
        let line := (← get).line
        let value ← expr
        expect .outputEnd "end of variable block"
        return some (.output value line :: items, false)
    | some .blockStart =>
        match ← current? with
        | none => unexpected none "keyword"
        | some token =>
            let stops :=
              match token with
              | .name s => ([] : List String).contains s
              | _ => false
            if stops then return some (items, true)
            else
              let item ← statement
              endOfBlock
              return some (item :: items, false)
    | some token => fail ("unexpected " ++ token.describe)

theorem statementsUntil_eq (statement : Parser Statement) :
    statementsUntil statement [] =
      (grow (statementsStep statement) ([], false) >>= fun found =>
        Pure.pure found.1.reverse) := rfl

theorem statementsStep_cases {statement : Parser Statement} {items : List Statement}
    {grown : Option (List Statement × Bool)} {c d : Cursor}
    (h : statementsStep statement (items, false) c = .ok (grown, d)) :
    (next? c = .ok (none, d) ∧ grown = some (items, true)) ∨
      ∃ item, grown = some (item :: items, false) := by
  obtain ⟨found, e, hfound, hrest⟩ := ok_of_parser_bind h
  dsimp only at hrest
  split at hrest
  · cases hrest
    exact .inl ⟨hfound, rfl⟩
  · cases hrest
    exact .inr ⟨_, rfl⟩
  · obtain ⟨_, _, -, hrest⟩ := ok_of_parser_bind hrest
    obtain ⟨_, _, -, hrest⟩ := ok_of_parser_bind hrest
    obtain ⟨_, _, -, hrest⟩ := ok_of_parser_bind hrest
    cases hrest
    exact .inr ⟨_, rfl⟩
  · obtain ⟨word, e', -, hrest⟩ := ok_of_parser_bind hrest
    cases word with
    | none =>
        cases hrest
    | some token =>
        have hmade : (statement >>= fun item => endOfBlock >>= fun _ =>
            Pure.pure (some (item :: items, false))) e' = .ok (grown, d) := by
          cases token <;> exact hrest
        obtain ⟨_, _, -, hmade⟩ := ok_of_parser_bind hmade
        obtain ⟨_, _, -, hmade⟩ := ok_of_parser_bind hmade
        cases hmade
        exact .inr ⟨_, rfl⟩
  · cases hrest

/-- What has been found stays, and nothing is added to it once the tokens have come to their end. -/
theorem suffix_of_statements {statement : Parser Statement} {steps : Nat}
    {state state' : List Statement × Bool} {c d : Cursor}
    (h : repeatWith (statementsStep statement) steps state c = .ok (state', d)) :
    state.1 <:+ state'.1 ∧ (state.2 = true → state'.1 = state.1) := by
  refine repeatWith_keeps (P := fun made => state.1 <:+ made.1 ∧ (state.2 = true → made = state))
    ?_ steps h ⟨List.suffix_refl _, fun _ => rfl⟩ |>.imp id fun himp hfinished => by
      rw [himp hfinished]
  rintro ⟨items, finished⟩ e ⟨items', finished'⟩ e' ⟨hsuffix, hdone⟩ hstep
  -- a finished state has no further step
  cases finished with
  | true =>
      cases hstep
  | false =>
      refine ⟨?_, fun hfinished => ?_⟩
      · obtain ⟨-, hgrown⟩ | ⟨item, hgrown⟩ := statementsStep_cases hstep
        · cases hgrown
          exact hsuffix
        · cases hgrown
          exact hsuffix.trans (List.suffix_cons ..)
      · rw [← hdone hfinished] at hfinished
        cases hfinished

theorem statementsStep_output {statement : Parser Statement} {items : List Statement}
    {grown : Option (List Statement × Bool)} {c d : Cursor} {line : Nat} {rest : List Placed}
    (hrest : c.rest = ⟨.outputStart, line⟩ :: rest)
    (h : statementsStep statement (items, false) c = .ok (grown, d)) :
    ∃ value b mark left, expr { c with rest := rest, line := line } = .ok (value, b) ∧
      b.rest = ⟨.outputEnd, mark⟩ :: left ∧ d = { b with rest := left, line := mark } ∧
      grown = some (.output value line :: items, false) := by
  obtain ⟨_, _, htoken, h⟩ := ok_of_parser_bind h
  rw [next?_of_cons hrest] at htoken
  cases htoken
  obtain ⟨_, _, hget, h⟩ := ok_of_parser_bind h
  cases hget
  obtain ⟨value, b, hexpr, h⟩ := ok_of_parser_bind h
  obtain ⟨_, _, hexpect, h⟩ := ok_of_parser_bind h
  obtain ⟨mark, left, hmark, rfl⟩ := expect_cases hexpect
  cases h
  exact ⟨value, b, mark, left, hexpr, hmark, rfl, rfl⟩

/-- Where there is one statement and no more, the tokens have come to their end. -/
theorem end_of_statements {statement : Parser Statement} {steps : Nat} {item only : Statement}
    {finished : Bool} {c d : Cursor}
    (h : repeatWith (statementsStep statement) (steps + 1) ([item], false) c =
      .ok (([only], finished), d)) : c.rest = [] ∧ c.fault = none ∧ only = item := by
  obtain ⟨grown, e, hstep, hmore⟩ := ok_of_parser_bind h
  obtain ⟨hnext, rfl⟩ | ⟨further, rfl⟩ := statementsStep_cases hstep
  · obtain ⟨-, hrest, hfault⟩ | ⟨_, _, _, hsome, -⟩ := next?_cases hnext
    · cases (suffix_of_statements hmore).2 rfl
      exact ⟨hrest, hfault, rfl⟩
    · cases hsome
  · have hlength := (suffix_of_statements hmore).1.length_le
    simp at hlength

section Output

variable {source : String} {e : Expr} {line : Nat} {blocks : List (String × List Statement)}
  (h : template source = .ok ⟨[.output e line], blocks⟩)

include h

/-- A template of one output is an expression between its two marks. -/
theorem expr_of_template {more : List Token}
    (hkinds : (Tokens.ofTemplate source).kinds = .outputStart :: more) :
    ∃ c d, c.rest.map Placed.token = more ∧ c.fault = (Tokens.ofTemplate source).fault ∧
      c.depth = 0 ∧ expr c = .ok (e, d) ∧ (∃ mark, d.rest = [⟨.outputEnd, mark⟩]) ∧
      d.fault = none := by
  obtain ⟨⟨_, first⟩, rest, htokens, rfl, rfl⟩ := List.map_eq_cons_iff.mp hkinds
  have hrest : (start (Tokens.ofTemplate source)).rest = ⟨.outputStart, first⟩ :: rest := htokens
  obtain ⟨made, hrun, hdocument⟩ := ok_of_map h
  have hrun : statementsUntil (statement _) [] (start (Tokens.ofTemplate source)) = .ok made := hrun
  rw [statementsUntil_eq] at hrun
  obtain ⟨⟨items, finished⟩, last, hgrow, hfound⟩ := ok_of_parser_bind hrun
  cases hfound
  obtain rfl : items = [.output e line] :=
    List.reverse_eq_iff.mp (congrArg Document.statements hdocument)
  have hgrow : repeatWith (statementsStep _) ((start (Tokens.ofTemplate source)).rest.length + 1)
      ([], false) (start (Tokens.ofTemplate source)) = .ok (([.output e line], finished), last) :=
    hgrow
  rw [hrest] at hgrow
  -- the first statement is an output, and there is none behind it
  obtain ⟨grown, _, hstep, hmore⟩ := ok_of_parser_bind hgrow
  obtain ⟨value, d, mark, left, hexpr, hmark, rfl, rfl⟩ := statementsStep_output hrest hstep
  obtain ⟨rfl, hfault, hsame⟩ := end_of_statements hmore
  cases hsame
  exact ⟨_, d, rfl, rfl, rfl, hexpr, ⟨mark, hmark⟩, hfault⟩

theorem isClosed_of_template {more : List Token}
    (hkinds : (Tokens.ofTemplate source).kinds = .outputStart :: more) :
    (Tokens.ofTemplate source).IsClosed := by
  obtain ⟨c, d, hmore, hfault, -, hexpr, ⟨mark, hmark⟩, hnone⟩ := expr_of_template h hkinds
  have hbehind := behind_of_expr hexpr
  obtain ⟨front, hfront⟩ := hbehind.rest
  refine ⟨?_, ?_⟩
  · rw [← hfault, ← hbehind.fault]
    exact hnone
  · rw [hkinds, ← hmore, ← hfront, hmark, List.map_append, ← List.cons_append, List.getLast?_append]
    rfl

/-- What stands in a template of one output is the same expression by itself. -/
theorem expression_of_template {source' : String}
    (hkinds : (Tokens.ofTemplate source).kinds =
      .outputStart :: ((Tokens.ofExpression source').kinds ++ [.outputEnd]))
    (hnone : (Tokens.ofExpression source').fault = none) :
    ∃ e', expression source' = .ok e' ∧ e.Alike e' := by
  obtain ⟨c, d, hmore, -, hdepth, hexpr, ⟨mark, hmark⟩, -⟩ := expr_of_template h hkinds
  -- up to the closing mark the tokens are those of the expression
  have hinside : c.Inside (start (Tokens.ofExpression source')) := by
    refine ⟨?_, hnone, hdepth.symm⟩
    rw [hmore, List.takeWhile_append_of_pos]
    · simp [Tokens.kinds, start]
    · intro token htoken
      have hother : token ≠ .outputEnd := fun hend =>
        Tokens.outputEnd_not_mem_ofExpression source' (hend ▸ htoken)
      simpa using hother
  obtain ⟨e', d', hexpr', hdone, -, halike, -⟩ := Follows.expr hinside e d hexpr
  have hend : d'.rest = [] := by
    have htokens := hdone.tokens
    rw [hmark] at htokens
    exact List.map_eq_nil_iff.mp htokens
  have hwhole : wholeExpression (start (Tokens.ofExpression source')) = .ok (e', d') := by
    unfold wholeExpression
    rw [parser_bind_of_ok hexpr', parser_bind_of_ok (current?_of_nil hend hdone.fault)]
    rfl
  refine ⟨e', ?_, halike⟩
  unfold expression
  rw [StateT.run, hwhole]
  rfl

end Output

end Grammar

/-! ## A leaf of one output -/

namespace Leaf

/-- What stands between the marks of an output holds no marks of a template, and no control stands
next to the marks. -/
structure IsPlain (inner : List Char) : Prop where
  noOpening : ¬ ['\x7b', '\x7b'] <:+: inner
  noClosing : ¬ ['\x7d', '\x7d'] <:+: inner
  noBlock : ¬ ['\x7b', '%'] <:+: inner
  first : ∀ c ∈ inner.head?, Tokens.isControl c = false
  last : ∀ c ∈ inner.getLast?, Tokens.isControl c = false

theorem isPlain_iff {inner : List Char} :
    IsPlain inner ↔
      (!(Text.hasInfix ['\x7b', '\x7b'] inner || Text.hasInfix ['\x7d', '\x7d'] inner ||
          Text.hasInfix ['\x7b', '%'] inner) &&
        (inner.head?.all (!Tokens.isControl ·) && inner.getLast?.all (!Tokens.isControl ·))) =
        true := by
  simp only [Bool.and_eq_true, Bool.not_eq_true', Bool.eq_false_iff, ne_eq, Bool.or_eq_true, not_or,
    Text.hasInfix_iff, Option.all_eq_true]
  constructor
  · rintro ⟨hopening, hclosing, hblock, hfirst, hlast⟩
    exact ⟨⟨⟨hopening, hclosing⟩, hblock⟩, by simpa using hfirst, by simpa using hlast⟩
  · rintro ⟨⟨⟨hopening, hclosing⟩, hblock⟩, hfirst, hlast⟩
    exact ⟨hopening, hclosing, hblock, by simpa using hfirst, by simpa using hlast⟩

instance (inner : List Char) : Decidable (IsPlain inner) := decidable_of_iff _ isPlain_iff.symm

theorem hasMarks_of_outputOf? {s : String} {inner : List Char}
    (h : outputOf? s.toList = some inner) : hasMarks s = true := by
  obtain ⟨lead, trail, hcs, -⟩ := Tokens.exists_blanks s.toList
  have hopening : ['\x7b', '\x7b'] <:+: s.toList := by
    rw [hcs, Tokens.eq_of_outputOf? h]
    exact ⟨lead, inner ++ Tokens.closingMark ++ trail, by simp⟩
  have hcontains : Text.contains s "\x7b\x7b" = true := Text.hasInfix_iff.mpr hopening
  rw [hasMarks, hcontains, Bool.true_or]

/-- A text that is one plain output is its expression. -/
theorem ofText_of_isPlain {s : String} {inner : List Char}
    (h : outputOf? s.toList = some inner) (hplain : IsPlain inner) :
    ofText s = .expression (String.ofList (Text.trimChars inner)) := by
  have hmarks := (Bool.and_eq_true_iff.mp (isPlain_iff.mp hplain)).1
  have hwhole : wholeExpression? s = some (String.ofList (Text.trimChars inner)) := by
    rw [wholeExpression?, h, Option.filter_some, hmarks]
    rfl
  rw [ofText, if_pos (hasMarks_of_outputOf? h), hwhole]

/-- A text that is one output is a template if marks of a template stand within its own. -/
theorem ofText_of_marks {s : String} {inner : List Char} (h : outputOf? s.toList = some inner)
    (hmarks : ['\x7b', '\x7b'] <:+: inner ∨ ['\x7d', '\x7d'] <:+: inner ∨
      ['\x7b', '%'] <:+: inner) :
    ofText s = .template s := by
  have hwhole : wholeExpression? s = none := by
    simp only [← Text.hasInfix_iff, ← Bool.or_eq_true, ← Bool.or_assoc] at hmarks
    rw [wholeExpression?, h, Option.filter_some, hmarks]
    rfl
  rw [ofText, if_pos (hasMarks_of_outputOf? h), hwhole]

/-- The expression of a plain output is the one that a template shows there. -/
theorem expression_of_isPlain {s : String} {inner : List Char} {e : Expr} {line : Nat}
    {blocks : List (String × List Statement)}
    (hread : Grammar.template (Text.trim s) = .ok ⟨[.output e line], blocks⟩)
    (houtput : outputOf? s.toList = some inner) (hplain : IsPlain inner) :
    ∃ e', Grammar.expression (String.ofList (Text.trimChars inner)) = .ok e' ∧ e.Alike e' := by
  -- that the output is closed is known from its being read as one
  obtain ⟨first, hfirst⟩ := Tokens.ofTemplate_outputStart houtput
  have hclosed := Grammar.isClosed_of_template hread (congrArg Tokens.kinds hfirst)
  obtain ⟨hfault, hkinds⟩ :=
    Tokens.ofTemplate_output houtput hplain.noClosing hplain.first hplain.last hclosed
  exact Grammar.expression_of_template hread hkinds hfault

end Leaf
end Template

namespace OutputTemplate

open Template

/-! ## The value of an output -/

/-- A text has the value of an expression, with its type, and none where that is undefined; without
a value of the expression it fails for the same reason. -/
structure RendersAs (context : Value) (s : String) (e : Expr) (levels : Nat) : Prop where
  undefined : ∀ value, e.eval levels context = .ok value → value.isUndefined = true →
    renderText context s = .ok none
  defined : ∀ value json, e.eval levels context = .ok value → value.isUndefined = false →
    value.toJson = .ok json → renderText context s = .ok (some json)
  noAnswer : ∀ value fault, e.eval levels context = .ok value → value.isUndefined = false →
    value.toJson = .error fault →
    renderText context s = .error (.unrendered s (fault.message "<expression>"))
  noValue : ∀ fault, e.eval levels context = .error fault →
    ∃ fault' : Fault, fault'.unplaced = fault.unplaced ∧
      renderText context s = .error (.unrendered s (fault'.message "<expression>"))

theorem renderText_of_expression {s source : String} {e : Expr}
    (hleaf : Leaf.ofText s = .expression source) (hparse : Grammar.expression source = .ok e)
    (context : Value) :
    renderText context s =
      (Leaf.Compiled.eval context (.expression e (levelsFor source))).mapError fun fault =>
        .unrendered s (fault.message "<expression>") := by
  have hboth : (Leaf.ofText s).compile >>= Leaf.Compiled.eval context =
      Leaf.Compiled.eval context (.expression e (levelsFor source)) := by
    rw [hleaf, Leaf.compile, hparse]
    rfl
  rw [renderText, hboth, hleaf]
  cases Leaf.Compiled.eval context (.expression e (levelsFor source)) <;> rfl

theorem rendersAs_of_alike {s source : String} {e e' : Expr}
    (hleaf : Leaf.ofText s = .expression source) (hparse : Grammar.expression source = .ok e')
    (halike : e.Alike e') (context : Value) : RendersAs context s e (levelsFor source) := by
  have hrender := renderText_of_expression hleaf hparse context
  have hvalue : ∀ value, e.eval (levelsFor source) context = .ok value →
      e'.eval (levelsFor source) context = .ok value := by
    intro value heval
    obtain ⟨_, hsame, hsame'⟩ | ⟨_, _, hfault, -⟩ := outcomes_of_mapError (halike.eval _ context)
    · rwa [hsame', ← hsame]
    · rw [heval] at hfault
      cases hfault
  constructor
  · intro value heval hundefined
    rw [hrender, Leaf.Compiled.eval, hvalue value heval]
    simp [bind, Except.bind, hundefined, Except.mapError, pure, Except.pure]
  · intro value json heval hdefined hjson
    rw [hrender, Leaf.Compiled.eval, hvalue value heval]
    simp [bind, Except.bind, hdefined, hjson, Except.mapError, pure, Except.pure]
  · intro value fault heval hdefined hjson
    rw [hrender, Leaf.Compiled.eval, hvalue value heval]
    simp [bind, Except.bind, hdefined, hjson, Except.mapError]
  · intro fault heval
    obtain ⟨_, hsome, -⟩ | ⟨_, fault', hfault, hfault', hsame⟩ :=
      outcomes_of_mapError (halike.eval (levelsFor source) context)
    · rw [heval] at hsome
      cases hsome
    · rw [heval] at hfault
      cases hfault
      refine ⟨fault', hsame.symm, ?_⟩
      rw [hrender, Leaf.Compiled.eval, hfault']
      rfl

/-- Where marks of a template stand within an output, its value is only shown. -/
theorem output_with_marks_is_text {s : String} {inner : List Char}
    (houtput : Leaf.outputOf? s.toList = some inner)
    (hmarks : ['\x7b', '\x7b'] <:+: inner ∨ ['\x7d', '\x7d'] <:+: inner ∨
      ['\x7b', '%'] <:+: inner)
    {context : Value} {value : Option Json} (h : renderText context s = .ok value) :
    ∃ text, value = some (.string text) := by
  rw [renderText, Leaf.ofText_of_marks houtput hmarks, Leaf.compile] at h
  cases hparse : Grammar.template s with
  | error fault =>
      rw [hparse] at h
      cases h
  | ok document =>
      rw [hparse] at h
      cases heval : document.eval (levelsFor s) context with
      | error fault =>
          simp [Except.map, bind, Except.bind, Leaf.Compiled.eval, heval] at h
      | ok text =>
          simp [Except.map, bind, Except.bind, Leaf.Compiled.eval, heval, pure, Except.pure] at h
          exact ⟨text, h.symm⟩

/-- A text that is one plain output of an expression is right in its notation, and it has the value
of that expression in every context. -/
theorem output_keeps_value {s : String} {inner : List Char} {e : Expr} {line : Nat}
    {blocks : List (String × List Statement)}
    (hread : Grammar.template (Text.trim s) = .ok ⟨[.output e line], blocks⟩)
    (houtput : Leaf.outputOf? s.toList = some inner) (hplain : Leaf.IsPlain inner) :
    checkText s = .ok () ∧
      ∀ context, RendersAs context s e (levelsFor (String.ofList (Text.trimChars inner))) := by
  obtain ⟨e', hparse, halike⟩ := Leaf.expression_of_isPlain hread houtput hplain
  have hleaf := Leaf.ofText_of_isPlain houtput hplain
  refine ⟨?_, rendersAs_of_alike hleaf hparse halike⟩
  rw [checkText_eq_ok_iff, hleaf, Leaf.compile, hparse]
  exact ⟨_, rfl⟩

/-- Blanks around an output belong to nothing, nor do those around its expression. -/
theorem sum_keeps_value :
    checkText " \x7b\x7b value + 1 \x7d\x7d\n" = .ok () ∧
      ∀ context, RendersAs context " \x7b\x7b value + 1 \x7d\x7d\n"
        (.binary .add (.var "value" 1) (.literal (.integer 1)) 1) (levelsFor "value + 1") := by
  have hread : Grammar.template (Text.trim " \x7b\x7b value + 1 \x7d\x7d\n") =
      .ok ⟨[.output (.binary .add (.var "value" 1) (.literal (.integer 1)) 1) 1], []⟩ := rfl
  have houtput : Leaf.outputOf? " \x7b\x7b value + 1 \x7d\x7d\n".toList =
      some " value + 1 ".toList := by
    decide
  have hsource : String.ofList (Text.trimChars " value + 1 ".toList) = "value + 1" := by
    decide
  rw [← hsource]
  exact output_keeps_value hread houtput (by decide)

/-- A minus that belongs to the mark of an output is taken as one of its expression. -/
theorem minus_of_mark_negates :
    Grammar.template (Text.trim "\x7b\x7b-value\x7d\x7d") =
        .ok ⟨[.output (.var "value" 1) 1], []⟩ ∧
      (Expr.var "value" 1).eval (levelsFor "value") (.ofJson (.object [("value", .ofNat 5)])) =
        .ok (.integer 5) ∧
      renderText (.ofJson (.object [("value", .ofNat 5)])) "\x7b\x7b-value\x7d\x7d" =
        .ok (some (.ofInt (-5))) :=
  ⟨rfl, rfl, by decide +kernel⟩

end OutputTemplate
end EventRules
