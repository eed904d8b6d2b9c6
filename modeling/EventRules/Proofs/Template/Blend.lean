import EventRules.Proofs.Template.Leaf

/-!
# Blend — texts with references in them

A text that holds more than one output, or letters around it, is a template whose value is a text
again.  Where its outputs are names or attributes of names, it comes to the letters that stand around
them with the data in the places of the names.  The data are shown as they stand: the notation is
read off the text of the template alone, and a mark that stands in the data is one character of many.

* `IsInert` — letters in which no mark begins; `Tokens.scan_inert`, `Tokens.leads_before` — how they
  are read, also with a reference behind them;
* `Grammar.Parses`, `Tells` — words that are an expression, and tokens that come to a text;
* `StandsFor` — the references that a context has data for;
* `Blend` — a text with references in it; `Blend.shown` — the text that it comes to;
* `OutputTemplate.renderText_blend` — that this is its value.
-/

namespace EventRules
namespace Template

/-! ## Texts that open nothing -/

/-- No mark of a template begins in the text, also not with what stands behind it. -/
structure IsInert (cs : List Char) : Prop where
  noOutput : ¬ ['\x7b', '\x7b'] <:+: cs
  noBlock : ¬ ['\x7b', '%'] <:+: cs
  noComment : ¬ ['\x7b', '#'] <:+: cs
  last : ∀ c ∈ cs.getLast?, c ≠ '\x7b'

/-- The same as a check that can be run. -/
theorem isInert_iff {cs : List Char} :
    IsInert cs ↔ (Text.hasInfix ['\x7b', '\x7b'] cs = false ∧
      Text.hasInfix ['\x7b', '%'] cs = false ∧ Text.hasInfix ['\x7b', '#'] cs = false) ∧
      cs.getLast?.all (· ≠ '\x7b') = true := by
  have hnot : ∀ part, Text.hasInfix part cs = false ↔ ¬ part <:+: cs := fun part => by
    rw [Bool.eq_false_iff, ne_eq, Text.hasInfix_iff]
  have hlast : cs.getLast?.all (· ≠ '\x7b') = true ↔ ∀ c ∈ cs.getLast?, c ≠ '\x7b' := by
    simp [Option.all_eq_true]
  rw [hnot, hnot, hnot, hlast]
  exact ⟨fun h => ⟨⟨h.noOutput, h.noBlock, h.noComment⟩, h.last⟩,
    fun ⟨⟨houtput, hblock, hcomment⟩, hlast⟩ => ⟨houtput, hblock, hcomment, hlast⟩⟩

instance (cs : List Char) : Decidable (IsInert cs) :=
  decidable_of_iff _ isInert_iff.symm

namespace IsInert

theorem tail {first : Char} {rest : List Char} (h : IsInert (first :: rest)) : IsInert rest := by
  have hsuffix : rest <:+ first :: rest := List.suffix_cons first rest
  refine ⟨fun inside => h.noOutput (inside.trans hsuffix.isInfix),
    fun inside => h.noBlock (inside.trans hsuffix.isInfix),
    fun inside => h.noComment (inside.trans hsuffix.isInfix), fun c hc => h.last c ?_⟩
  rw [List.getLast?_cons, Option.mem_def.1 hc]
  rfl

theorem second {c : Char} {rest : List Char} (h : IsInert ('\x7b' :: c :: rest)) :
    ¬ (c = '\x7b' || c = '%' || c = '#') = true := by
  simp only [Bool.or_eq_true, decide_eq_true_eq]
  rintro ((rfl | rfl) | rfl)
  · exact h.noOutput (List.prefix_append ['\x7b', '\x7b'] rest).isInfix
  · exact h.noBlock (List.prefix_append ['\x7b', '%'] rest).isInfix
  · exact h.noComment (List.prefix_append ['\x7b', '#'] rest).isInfix

end IsInert

namespace Tokens

theorem spanText_of_ne {c : Char} (h : c ≠ '\x7b') (rest : List Char) :
    spanText (c :: rest) = (c :: (spanText rest).1, (spanText rest).2) := by
  rw [spanText]
  rintro d more rfl
  exact absurd rfl h

/-- What stands before the first opening mark is all of an inert text. -/
theorem spanText_append {cs : List Char} (inert : IsInert cs) (rest : List Char)
    (hrest : spanText rest = ([], rest)) : spanText (cs ++ rest) = (cs, rest) := by
  induction cs with
  | nil =>
      exact hrest
  | cons first more ih =>
      have hmore := ih inert.tail
      -- a brace is part of the text as long as what follows it does not make a mark of it
      by_cases hfirst : first = '\x7b'
      · subst hfirst
        cases more with
        | nil =>
            exact absurd rfl (inert.last '\x7b' rfl)
        | cons second others =>
            rw [List.cons_append, List.cons_append, spanText, if_neg inert.second,
              ← List.cons_append, hmore]
      · rw [List.cons_append, spanText_of_ne hfirst, hmore]

/-! ## The tokens of a text and of a reference -/

/-- The token of a text that stands between others, unless it is empty. -/
def kindsOfText (cs : List Char) : List Token :=
  if cs.isEmpty then [] else [.text (String.ofList cs)]

theorem kinds_text (cs : List Char) (line : Nat) (more : Tokens) :
    (text cs line more).kinds = kindsOfText cs ++ more.kinds := by
  rw [text, kindsOfText]
  split <;> rfl

theorem fault_text (cs : List Char) (line : Nat) (more : Tokens) :
    (text cs line more).fault = more.fault := by
  rw [text]
  split <;> rfl

theorem scan_inert {cs : List Char} (inert : IsInert cs) (steps line : Nat) :
    ∃ start, scan (steps + 1) .text 0 false cs line = text cs start ⟨[], none⟩ := by
  have hspan := spanText_append inert [] rfl
  rw [List.append_nil] at hspan
  refine ⟨lineAfter line cs cs, ?_⟩
  rw [scan]
  simp only [Bool.false_eq_true, if_false, hspan, opensTrimmed]

theorem scan_before {cs : List Char} (inert : IsInert cs) (more : List Char) (steps line : Nat) :
    ∃ start place, scan (steps + 1) .text 0 false (cs ++ '\x7b' :: '\x7b' :: ' ' :: more) line =
      text cs start ((scan steps .output 0 false (' ' :: more) place).cons .outputStart place) := by
  have hspan := spanText_append inert ('\x7b' :: '\x7b' :: ' ' :: more) rfl
  have hafter : afterOpening ('\x7b' :: '\x7b' :: ' ' :: more) = ' ' :: more := rfl
  have hkeeps : opensTrimmed ('\x7b' :: '\x7b' :: ' ' :: more) = false := rfl
  have hstart : ∀ cs, lineAfter line cs cs = line := fun cs => by simp [lineAfter]
  refine ⟨line, line + lineEnds cs, ?_⟩
  rw [scan]
  simp only [Bool.false_eq_true, if_false, hspan, hstart, hkeeps, hafter]

/-- A word in an output, also behind a blank. -/
theorem scan_word_output {lead more rest : List Char} {first : Char} {name : String}
    (hlead : ∀ c ∈ lead, isGap c = true) (hfirst : Token.startsWord first = true)
    (hmore : ∀ c ∈ more, Token.inWord c = true) (hrest : ∀ c ∈ rest.head?, Token.inWord c = false)
    (hname : name.toList = first :: more) (steps line : Nat) :
    ∃ place next, scan (steps + 1) .output 0 false (lead ++ (name.toList ++ rest)) line =
      (scan steps .output 0 false rest next).cons (.name name) place := by
  have hback : String.ofList (first :: more) = name := by
    rw [← hname, String.ofList_toList]
  have hshown : (lead ++ first :: (more ++ rest)).dropWhile isGap = first :: (more ++ rest) := by
    rw [List.dropWhile_append_of_pos hlead,
      List.dropWhile_cons_of_neg (by simp [isGap_of_startsWord hfirst])]
  -- nothing that closes an output begins like a word
  have hclosing : closing? .output (first :: (more ++ rest)) = none := by
    rw [Option.eq_none_iff_forall_ne_some]
    rintro ⟨takes, left⟩ hsome
    rcases eq_of_closing? hsome with heq | ⟨control, hcontrol, heq⟩
    · exact startsWord_ne hfirst (by decide) (List.cons.inj heq).1
    · simp only [isControl, Bool.or_eq_true, decide_eq_true_eq] at hcontrol
      have hsame := (List.cons.inj heq).1
      rcases hcontrol with rfl | rfl
      · exact startsWord_ne hfirst (by decide) hsame
      · exact startsWord_ne hfirst (by decide) hsame
  have hinner := inner_word hfirst hmore hrest
  rw [← hshown, hback] at hinner
  rw [← hshown] at hclosing
  rw [hname]
  exact scan_inner (by decide) (fun _ => hclosing) hinner steps false line

theorem scan_point_output (first : Char) (rest : List Char) (steps line : Nat) :
    ∃ place next, scan (steps + 1) .output 0 false ('.' :: first :: rest) line =
      (scan steps .output 0 false (first :: rest) next).cons (.sign ".") place := by
  have hshown : ('.' :: first :: rest).dropWhile isGap = '.' :: first :: rest := by
    rw [List.dropWhile_cons_of_neg (by decide)]
  exact scan_inner (by decide) (fun _ => hshown ▸ rfl) (hshown ▸ inner_point first rest) steps
    false line

/-- The closing mark behind a reference, and the text behind that. -/
theorem scan_behind (rest : List Char) (steps line : Nat) :
    ∃ place, scan (steps + 1) .output 0 false (' ' :: '\x7d' :: '\x7d' :: rest) line =
      (scan steps .text 0 false rest place).cons .outputEnd place :=
  scan_closing rfl steps false line

/-- Some words, and then what there is behind them. -/
structure Leads (words : List Token) (made rest : Tokens) : Prop where
  kinds : made.kinds = words ++ rest.kinds
  fault : made.fault = rest.fault

namespace Leads

variable {words others : List Token} {made between rest : Tokens}

theorem of_cons {token : Token} {line : Nat} (h : made = rest.cons token line) :
    Leads [token] made rest := by
  subst h
  exact ⟨rfl, rfl⟩

theorem of_text {cs : List Char} {line : Nat} (h : made = text cs line rest) :
    Leads (kindsOfText cs) made rest := by
  subst h
  exact ⟨kinds_text cs line rest, fault_text cs line rest⟩

theorem trans (h : Leads words made between) (h' : Leads others between rest) :
    Leads (words ++ others) made rest :=
  ⟨by rw [h.kinds, h'.kinds, List.append_assoc], h.fault.trans h'.fault⟩

end Leads

/-- The tokens of a name, or of an attribute of one, in an output. -/
def Spells (source : String) (words : List Token) : Prop :=
  ∀ steps more line, ∃ next,
    Leads words
      (scan (steps + words.length) .output 0 false
        (' ' :: (source.toList ++ ' ' :: '\x7d' :: '\x7d' :: more)) line)
      (scan steps .output 0 false (' ' :: '\x7d' :: '\x7d' :: more) next)

theorem spells_name {name : String} (identifier : IsIdentifier name) :
    Spells name [.name name] := by
  intro steps more line
  obtain ⟨first, others, hname, hfirst, hothers⟩ := identifier.chars
  have hblank : ∀ c ∈ [' '], isGap c = true := List.forall_mem_singleton.2 rfl
  have hbehind : ∀ c ∈ (' ' :: '\x7d' :: '\x7d' :: more).head?, Token.inWord c = false := by
    intro c hc
    cases hc
    decide
  obtain ⟨_, next, hscan⟩ := scan_word_output hblank hfirst hothers hbehind hname steps line
  exact ⟨next, .of_cons hscan⟩

theorem spells_field {name : String} (identifier : IsIdentifier name) :
    Spells ("action." ++ name) [.name "action", .sign ".", .name name] := by
  intro steps more line
  obtain ⟨first, others, hname, hfirst, hothers⟩ := identifier.chars
  let behind := ' ' :: '\x7d' :: '\x7d' :: more
  have hblank : ∀ c ∈ [' '], isGap c = true := List.forall_mem_singleton.2 rfl
  have hpoint : ∀ c ∈ ('.' :: (name.toList ++ behind)).head?, Token.inWord c = false := by
    intro c hc
    cases hc
    decide
  have hbehind : ∀ c ∈ behind.head?, Token.inWord c = false := by
    intro c hc
    cases hc
    decide
  have haction : ∀ c ∈ "ction".toList, Token.inWord c = true :=
    List.all_eq_true.1 (by decide)
  -- a word behind the blank, a point and a word
  obtain ⟨_, second, hfirstWord⟩ := scan_word_output hblank (by decide) haction hpoint
    (show "action".toList = 'a' :: "ction".toList from rfl) (steps + 2) line
  obtain ⟨_, third, hsign⟩ := scan_point_output first (others ++ behind) (steps + 1) second
  have hnone : ∀ c ∈ ([] : List Char), isGap c = true := by simp
  obtain ⟨_, next, hsecondWord⟩ :=
    scan_word_output hnone hfirst hothers hbehind hname steps third
  rw [← List.cons_append, ← hname] at hsign
  have hsource : ' ' :: (("action." ++ name).toList ++ behind) =
      [' '] ++ ("action".toList ++ '.' :: (name.toList ++ behind)) := by
    rw [String.toList_append, List.append_assoc]
    rfl
  refine ⟨next, ?_⟩
  rw [hsource]
  exact (Leads.of_cons hfirstWord).trans ((Leads.of_cons hsign).trans (.of_cons hsecondWord))

/-- A text, a reference behind it, and what follows. -/
theorem leads_before {cs : List Char} (inert : IsInert cs) {source : String} {words : List Token}
    (spells : Spells source words) (more : List Char) (steps line : Nat) :
    ∃ next, Leads (kindsOfText cs ++ ([.outputStart] ++ (words ++ [.outputEnd])))
      (scan (steps + 1 + words.length + 1) .text 0 false
        (cs ++ ((reference source).toList ++ more)) line)
      (scan steps .text 0 false more next) := by
  have hchars : cs ++ ((reference source).toList ++ more) =
      cs ++ '\x7b' :: '\x7b' :: ' ' :: (source.toList ++ ' ' :: '\x7d' :: '\x7d' :: more) := by
    rw [toList_reference]
    simp
  obtain ⟨_, place, hbefore⟩ := scan_before inert
    (source.toList ++ ' ' :: '\x7d' :: '\x7d' :: more) (steps + 1 + words.length) line
  obtain ⟨second, hwords⟩ := spells (steps + 1) more place
  obtain ⟨next, hbehind⟩ := scan_behind more steps second
  refine ⟨next, ?_⟩
  rw [hchars]
  exact (Leads.of_text hbefore).trans
    ((Leads.of_cons rfl).trans (hwords.trans (.of_cons hbehind)))

end Tokens

/-! ## The statements of a text and of a reference -/

namespace Grammar

/-- These words are read as an expression in an output. -/
def Parses (words : List Token) (holds : Expr → Prop) : Prop :=
  ∀ (c : Cursor) front mark more, front.map Placed.token = words →
    c.rest = front ++ ⟨.outputEnd, mark⟩ :: more → c.depth = 0 →
      ∃ e line, expr c = .ok (e, { c with rest := ⟨.outputEnd, mark⟩ :: more, line := line }) ∧
        holds e

theorem parses_name {name : String} (hname : name ∈ ["key", "value", "thng"]) :
    Parses [.name name] fun e => ∃ line, e = .var name line := by
  rintro ⟨rest, fault, line, depth, names, blocks, inRoutine, usesCaller⟩ front mark more hfront
    hrest hdepth
  obtain ⟨⟨_, first⟩, _, rfl, rfl, hnil⟩ := List.map_eq_cons_iff.1 hfront
  cases List.map_eq_nil_iff.1 hnil
  cases hrest
  cases hdepth
  -- no other name is read here, since words of the grammar are not taken for names
  simp only [List.mem_cons, List.not_mem_nil, or_false] at hname
  rcases hname with rfl | rfl | rfl
  · exact ⟨_, _, rfl, _, rfl⟩
  · exact ⟨_, _, rfl, _, rfl⟩
  · exact ⟨_, _, rfl, _, rfl⟩

theorem parses_field (name : String) :
    Parses [.name "action", .sign ".", .name name] fun e =>
      ∃ line second, e = .attribute (.var "action" line) name second := by
  rintro ⟨rest, fault, line, depth, names, blocks, inRoutine, usesCaller⟩ front mark more hfront
    hrest hdepth
  obtain ⟨⟨_, first⟩, _, rfl, rfl, hmore⟩ := List.map_eq_cons_iff.1 hfront
  obtain ⟨⟨_, second⟩, _, rfl, rfl, hlast⟩ := List.map_eq_cons_iff.1 hmore
  obtain ⟨⟨_, third⟩, _, rfl, rfl, hnil⟩ := List.map_eq_cons_iff.1 hlast
  cases List.map_eq_nil_iff.1 hnil
  cases hrest
  cases hdepth
  exact ⟨_, _, rfl, _, _, rfl⟩

/-- A statement is taken from the tokens. -/
theorem repeatWith_statement {statement : Parser Statement} {c d : Cursor} {item : Statement}
    {items : List Statement}
    (hstep : statementsStep statement (items, false) c = .ok (some (item :: items, false), d))
    (steps : Nat) :
    repeatWith (statementsStep statement) (steps + 1) (items, false) c =
      repeatWith (statementsStep statement) steps (item :: items, false) d := by
  rw [repeatWith, parser_bind_of_ok hstep]

theorem statementsStep_text {statement : Parser Statement} {c : Cursor} {s : String} {line : Nat}
    {rest : List Placed} (hrest : c.rest = ⟨.text s, line⟩ :: rest) (items : List Statement) :
    statementsStep statement (items, false) c =
      .ok (some (.text s :: items, false), { c with rest := rest, line := line }) := by
  have hstep : statementsStep statement (items, false) =
      next? >>= fun token => _ := rfl
  rw [hstep, parser_bind_of_ok (next?_of_cons hrest)]
  rfl

theorem statementsStep_reference (statement : Parser Statement) {c : Cursor} {words : List Token}
    {holds : Expr → Prop} (parses : Parses words holds) {front more : List Placed}
    {line mark : Nat} (hfront : front.map Placed.token = words)
    (hrest : c.rest = ⟨.outputStart, line⟩ :: (front ++ ⟨.outputEnd, mark⟩ :: more))
    (hdepth : c.depth = 0) (items : List Statement) :
    ∃ e, holds e ∧ statementsStep statement (items, false) c =
      .ok (some (.output e line :: items, false), { c with rest := more, line := mark }) := by
  obtain ⟨e, _, hexpr, hholds⟩ := parses
    { c with rest := front ++ ⟨.outputEnd, mark⟩ :: more, line := line } front mark more hfront rfl
    hdepth
  refine ⟨e, hholds, ?_⟩
  have hstep : statementsStep statement (items, false) =
      next? >>= fun token => _ := rfl
  rw [hstep, parser_bind_of_ok (next?_of_cons hrest)]
  show (expr >>= fun value => expect .outputEnd "end of variable block" >>= fun _ =>
    Pure.pure (some (Statement.output value line :: items, false))) _ = _
  rw [parser_bind_of_ok hexpr]
  rfl

/-- The tokens have come to their end. -/
theorem repeatWith_end {statement : Parser Statement} {c : Cursor} (hrest : c.rest = [])
    (hfault : c.fault = none) (items : List Statement) (steps : Nat) :
    repeatWith (statementsStep statement) (steps + 1) (items, false) c = .ok ((items, true), c) := by
  have hnext : next? c = .ok (none, c) := by
    rcases c with ⟨rest, fault, _⟩
    cases hrest
    cases hfault
    rfl
  have hstep : statementsStep statement (items, false) c = .ok (some (items, true), c) := by
    have hunfold : statementsStep statement (items, false) = next? >>= fun token => _ := rfl
    rw [hunfold, parser_bind_of_ok hnext]
    rfl
  rw [repeatWith, parser_bind_of_ok hstep]
  cases steps <;> rfl

end Grammar

/-! ## What statements show -/

def Shows (context : Json) (statement : Statement) (s : String) : Prop :=
  ∀ levels, Run.statement (evaluator (levels + 2)) statement (scopeOf context) =
    .ok (s, scopeOf context)

section Evaluation

variable {context : Json}

theorem shows_output {e : Expr} {value : Value} (h : HasValue context value e) (line : Nat) :
    Shows context (.output e line) value.display := by
  intro levels
  have hstep : Run.statement (evaluator (levels + 2)) (.output e line) =
      (evaluator (levels + 2)).value e >>= Run.shown := rfl
  rw [hstep]
  show ((evaluator (levels + 2)).value e (scopeOf context) >>= fun found =>
    Run.shown found.1 found.2) = _
  rw [h levels]
  rfl

theorem shows_text (context : Json) (s : String) : Shows context (.text s) s :=
  fun _ => rfl

theorem mapM_shows {statements : List Statement} {texts : List String}
    (h : List.Forall₂ (Shows context) statements texts) (levels : Nat) :
    statements.mapM (Run.statement (evaluator (levels + 2))) (scopeOf context) =
      .ok (texts, scopeOf context) := by
  induction h with
  | nil =>
      rfl
  | @cons statement s rest others hshows _ ih =>
      rw [List.mapM_cons]
      show (Run.statement (evaluator (levels + 2)) statement (scopeOf context) >>= fun found =>
        (rest.mapM (Run.statement (evaluator (levels + 2))) >>= fun more =>
          Pure.pure (found.1 :: more)) found.2) = _
      rw [hshows levels]
      show (rest.mapM (Run.statement (evaluator (levels + 2))) (scopeOf context) >>= fun more =>
        (Pure.pure (s :: more.1) : Run (List String)) more.2) = _
      rw [ih]
      rfl

/-- The text of a template is what its statements show, one after the other. -/
theorem eval_of_shows {statements : List Statement} {texts : List String}
    (h : List.Forall₂ (Shows context) statements texts) (levels : Nat) :
    (Document.mk statements []).eval (levels + 3) (.ofJson context) = .ok (String.join texts) := by
  have hrun : (evaluator (levels + 3)).run statements (scopeOf context) =
      (statements.mapM (Run.statement (evaluator (levels + 2))) (scopeOf context) >>= fun found =>
        (Pure.pure (String.join found.1) : Run String) found.2) := rfl
  have heval : (Document.mk statements []).eval (levels + 3) (.ofJson context) =
      ((evaluator (levels + 3)).run statements (scopeOf context)).map (·.1) := rfl
  rw [heval, hrun, mapM_shows h levels]
  rfl

end Evaluation

/-! ## Tokens that tell a text -/

open Grammar in
/-- Tokens whose statements show a text, wherever they are read. -/
def Tells (context : Json) (kinds : List Token) (shown : String) : Prop :=
  ∀ (statement : Parser Statement) (c : Cursor) items steps, c.rest.map Placed.token = kinds →
    c.fault = none → c.depth = 0 → kinds.length < steps →
      ∃ statements texts d, repeatWith (statementsStep statement) steps (items, false) c =
          .ok ((statements.reverse ++ items, true), d) ∧
        d.blocks = c.blocks ∧ List.Forall₂ (Shows context) statements texts ∧
        String.join texts = shown

namespace Tells

open Grammar

variable {context : Json} {kinds : List Token} {shown : String}

theorem nil (context : Json) : Tells context [] "" := by
  intro statement c items steps hrest hfault _ hsteps
  obtain ⟨left, rfl⟩ : ∃ left, steps = left + 1 := Nat.exists_eq_add_of_le' hsteps
  exact ⟨[], [], c, repeatWith_end (List.map_eq_nil_iff.1 hrest) hfault items left, rfl, .nil, rfl⟩

theorem text (h : Tells context kinds shown) (s : String) :
    Tells context (.text s :: kinds) (s ++ shown) := by
  intro statement c items steps hrest hfault hdepth hsteps
  obtain ⟨left, rfl⟩ : ∃ left, steps = left + 1 := Nat.exists_eq_add_of_le' (by omega)
  obtain ⟨⟨_, line⟩, rest, hcursor, rfl, hkinds⟩ := List.map_eq_cons_iff.1 hrest
  obtain ⟨statements, texts, d, hrun, hblocks, hshows, hjoin⟩ := h statement
    { c with rest := rest, line := line } (.text s :: items) left hkinds hfault hdepth
    (by simpa using hsteps)
  refine ⟨.text s :: statements, s :: texts, d, ?_, hblocks, .cons (shows_text context s) hshows, ?_⟩
  · rw [repeatWith_statement (statementsStep_text hcursor items), hrun]
    simp
  · rw [String.join_cons, hjoin]

theorem reference {words : List Token} {value : Value} (h : Tells context kinds shown)
    (parses : Parses words (HasValue context value)) :
    Tells context (.outputStart :: (words ++ .outputEnd :: kinds)) (value.display ++ shown) := by
  intro statement c items steps hrest hfault hdepth hsteps
  obtain ⟨left, rfl⟩ : ∃ left, steps = left + 1 := Nat.exists_eq_add_of_le' (by omega)
  obtain ⟨⟨_, line⟩, rest, hcursor, rfl, hkinds⟩ := List.map_eq_cons_iff.1 hrest
  obtain ⟨front, behind, rfl, hfront, hbehind⟩ := List.map_eq_append_iff.1 hkinds
  obtain ⟨⟨_, mark⟩, more, rfl, rfl, hmore⟩ := List.map_eq_cons_iff.1 hbehind
  obtain ⟨e, hvalue, hstep⟩ :=
    statementsStep_reference statement parses hfront hcursor hdepth items
  obtain ⟨statements, texts, d, hrun, hblocks, hshows, hjoin⟩ := h statement
    { c with rest := more, line := mark } (.output e line :: items) left hmore hfault hdepth
    (by simp at hsteps; omega)
  refine ⟨.output e line :: statements, value.display :: texts, d, ?_, hblocks,
    .cons (shows_output hvalue line) hshows, ?_⟩
  · rw [repeatWith_statement hstep, hrun]
    simp
  · rw [String.join_cons, hjoin]

theorem kindsOfText (h : Tells context kinds shown) (cs : List Char) :
    Tells context (Tokens.kindsOfText cs ++ kinds) (String.ofList cs ++ shown) := by
  cases cs with
  | nil =>
      simpa [Tokens.kindsOfText] using h
  | cons first rest =>
      exact h.text _

end Tells

/-! ## References that stand for data -/

/-- The references that a context has data for, and an attribute of the action that it lacks. -/
inductive StandsFor (context : Json) : String → Option Json → Prop
  | name {name : String} {found : Json} : name ∈ ["key", "value", "thng"] →
      context.get? name = some found → StandsFor context name (some found)
  | field {name : String} {action : Json} : IsIdentifier name →
      context.get? "action" = some action →
      StandsFor context ("action." ++ name) (action.get? name)

/-- What data are when a template is evaluated. -/
def valueOf (data : Option Json) : Value := (data.map Value.ofJson).getD .undefined

/-- How data are shown in a text: a text as it stands, and nothing for data that are missing. -/
def textOf (data : Option Json) : String := (valueOf data).display

theorem isIdentifier_of_mem {name : String} (hname : name ∈ ["key", "value", "thng"]) :
    IsIdentifier name := by
  simp only [List.mem_cons, List.not_mem_nil, or_false] at hname
  rcases hname with rfl | rfl | rfl <;> exact isIdentifier_iff.2 (by decide)

/-- The tokens of a reference, which are read as an expression with the value that it stands for. -/
theorem StandsFor.exists_words {context : Json} {source : String} {data : Option Json}
    (stands : StandsFor context source data) :
    ∃ words, Tokens.Spells source words ∧
      Grammar.Parses words (HasValue context (valueOf data)) ∧
      words.length ≤ source.toList.length := by
  cases stands with
  | name hname hfound =>
      have identifier := isIdentifier_of_mem hname
      refine ⟨_, Tokens.spells_name identifier, ?_, List.length_pos_iff.2 identifier.nonempty⟩
      intro c front mark more hfront hrest hdepth
      obtain ⟨e, line, hexpr, place, rfl⟩ :=
        Grammar.parses_name hname c front mark more hfront hrest hdepth
      have hnone : ∀ name ∈ ["key", "value", "thng"], name ∉ Scope.functionNames := by decide
      exact ⟨_, line, hexpr, hasValue_var (hnone _ hname) hfound place⟩
  | @field part action identifier hfound =>
      refine ⟨_, Tokens.spells_field identifier, ?_, ?_⟩
      · intro c front mark more hfront hrest hdepth
        obtain ⟨e, line, hexpr, place, second, rfl⟩ :=
          Grammar.parses_field part c front mark more hfront hrest hdepth
        exact ⟨_, line, hexpr, hasValue_attribute (by decide) hfound place second⟩
      · rw [String.toList_append, List.length_append]
        have hshort : 3 ≤ "action.".toList.length := by decide
        exact Nat.le_trans hshort (Nat.le_add_right _ _)

/-! ## Texts around references -/

/-- What a text is read as, and what it shows in a context. -/
structure ReadsAs (context : Json) (cs : List Char) (kinds : List Token) (shown : String) : Prop where
  scans : ∀ steps line, cs.length < steps →
    Tokens.Leads kinds (Tokens.scan steps .text 0 false cs line) ⟨[], none⟩
  tells : Tells context kinds shown

theorem ReadsAs.of_inert (context : Json) {cs : List Char} (inert : IsInert cs) :
    ReadsAs context cs (Tokens.kindsOfText cs) (String.ofList cs) where
  scans steps line hsteps := by
    obtain ⟨left, rfl⟩ : ∃ left, steps = left + 1 := Nat.exists_eq_add_of_le' (by omega)
    obtain ⟨start, hscan⟩ := Tokens.scan_inert inert left line
    exact .of_text hscan
  tells := by
    simpa using (Tells.nil context).kindsOfText cs

/-- A text and a reference before what has been read. -/
theorem ReadsAs.before {context : Json} {rest : List Char} {kinds : List Token} {shown : String}
    (h : ReadsAs context rest kinds shown) {cs : List Char} (inert : IsInert cs) {source : String}
    {data : Option Json} (stands : StandsFor context source data) :
    ∃ kinds, ReadsAs context (cs ++ ((reference source).toList ++ rest)) kinds
      (String.ofList cs ++ (textOf data ++ shown)) := by
  obtain ⟨words, spells, parses, hshort⟩ := stands.exists_words
  refine ⟨Tokens.kindsOfText cs ++ .outputStart :: (words ++ .outputEnd :: kinds), ?_, ?_⟩
  · intro steps line hsteps
    have hlength : (reference source).toList.length = source.toList.length + 6 := by
      rw [toList_reference]
      simp
    rw [List.length_append, List.length_append, hlength] at hsteps
    -- a step for the text with the mark behind it, one for each word, and one for the closing mark
    obtain ⟨left, rfl⟩ : ∃ left, steps = left + 1 + words.length + 1 :=
      ⟨steps - words.length - 2, by omega⟩
    obtain ⟨next, hleads⟩ := Tokens.leads_before inert spells rest left line
    have hrest := hleads.trans (h.scans left next (by omega))
    simpa using hrest
  · exact (h.tells.reference parses).kindsOfText cs

/-- A reference in a text, the data that it stands for, and the text behind it. -/
structure Mention where
  source : String
  data : Option Json
  behind : String

/-- A text with references in it. -/
structure Blend where
  lead : String
  mentions : List Mention

namespace Blend

def sourceFrom : (lead : String) → List Mention → String
  | lead, [] => lead
  | lead, mention :: rest => lead ++ (reference mention.source ++ sourceFrom mention.behind rest)

def shownFrom : (lead : String) → List Mention → String
  | lead, [] => lead
  | lead, mention :: rest => lead ++ (textOf mention.data ++ shownFrom mention.behind rest)

/-- The text as it stands in a template. -/
def source (blend : Blend) : String := sourceFrom blend.lead blend.mentions

/-- The text with the data in the places of the references. -/
def shown (blend : Blend) : String := shownFrom blend.lead blend.mentions

/-- The texts around the references open nothing, and no line end is dropped at the end. -/
structure Inert (blend : Blend) : Prop where
  lead : IsInert blend.lead.toList
  behind : ∀ mention ∈ blend.mentions, IsInert mention.behind.toList
  last : ∀ c ∈ blend.source.toList.getLast?, c ≠ '\n' ∧ c ≠ '\r'

theorem readsAs_sourceFrom {context : Json} {mentions : List Mention}
    (behind : ∀ mention ∈ mentions, IsInert mention.behind.toList)
    (stands : ∀ mention ∈ mentions, StandsFor context mention.source mention.data)
    {lead : String} (inert : IsInert lead.toList) :
    ∃ kinds, ReadsAs context (sourceFrom lead mentions).toList kinds (shownFrom lead mentions) := by
  induction mentions generalizing lead with
  | nil =>
      have hread := ReadsAs.of_inert context inert
      rw [String.ofList_toList] at hread
      exact ⟨_, hread⟩
  | cons first rest ih =>
      obtain ⟨kinds, hread⟩ := ih (fun mention hmem => behind mention (List.mem_cons_of_mem _ hmem))
        (fun mention hmem => stands mention (List.mem_cons_of_mem _ hmem))
        (behind first List.mem_cons_self)
      obtain ⟨kinds, hbefore⟩ := hread.before inert (stands first List.mem_cons_self)
      rw [String.ofList_toList] at hbefore
      refine ⟨kinds, ?_⟩
      rw [sourceFrom, String.toList_append, String.toList_append]
      exact hbefore

/-- What is read of a template that is such a text, and the text that it comes to. -/
theorem exists_document {context : Json} {blend : Blend} (inert : blend.Inert)
    (stands : ∀ mention ∈ blend.mentions, StandsFor context mention.source mention.data) :
    ∃ document, Grammar.template blend.source = .ok document ∧
      ∀ levels, document.eval (levels + 3) (.ofJson context) = .ok blend.shown := by
  obtain ⟨kinds, hread⟩ := readsAs_sourceFrom inert.behind stands inert.lead
  have hleads := hread.scans (blend.source.toList.length + 1) 1 (Nat.lt_succ_self _)
  -- no line end is dropped, so the tokens are those of the whole text
  have htokens : Tokens.ofTemplate blend.source =
      Tokens.scan (blend.source.toList.length + 1) .text 0 false blend.source.toList 1 := by
    unfold Tokens.ofTemplate
    rw [Tokens.dropLineEnd_of_last (by decide) (by decide) inert.last]
  have hkinds : (Tokens.ofTemplate blend.source).kinds = kinds := by
    rw [htokens]
    exact hleads.kinds.trans (List.append_nil kinds)
  have hfault : (Tokens.ofTemplate blend.source).fault = none := by
    rw [htokens]
    exact hleads.fault
  -- the grammar reads them from its start, and has one statement for each text and each reference
  let c := Grammar.start (Tokens.ofTemplate blend.source)
  obtain ⟨statements, texts, d, hrun, hblocks, hshows, hjoin⟩ :=
    hread.tells (Grammar.statement (c.rest.length + 1)) c [] (c.rest.length + 1) hkinds hfault rfl
      (by rw [← hkinds, Tokens.kinds, List.length_map]; exact Nat.lt_succ_self _)
  refine ⟨⟨statements, []⟩, ?_, fun levels => ?_⟩
  · have hgrow : Grammar.grow (Grammar.statementsStep (Grammar.statement (c.rest.length + 1)))
        ([], false) c = .ok ((statements.reverse ++ [], true), d) := hrun
    have hwhole : Grammar.wholeTemplate c = .ok (statements, d) := by
      show Grammar.statementsUntil (Grammar.statement (c.rest.length + 1)) [] c = _
      rw [Grammar.statementsUntil_eq, Grammar.parser_bind_of_ok hgrow, List.append_nil]
      exact congrArg (fun found => Except.ok (found, d)) statements.reverse_reverse
    have htemplate : Grammar.template blend.source =
        (Grammar.wholeTemplate c).map fun found => ⟨found.1, found.2.blocks⟩ := rfl
    rw [htemplate, hwhole, Except.map, hblocks]
    rfl
  · rw [eval_of_shows hshows, hjoin]
    rfl

/-- A text without marks has no references. -/
theorem shown_of_unmarked {blend : Blend} (unmarked : Leaf.hasMarks blend.source = false) :
    blend.shown = blend.source := by
  rcases blend with ⟨lead, mentions⟩
  cases mentions with
  | nil =>
      rfl
  | cons first rest =>
      have hinside : ['\x7b', '\x7b'] <:+: (source ⟨lead, first :: rest⟩).toList := by
        rw [source, sourceFrom, String.toList_append, String.toList_append, toList_reference]
        exact ⟨lead.toList, _, by simp; rfl⟩
      have hcontains : Text.contains (source ⟨lead, first :: rest⟩) "\x7b\x7b" = true :=
        Text.hasInfix_iff.2 hinside
      rw [Leaf.hasMarks, hcontains, Bool.true_or] at unmarked
      cases unmarked

end Blend

end Template

namespace OutputTemplate

open Template

theorem renderText_of_standsFor {context : Json} {source : String} {data : Option Json}
    (stands : StandsFor context source data) :
    renderText (.ofJson context) (reference source) = .ok (data.map Json.canonical) := by
  cases stands with
  | name hname hfound =>
      exact renderText_reference_name hname hfound
  | field identifier hfound =>
      exact renderText_reference_attribute identifier hfound

/-- A text around references has as its value that text, with the data in the places of the
references as they stand, whatever marks they hold. -/
theorem renderText_blend {context : Json} {blend : Blend} (inert : blend.Inert)
    (stands : ∀ mention ∈ blend.mentions, StandsFor context mention.source mention.data)
    (mixed : Leaf.wholeExpression? blend.source = none) :
    renderText (.ofJson context) blend.source = .ok (some (.string blend.shown)) := by
  cases hmarks : Leaf.hasMarks blend.source with
  | false =>
      have hleaf : Leaf.ofText blend.source = .plain blend.source := by
        rw [Leaf.ofText, hmarks]
        rfl
      rw [renderText, hleaf, Blend.shown_of_unmarked hmarks]
      rfl
  | true =>
      have hleaf : Leaf.ofText blend.source = .template blend.source := by
        rw [Leaf.ofText, hmarks, mixed]
        rfl
      obtain ⟨document, hparse, heval⟩ := Blend.exists_document inert stands
      have hlevels : levelsFor blend.source = levelsFor blend.source - 3 + 3 := by
        rw [levelsFor, Run.depthLimit]
        omega
      have hcompile : (Leaf.ofText blend.source).compile =
          .ok (.template document (levelsFor blend.source)) := by
        rw [hleaf, Leaf.compile, hparse]
        rfl
      have hvalue : Leaf.Compiled.eval (.ofJson context)
          (.template document (levelsFor blend.source)) = .ok (some (.string blend.shown)) := by
        rw [Leaf.Compiled.eval, hlevels, heval]
        rfl
      have hboth : (Leaf.ofText blend.source).compile >>= Leaf.Compiled.eval (.ofJson context) =
          .ok (some (.string blend.shown)) := by
        rw [hcompile]
        exact hvalue
      rw [renderText, hboth]

end OutputTemplate
end EventRules
