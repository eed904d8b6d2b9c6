import EventRules.Proofs.Template.Lexing

/-!
# Scanning — the tokens of an output and of what stands in it

The tokens of an output are those of the expression in it, with a mark before and a mark behind them;
the lines may differ, as the expression begins behind the blanks.

* `Tokens.IsClosed` — tokens up to a closing mark behind which nothing stands;
* `Tokens.scan_output` — all tokens of an output up to its closing mark;
* `Tokens.ofTemplate_output` — the tokens of a text that is one output.
-/

namespace EventRules
namespace Template
namespace Tokens

/-! ## Steps of a scan -/

section Steps

variable {region : Region} {opened : Int} {cs : List Char}

theorem scan_gaps (h : cs.dropWhile isGap = []) (hregion : region ≠ .text) (steps : Nat)
    (opened : Int) (trim : Bool) (line : Nat) :
    scan (steps + 1) region opened trim cs line = ⟨[], none⟩ := by
  rw [scan]
  · simp [h]
  · exact hregion

theorem scan_closing {takes : Bool} {rest : List Char}
    (h : closing? .output (cs.dropWhile isGap) = some (takes, rest)) (steps : Nat) (trim : Bool)
    (line : Nat) :
    ∃ place, scan (steps + 1) .output 0 trim cs line =
      (scan steps .text 0 takes rest place).cons .outputEnd place := by
  have hsome : (cs.dropWhile isGap).isEmpty = false := by
    cases hshown : cs.dropWhile isGap with
    | nil =>
        rw [hshown] at h
        cases h
    | cons c more =>
        rfl
  refine ⟨lineAfter line cs (cs.dropWhile isGap), ?_⟩
  rw [scan]
  · simp [hsome, h]
  · simp

theorem scan_inner {token : Token} {rest : List Char} (hregion : region ≠ .text)
    (hclosing : opened = 0 → closing? region (cs.dropWhile isGap) = none)
    (h : inner (cs.dropWhile isGap) = .ok (token, rest)) (steps : Nat) (trim : Bool) (line : Nat) :
    ∃ place next, scan (steps + 1) region opened trim cs line =
      (scan steps region (opened + bracketChange token) false rest next).cons token place := by
  have hsome : (cs.dropWhile isGap).isEmpty = false := by
    cases hshown : cs.dropWhile isGap with
    | nil =>
        rw [hshown] at h
        cases h
    | cons c more =>
        rfl
  have hnone : (if opened = 0 then closing? region (cs.dropWhile isGap) else none) = none := by
    split
    · exact hclosing ‹_›
    · rfl
  refine ⟨lineAfter line cs (cs.dropWhile isGap),
    lineAfter (lineAfter line cs (cs.dropWhile isGap)) (cs.dropWhile isGap) rest, ?_⟩
  rw [scan]
  · simp only [hsome, hnone, h, Bool.false_eq_true, if_false]
  · exact hregion

theorem scan_fault {fault : Fault} (hregion : region ≠ .text) (hsome : cs.dropWhile isGap ≠ [])
    (hclosing : opened = 0 → closing? region (cs.dropWhile isGap) = none)
    (h : inner (cs.dropWhile isGap) = .error fault) (steps : Nat) (trim : Bool) (line : Nat) :
    ∃ place, scan (steps + 1) region opened trim cs line = stop fault place := by
  have hnone : (if opened = 0 then closing? region (cs.dropWhile isGap) else none) = none := by
    split
    · exact hclosing ‹_›
    · rfl
  refine ⟨lineAfter line cs (cs.dropWhile isGap), ?_⟩
  rw [scan]
  · simp only [List.isEmpty_iff, hsome, hnone, h, if_false]
  · exact hregion

end Steps

/-! ## The closing mark -/

theorem closing?_expression (opened : Int) (cs : List Char) :
    opened = 0 → closing? .expression (cs.dropWhile isGap) = none :=
  fun _ => rfl

theorem eq_of_closing? {cs rest : List Char} {takes : Bool}
    (h : closing? .output cs = some (takes, rest)) :
    cs = '\x7d' :: '\x7d' :: rest ∨
    ∃ control, isControl control = true ∧ cs = control :: '\x7d' :: '\x7d' :: rest := by
  unfold closing? at h
  split at h <;> first | contradiction | cases h
  · exact Or.inl rfl
  · exact Or.inr ⟨'-', by decide, rfl⟩
  · exact Or.inr ⟨'+', by decide, rfl⟩

/-- What stands in an output from some place on, and the blanks behind it: they are no part of it, no
closing mark stands in it, and no control stands before the mark behind it. -/
structure IsContent (cs blanks : List Char) : Prop where
  last : ∀ c ∈ cs.getLast?, Text.isBlank c = false
  blank : ∀ c ∈ blanks, Text.isBlank c = true
  noMark : ¬ ['\x7d', '\x7d'] <:+: cs
  noControl : ∀ c ∈ (cs ++ blanks).getLast?, isControl c = false

def closingMark : List Char := ['\x7d', '\x7d']

namespace IsContent

variable {cs blanks : List Char}

theorem suffix (h : IsContent cs blanks) {rest : List Char} (hrest : rest <:+ cs) :
    IsContent rest blanks := by
  obtain ⟨front, rfl⟩ := hrest
  refine ⟨fun c hc => h.last c ?_, h.blank, fun inside => h.noMark ?_, fun c hc => h.noControl c ?_⟩
  · simp [List.getLast?_append, Option.mem_def.mp hc]
  · exact inside.trans (List.suffix_append front rest).isInfix
  · rw [List.append_assoc, List.getLast?_append, Option.mem_def.mp hc]
    rfl

theorem endsTokens (h : IsContent cs blanks) : EndsTokens (blanks ++ closingMark) where
  head := by
    intro c hc
    cases hblanks : blanks with
    | nil =>
        rw [hblanks] at hc
        cases hc
        exact Or.inr rfl
    | cons _ rest =>
        rw [hblanks] at hc
        cases hc
        exact Or.inl (h.blank c (by simp [hblanks]))
  noQuote := by
    intro c hc
    rcases List.mem_append.mp hc with hc | hc
    · have hblank := h.blank c hc
      constructor <;> rintro rfl <;> exact absurd hblank (by decide)
    · simp only [closingMark, List.mem_cons, List.not_mem_nil, or_false, or_self] at hc
      subst hc
      decide

/-- A brace behind the content is the first of the closing mark. -/
theorem eq_of_closingMark (h : IsContent cs blanks) {rest : List Char}
    (heq : blanks ++ closingMark = '\x7d' :: rest) : blanks = [] ∧ rest = ['\x7d'] := by
  cases hblanks : blanks with
  | nil =>
      rw [hblanks] at heq
      cases heq
      exact ⟨rfl, rfl⟩
  | cons first more =>
      rw [hblanks] at heq
      cases heq
      exact absurd (h.blank '\x7d' (by simp [hblanks])) (by decide)

/-- An output is only closed too early by the last brace in it, which leaves a brace behind. -/
theorem rest_of_closing? (h : IsContent cs blanks) (some : cs ≠ []) {takes : Bool}
    {rest : List Char} (hclosing : closing? .output (cs ++ (blanks ++ closingMark)) =
      .some (takes, rest)) : rest = ['\x7d'] := by
  -- two braces are not both in the content, so that the second one is the first of the mark
  have hbraces : ∀ {cs : List Char}, IsContent cs blanks → cs ≠ [] →
      cs ++ (blanks ++ closingMark) = '\x7d' :: '\x7d' :: rest → rest = ['\x7d'] := by
    intro cs h some heq
    match cs with
    | [c] =>
        rw [List.cons_append, List.cons.injEq, List.nil_append] at heq
        obtain ⟨-, hmark⟩ := h.eq_of_closingMark heq.2
        cases hmark
        rfl
    | c :: d :: more =>
        cases heq
        exact absurd (List.prefix_append closingMark more).isInfix h.noMark
  rcases eq_of_closing? hclosing with heq | ⟨control, hcontrol, heq⟩
  · exact hbraces h some heq
  · match cs with
    | [c] =>
        rw [List.cons_append, List.cons.injEq, List.nil_append] at heq
        obtain ⟨rfl, hmark⟩ := heq
        obtain ⟨rfl, -⟩ := h.eq_of_closingMark hmark
        rw [h.noControl c rfl] at hcontrol
        cases hcontrol
    | c :: d :: more =>
        rw [List.cons_append, List.cons.injEq] at heq
        exact hbraces (h.suffix (List.suffix_cons ..)) (by simp) heq.2

end IsContent

/-! ## All tokens of an output -/

/-- The tokens without their lines. -/
def kinds (tokens : Tokens) : List Token := tokens.tokens.map Placed.token

@[simp] theorem kinds_cons (token : Token) (line : Nat) (more : Tokens) :
    (more.cons token line).kinds = token :: more.kinds := rfl

/-- Nothing stands behind a closing mark, and nothing is wrong up to it. -/
structure IsClosed (tokens : Tokens) : Prop where
  fault : tokens.fault = none
  last : tokens.kinds.getLast? = some .outputEnd

theorem IsClosed.of_cons {token : Token} {line : Nat} {more : Tokens}
    (h : (more.cons token line).IsClosed) (other : token ≠ .outputEnd) : more.IsClosed := by
  refine ⟨h.fault, ?_⟩
  have hlast := h.last
  rw [kinds_cons] at hlast
  cases hkinds : more.kinds with
  | nil =>
      rw [hkinds] at hlast
      cases hlast
      exact absurd rfl other
  | cons first rest =>
      rw [hkinds, List.getLast?_cons_cons] at hlast
      exact hlast

theorem not_isClosed_stop (fault : Fault) (line : Nat) : ¬ (stop fault line).IsClosed := by
  intro h
  cases h.fault

theorem isBlank_of_isGap {c : Char} (h : isGap c = true) : Text.isBlank c = true := by
  simp only [isGap, Bool.or_eq_true, decide_eq_true_eq] at h
  rcases h with (((rfl | rfl) | rfl) | rfl) | rfl <;> decide

/-- A blank begins no token. -/
theorem inner_of_isBlank {c : Char} (h : Text.isBlank c = true) (rest : List Char) :
    ∃ fault, inner (c :: rest) = .error fault := by
  have hcontinues := Token.not_continues (Or.inl h)
  have hword : Token.inWord c = false := by
    rw [Bool.eq_false_iff]
    intro hc
    rw [Token.continues_of_inWord hc] at hcontinues
    cases hcontinues
  simp only [Token.inWord, Char.isAlphanum, Bool.or_eq_false_iff] at hword
  obtain ⟨hline, halpha, hdigit⟩ := hword
  have hquote : ¬(c = '\'' ∨ c = '"') := by
    rintro (rfl | rfl) <;> exact absurd h (by decide)
  have hlong : longSigns.all (fun found => !found.head?.any Text.isBlank) = true := by
    decide
  have hnotLong : (c :: rest).take 2 ∉ longSigns := by
    intro hmem
    have hhead : (!Text.isBlank c) = true := List.all_eq_true.1 hlong _ hmem
    rw [h] at hhead
    cases hhead
  have hshort : shortSigns.all (fun c => !Text.isBlank c) = true := by
    decide
  have hnotShort : c ∉ shortSigns := by
    intro hmem
    have hhead := List.all_eq_true.1 hshort c hmem
    rw [h] at hhead
    cases hhead
  have hsign : sign? (c :: rest) = none := by
    simp only [sign?, List.contains_eq_mem, hnotLong, hnotShort, decide_false, Bool.false_eq_true,
      if_false]
  have hword : Token.word? (c :: rest) = none := by
    simp [Token.word?, Token.startsWord, hline, halpha]
  refine ⟨.malformed "unexpected character", ?_⟩
  simp only [inner, hdigit, hsign, hword]
  simp [hquote]

theorem closing?_of_isBlank {c : Char} (h : Text.isBlank c = true) (rest : List Char) :
    closing? .output (c :: rest) = none := by
  rw [Option.eq_none_iff_forall_ne_some]
  rintro ⟨takes, left⟩ hclosing
  rcases eq_of_closing? hclosing with heq | ⟨control, hcontrol, heq⟩
  · cases heq
    exact absurd h (by decide)
  · cases heq
    simp only [isControl, Bool.or_eq_true, decide_eq_true_eq] at hcontrol
    rcases hcontrol with rfl | rfl <;> exact absurd h (by decide)

/-- White space that may not stand between tokens is a fault. -/
theorem gaps_of_isClosed {blanks rest : List Char} (hblanks : ∀ c ∈ blanks, Text.isBlank c = true)
    {steps : Nat} {opened : Int} {trim : Bool} {line : Nat}
    (h : (scan (steps + 1) .output opened trim (blanks ++ rest) line).IsClosed) :
    ∀ c ∈ blanks, isGap c = true := by
  cases hshown : blanks.dropWhile isGap with
  | nil =>
      exact List.dropWhile_eq_nil_iff.mp hshown
  | cons c more =>
      have hblank : Text.isBlank c = true :=
        hblanks c ((List.dropWhile_suffix isGap).subset (hshown ▸ List.mem_cons_self))
      have hfront : (blanks ++ rest).dropWhile isGap = c :: (more ++ rest) := by
        rw [List.dropWhile_append, hshown]
        rfl
      obtain ⟨fault, hfault⟩ := inner_of_isBlank hblank (more ++ rest)
      have hclosing : opened = 0 → closing? .output ((blanks ++ rest).dropWhile isGap) = none := by
        intro _
        rw [hfront]
        exact closing?_of_isBlank hblank _
      obtain ⟨place, hscan⟩ := scan_fault (by decide) (by rw [hfront]; simp) hclosing
        (hfront ▸ hfault) steps trim line
      rw [hscan] at h
      exact absurd h (not_isClosed_stop fault place)

/-- A brace by itself closes no output, and what is left of a closing mark is text. -/
theorem not_isClosed_of_brace (steps : Nat) (opened : Int) (trim : Bool) (line : Nat) :
    ¬ (scan (steps + 1) .output opened trim ['\x7d'] line).IsClosed := by
  intro h
  have hclosing : opened = 0 → closing? .output (['\x7d'].dropWhile isGap) = none := fun _ => rfl
  have hinner : inner (['\x7d'].dropWhile isGap) = .ok (.sign "\x7d", []) := rfl
  obtain ⟨place, next, hscan⟩ := scan_inner (by decide) hclosing hinner steps trim line
  rw [hscan] at h
  have hrest := h.of_cons (by simp)
  cases steps with
  | zero =>
      cases hrest.last
  | succ steps =>
      rw [scan_gaps rfl (by decide)] at hrest
      cases hrest.last

theorem not_isClosed_of_brace_behind (steps : Nat) (trim : Bool) (line place : Nat) :
    ¬ ((scan (steps + 1) .text 0 trim ['\x7d'] line).cons .outputEnd place).IsClosed := by
  intro h
  cases trim <;> cases h.last

/-- Where only the closing mark is left it closes the output, as it would not if a bracket was open. -/
theorem kinds_of_closingMark {blanks : List Char} (hblanks : ∀ c ∈ blanks, Text.isBlank c = true)
    {steps : Nat} {opened : Int} {trim : Bool} {line : Nat}
    (closed : (scan (steps + 2) .output opened trim (blanks ++ closingMark) line).IsClosed) :
    (scan (steps + 2) .output opened trim (blanks ++ closingMark) line).kinds = [.outputEnd] := by
  have hgaps := gaps_of_isClosed hblanks closed
  have hmark : (blanks ++ closingMark).dropWhile isGap = closingMark := by
    rw [List.dropWhile_append_of_pos hgaps]
    rfl
  by_cases hopened : opened = 0
  · subst hopened
    have hclosing : closing? .output ((blanks ++ closingMark).dropWhile isGap) =
        some (false, []) := by
      rw [hmark]
      rfl
    obtain ⟨place, hscan⟩ := scan_closing hclosing (steps + 1) trim line
    rw [hscan]
    rfl
  · have hclosing : opened = 0 →
        closing? .output ((blanks ++ closingMark).dropWhile isGap) = none :=
      fun h => absurd h hopened
    have hinner : inner ((blanks ++ closingMark).dropWhile isGap) =
        .ok (.sign "\x7d", ['\x7d']) := by
      rw [hmark]
      rfl
    obtain ⟨place, next, hscan⟩ := scan_inner (by decide) hclosing hinner (steps + 1) trim line
    rw [hscan] at closed
    exact (not_isClosed_of_brace _ _ _ _ (closed.of_cons (by simp))).elim

/-- The tokens of an output are those of the expression in it, and the closing mark. -/
theorem scan_output {blanks : List Char} (steps steps' : Nat) {cs : List Char}
    (content : IsContent cs blanks) (hsteps : cs.length + blanks.length + 2 < steps)
    (hsteps' : cs.length < steps') (opened : Int) (trim trim' : Bool) (line line' : Nat)
    (closed : (scan steps .output opened trim (cs ++ (blanks ++ closingMark)) line).IsClosed) :
    (scan steps' .expression opened trim' cs line').fault = none ∧
    (scan steps .output opened trim (cs ++ (blanks ++ closingMark)) line).kinds =
      (scan steps' .expression opened trim' cs line').kinds ++ [.outputEnd] := by
  induction steps generalizing steps' cs opened trim trim' line line' with
  | zero =>
      omega
  | succ steps ih =>
      obtain ⟨left, rfl⟩ : ∃ left, steps = left + 1 := ⟨steps - 1, by omega⟩
      obtain ⟨steps', rfl⟩ : ∃ n, steps' = n + 1 := ⟨steps' - 1, by omega⟩
      cases hshown : cs.dropWhile isGap with
      | nil =>
          have hempty : cs = [] := by
            cases hlast : cs.getLast? with
            | none =>
                exact List.getLast?_eq_none_iff.mp hlast
            | some c =>
                have hblank := content.last c hlast
                rw [isBlank_of_isGap (List.dropWhile_eq_nil_iff.mp hshown c
                  (List.mem_of_getLast? hlast))] at hblank
                cases hblank
          subst hempty
          rw [scan_gaps hshown (by decide)]
          exact ⟨rfl, kinds_of_closingMark content.blank closed⟩
      | cons first more =>
          have hsuffix : first :: more <:+ cs := hshown ▸ List.dropWhile_suffix isGap
          have hfront : (cs ++ (blanks ++ closingMark)).dropWhile isGap =
              first :: more ++ (blanks ++ closingMark) := by
            rw [List.dropWhile_append, hshown]
            rfl
          have hclosing : opened = 0 →
              closing? .output ((cs ++ (blanks ++ closingMark)).dropWhile isGap) = none := by
            rintro rfl
            rw [Option.eq_none_iff_forall_ne_some]
            rintro ⟨takes, rest⟩ hsome
            obtain ⟨place, hscan⟩ := scan_closing hsome (left + 1) trim line
            rw [hfront] at hsome
            obtain rfl := (content.suffix hsuffix).rest_of_closing? (by simp) hsome
            rw [hscan] at closed
            exact (not_isClosed_of_brace_behind _ _ _ _ closed).elim
          have hinner := inner_append content.endsTokens (List.cons_ne_nil first more)
          cases hfound : inner (first :: more) with
          | error fault =>
              rw [hfound, ← hfront] at hinner
              obtain ⟨place, hscan⟩ := scan_fault (by decide) (by rw [hfront]; simp) hclosing hinner
                (left + 1) trim line
              rw [hscan] at closed
              exact absurd closed (not_isClosed_stop fault place)
          | ok found =>
              obtain ⟨token, rest⟩ := found
              rw [hfound, ← hfront] at hinner
              obtain ⟨hrest, hother⟩ := suffix_of_inner hfound
              have hlength : rest.length < cs.length :=
                Nat.lt_of_le_of_lt hrest.length_le hsuffix.length_le
              obtain ⟨place, next, hscan⟩ :=
                scan_inner (by decide) hclosing hinner (left + 1) trim line
              obtain ⟨place', next', hscan'⟩ :=
                scan_inner (by decide) (closing?_expression opened cs) (hshown ▸ hfound) steps' trim'
                  line'
              rw [hscan] at closed ⊢
              rw [hscan']
              obtain ⟨hfault, hkinds⟩ := ih steps'
                (content.suffix ((hrest.trans (List.suffix_cons ..)).trans hsuffix)) (by omega)
                (by omega) _ _ false next next' (closed.of_cons hother)
              refine ⟨hfault, ?_⟩
              rw [kinds_cons, kinds_cons, hkinds]
              rfl

/-! ## A text that is one output -/

/-- Gaps in front of the first token only count lines. -/
theorem scan_lead {region : Region} (hregion : region ≠ .text) {lead : List Char}
    (hgaps : ∀ c ∈ lead, isGap c = true) (steps : Nat) (opened : Int) (trim : Bool)
    (cs : List Char) (line : Nat) :
    scan (steps + 1) region opened trim (lead ++ cs) line =
      scan (steps + 1) region opened trim cs (line + lineEnds lead) := by
  have hshown : (lead ++ cs).dropWhile isGap = cs.dropWhile isGap :=
    List.dropWhile_append_of_pos hgaps
  have hplace : lineAfter line (lead ++ cs) (cs.dropWhile isGap) =
      lineAfter (line + lineEnds lead) cs (cs.dropWhile isGap) := by
    have hle : lineEnds (cs.dropWhile isGap) ≤ lineEnds cs :=
      (List.dropWhile_sublist isGap).count_le '\n'
    simp only [lineAfter, lineEnds, List.count_append] at hle ⊢
    omega
  rw [scan, scan]
  · simp only [hshown, hplace]
  · exact hregion
  · exact hregion

theorem exists_blanks (cs : List Char) :
    ∃ lead trail, cs = lead ++ (Text.trimChars cs ++ trail) ∧
      (∀ c ∈ lead, Text.isBlank c = true) ∧ (∀ c ∈ trail, Text.isBlank c = true) ∧
      ∀ c ∈ (Text.trimChars cs).getLast?, Text.isBlank c = false := by
  refine ⟨cs.takeWhile Text.isBlank, ((Text.trimStart cs).reverse.takeWhile Text.isBlank).reverse,
    ?_, fun c hc => List.mem_takeWhile_imp hc,
    fun c hc => List.mem_takeWhile_imp (List.mem_reverse.mp hc), fun c hc => ?_⟩
  · have hback : Text.trimChars cs ++
        ((Text.trimStart cs).reverse.takeWhile Text.isBlank).reverse = Text.trimStart cs := by
      rw [Text.trimChars, Text.trimEnd, Text.trimStart, ← List.reverse_append,
        List.takeWhile_append_dropWhile, List.reverse_reverse]
    rw [hback]
    exact List.takeWhile_append_dropWhile.symm
  · rw [Text.trimChars, Text.trimEnd, List.getLast?_reverse, Text.trimStart,
      ← List.find?_not_eq_head?_dropWhile] at hc
    simpa using List.find?_some hc

/-- A text that is one output, apart from blanks, begins and ends with its marks. -/
theorem eq_of_outputOf? {cs inner : List Char} (h : Leaf.outputOf? cs = some inner) :
    Text.trimChars cs = '\x7b' :: '\x7b' :: (inner ++ closingMark) := by
  unfold Leaf.outputOf? at h
  split at h
  · rename_i rest htrim
    split at h
    · rename_i back hreverse
      cases h
      rw [htrim, ← List.reverse_reverse rest, hreverse]
      simp [closingMark]
    · cases h
  · cases h

theorem scan_outputStart (steps : Nat) (cs : List Char) :
    ∃ line, scan (steps + 1) .text 0 false ('\x7b' :: '\x7b' :: cs) 1 =
      (scan steps .output 0 false (afterOpening ('\x7b' :: '\x7b' :: cs)) line).cons .outputStart
        line := by
  refine ⟨1, ?_⟩
  have hspan : spanText ('\x7b' :: '\x7b' :: cs) = ([], '\x7b' :: '\x7b' :: cs) := by
    simp [spanText]
  have hplace : lineAfter 1 ('\x7b' :: '\x7b' :: cs) ('\x7b' :: '\x7b' :: cs) = 1 := by
    simp [lineAfter]
  rw [scan]
  simp only [Bool.false_eq_true, if_false, hspan, hplace]
  cases opensTrimmed ('\x7b' :: '\x7b' :: cs) <;> rfl

theorem afterOpening_of_not_isControl {cs : List Char} (h : ∀ c ∈ cs.head?, isControl c = false)
    (first second : Char) : afterOpening (first :: second :: cs) = cs := by
  cases cs with
  | nil =>
      rfl
  | cons c rest =>
      simp [afterOpening, h c rfl]

/-- The first token of a text that is one output. -/
theorem ofTemplate_outputStart {s : String} {inner : List Char}
    (h : Leaf.outputOf? s.toList = some inner) :
    ∃ line, ofTemplate (Text.trim s) =
      (scan ((inner ++ closingMark).length + 2) .output 0 false
        (afterOpening ('\x7b' :: '\x7b' :: (inner ++ closingMark))) line).cons .outputStart line := by
  have hdrop : dropLineEnd ('\x7b' :: '\x7b' :: (inner ++ closingMark)) =
      '\x7b' :: '\x7b' :: (inner ++ closingMark) := by
    have hbrace : ∀ c ∈ ('\x7b' :: '\x7b' :: (inner ++ closingMark)).getLast?, c = '\x7d' := by
      intro c hc
      rw [← List.cons_append, ← List.cons_append, List.getLast?_append] at hc
      cases hc
      rfl
    exact dropLineEnd_of_last (by decide) (by decide) hbrace
  unfold ofTemplate
  rw [Text.trim, String.toList_ofList, eq_of_outputOf? h, hdrop]
  exact scan_outputStart _ _

/-- Nothing ends an output in what stands in it by itself. -/
theorem outputEnd_not_mem_scan (steps : Nat) (opened : Int) (trim : Bool) (cs : List Char)
    (line : Nat) : .outputEnd ∉ (scan steps .expression opened trim cs line).kinds := by
  induction steps generalizing opened trim cs line with
  | zero =>
      simp [scan, kinds]
  | succ steps ih =>
      cases hshown : cs.dropWhile isGap with
      | nil =>
          rw [scan_gaps hshown (by simp)]
          simp [kinds]
      | cons first more =>
          cases hinner : inner (first :: more) with
          | error fault =>
              obtain ⟨place, hscan⟩ := scan_fault (by decide) (by rw [hshown]; simp)
                (closing?_expression opened cs) (hshown ▸ hinner) steps trim line
              rw [hscan]
              simp [kinds, stop]
          | ok found =>
              obtain ⟨token, rest⟩ := found
              obtain ⟨place, next, hscan⟩ := scan_inner (by decide)
                (closing?_expression opened cs) (hshown ▸ hinner) steps trim line
              rw [hscan, kinds_cons, List.mem_cons]
              rintro (hend | hmem)
              · exact (suffix_of_inner hinner).2 hend.symm
              · exact ih _ _ _ _ hmem

theorem outputEnd_not_mem_ofExpression (source : String) :
    .outputEnd ∉ (ofExpression source).kinds :=
  outputEnd_not_mem_scan _ _ _ _ _

/-- What is read of a text that is one output is what is read of the expression in it, between two
marks, as long as it holds no closing mark and no control stands next to the marks. -/
theorem ofTemplate_output {s : String} {inner : List Char}
    (h : Leaf.outputOf? s.toList = some inner) (hmark : ¬ closingMark <:+: inner)
    (hhead : ∀ c ∈ inner.head?, isControl c = false)
    (hlast : ∀ c ∈ inner.getLast?, isControl c = false)
    (closed : (ofTemplate (Text.trim s)).IsClosed) :
    (ofExpression (String.ofList (Text.trimChars inner))).fault = none ∧
    (ofTemplate (Text.trim s)).kinds = .outputStart ::
      ((ofExpression (String.ofList (Text.trimChars inner))).kinds ++ [.outputEnd]) := by
  obtain ⟨lead, trail, hinner, hlead, htrail, hend⟩ := exists_blanks inner
  generalize Text.trimChars inner = core at *
  obtain ⟨line, hsource⟩ := ofTemplate_outputStart h
  have hexpression : ofExpression (String.ofList core) =
      scan (core.length + 1) .expression 0 false core 1 := by
    unfold ofExpression
    rw [String.toList_ofList, dropLineEnd_of_last (by decide) (by decide) hend]
  have hopening : afterOpening ('\x7b' :: '\x7b' :: (inner ++ closingMark)) =
      lead ++ (core ++ (trail ++ closingMark)) := by
    rw [afterOpening_of_not_isControl]
    · rw [hinner, List.append_assoc, List.append_assoc]
    · intro c hc
      cases inner with
      | nil =>
          cases hc
          decide
      | cons first rest =>
          exact hhead c hc
  rw [hsource, hopening] at closed ⊢
  rw [hexpression]
  have hclosed := closed.of_cons (by simp)
  have hgaps := gaps_of_isClosed hlead hclosed
  rw [scan_lead (by decide) hgaps] at hclosed ⊢
  have content : IsContent core trail := by
    refine ⟨hend, htrail, fun inside => hmark ?_, fun c hc => hlast c ?_⟩
    · exact inside.trans ⟨lead, trail, by rw [hinner, List.append_assoc]⟩
    · rw [hinner, List.getLast?_append, Option.mem_def.mp hc]
      rfl
  have hlength : inner.length = lead.length + (core.length + trail.length) := by
    rw [hinner, List.length_append, List.length_append]
  obtain ⟨hfault, hkinds⟩ := scan_output ((inner ++ closingMark).length + 1 + 1) (core.length + 1)
    content (by rw [List.length_append]; simp [closingMark]; omega) (by omega) 0 false false
    (line + lineEnds lead) 1 hclosed
  refine ⟨hfault, ?_⟩
  rw [kinds_cons, hkinds]

end Tokens
end Template
end EventRules
