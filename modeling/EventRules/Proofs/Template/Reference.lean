import Mathlib.Data.List.Basic
import EventRules.Proofs.Template.Conversion
import EventRules.Proofs.Text.Blank
import EventRules.Template.Output

/-!
# Reference — texts that name a part of the context

A text that is one output of a name, or of an attribute of a name, has as its value the part of the
context that it names.  The value is that part as it stands: it goes into the template and out again.

* `reference` — such a text; `Leaf.ofText_reference` — it is an expression;
* `Tokens.ofExpression_attribute` — the tokens of an attribute of any name;
* `renderText_reference_name`, `renderText_reference_attribute` — the values.
-/

namespace EventRules
namespace Template

/-- The text that is an output and nothing else. -/
def reference (source : String) : String := "\x7b\x7b " ++ source ++ " \x7d\x7d"

/-- A name of ASCII letters, digits and underscores that does not begin with a digit. -/
structure IsIdentifier (name : String) : Prop where
  nonempty : name.toList ≠ []
  letters : ∀ c ∈ name.toList, c = '_' ∨ c.isAlphanum = true
  start : ∀ c ∈ name.toList.head?, c = '_' ∨ c.isAlpha = true

/-- The same as a check that can be run. -/
theorem isIdentifier_iff {name : String} :
    IsIdentifier name ↔ name.toList ≠ [] ∧
      name.toList.all (fun c => c = '_' || c.isAlphanum) = true ∧
      name.toList.head?.all (fun c => c = '_' || c.isAlpha) = true := by
  have hletters : name.toList.all (fun c => c = '_' || c.isAlphanum) = true ↔
      ∀ c ∈ name.toList, c = '_' ∨ c.isAlphanum = true := by
    simp [List.all_eq_true]
  have hstart : name.toList.head?.all (fun c => c = '_' || c.isAlpha) = true ↔
      ∀ c ∈ name.toList.head?, c = '_' ∨ c.isAlpha = true := by
    simp [Option.all_eq_true]
  rw [hletters, hstart]
  exact ⟨fun h => ⟨h.nonempty, h.letters, h.start⟩,
    fun ⟨hne, hletters, hstart⟩ => ⟨hne, hletters, hstart⟩⟩

/-- The characters of a name: one that begins a word, and others that are in a word. -/
theorem IsIdentifier.chars {name : String} (identifier : IsIdentifier name) :
    ∃ first more, name.toList = first :: more ∧ Token.startsWord first = true ∧
      ∀ c ∈ more, Token.inWord c = true := by
  obtain ⟨hne, hletters, hstart⟩ := identifier
  cases hname : name.toList with
  | nil =>
      exact absurd hname hne
  | cons first more =>
      rw [hname] at hletters hstart
      refine ⟨first, more, rfl, ?_, fun c hc => ?_⟩
      · simpa [Token.startsWord] using hstart first rfl
      · simpa [Token.inWord] using hletters c (List.mem_cons_of_mem _ hc)

theorem IsIdentifier.inWord {name : String} (identifier : IsIdentifier name) :
    ∀ c ∈ name.toList, Token.inWord c = true := by
  intro c hc
  simpa [Token.inWord] using identifier.letters c hc

/-! ## Characters of names -/

/-- A character of a name, or the point between two names. -/
def inPath (c : Char) : Bool := Token.inWord c || c = '.'

theorem isBlank_of_inPath {c : Char} (h : inPath c = true) : Text.isBlank c = false := by
  have hranges : c = '_' ∨ c = '.' ∨ (48 ≤ c.toNat ∧ c.toNat ≤ 57) ∨
      (65 ≤ c.toNat ∧ c.toNat ≤ 90) ∨ (97 ≤ c.toNat ∧ c.toNat ≤ 122) := by
    have hval : c.val.toNat = c.toNat := rfl
    unfold inPath Token.inWord Char.isAlphanum Char.isAlpha Char.isUpper Char.isLower Char.isDigit
      at h
    simp only [Bool.or_eq_true, Bool.and_eq_true, decide_eq_true_eq,
      UInt32.le_iff_toNat_le, ge_iff_le, hval] at h
    rcases h with (h | (h | h) | h) | h
    · exact Or.inl h
    · exact Or.inr (Or.inr (Or.inr (Or.inl h)))
    · exact Or.inr (Or.inr (Or.inr (Or.inr h)))
    · exact Or.inr (Or.inr (Or.inl h))
    · exact Or.inr (Or.inl h)
  rcases hranges with rfl | rfl | h
  · decide
  · decide
  · simp only [Text.isBlank, Bool.or_eq_false_iff, Bool.and_eq_false_iff, decide_eq_false_iff_not,
      beq_eq_false_iff_ne]
    omega

theorem not_mem_of_inPath {cs : List Char} (h : ∀ c ∈ cs, inPath c = true) {mark : Char}
    (hmark : inPath mark = false) : mark ∉ cs := by
  intro hmem
  rw [h mark hmem] at hmark
  cases hmark

/-! ## The text as an expression -/

theorem hasInfix_of_not_mem {part cs : List Char} {mark : Char} (hpart : mark ∈ part)
    (hcs : mark ∉ cs) : Text.hasInfix part cs = false := by
  rw [Bool.eq_false_iff, ne_eq, Text.hasInfix_iff]
  intro hpresent
  exact hcs (hpresent.subset hpart)

theorem toList_reference (source : String) :
    (reference source).toList =
      '\x7b' :: '\x7b' :: ' ' :: (source.toList ++ [' ', '\x7d', '\x7d']) := by
  rw [reference, String.toList_append, String.toList_append]
  rfl

/-- A reference is an expression, whatever names it is made of. -/
theorem ofText_reference {source : String} (hne : source.toList ≠ [])
    (hpath : source.toList.all inPath = true) :
    Leaf.ofText (reference source) = .expression source := by
  have h := List.all_eq_true.1 hpath
  have hopen : '\x7b' ∉ ' ' :: (source.toList ++ [' ']) := by
    simpa using not_mem_of_inPath h (by decide)
  have hclose : '\x7d' ∉ ' ' :: (source.toList ++ [' ']) := by
    simpa using not_mem_of_inPath h (by decide)
  -- the text has marks, and they are those of one output around it
  have hmarks : Leaf.hasMarks (reference source) = true := by
    rw [Leaf.hasMarks, Text.contains, toList_reference]
    rfl
  have houtput : Leaf.outputOf? (reference source).toList =
      some (' ' :: (source.toList ++ [' '])) := by
    have htrim : Text.trimChars (reference source).toList = (reference source).toList := by
      have hends : Text.trimChars
          ('\x7b' :: ('\x7b' :: ' ' :: (source.toList ++ [' ', '\x7d']) ++ ['\x7d'])) = _ :=
        Text.trimChars_of_ends (by decide) (by decide) _
      rw [toList_reference]
      simpa using hends
    have hreverse : (' ' :: (source.toList ++ [' ', '\x7d', '\x7d'])).reverse =
        '\x7d' :: '\x7d' :: (' ' :: (source.toList ++ [' '])).reverse := by
      simp
    rw [Leaf.outputOf?, htrim, toList_reference]
    simp only [hreverse, List.reverse_reverse]
  -- no character of a name is a mark or a blank, so that nothing else is taken off
  have hwhole : Leaf.wholeExpression? (reference source) = some source := by
    rw [Leaf.wholeExpression?, houtput, Option.filter_some,
      hasInfix_of_not_mem (by decide) hopen, hasInfix_of_not_mem (by decide) hclose,
      hasInfix_of_not_mem (by decide) hopen]
    simp only [Bool.or_self, Bool.not_false, if_true, Option.map_some]
    rw [Text.trimChars_spaced hne fun c hc => isBlank_of_inPath (h c hc), String.ofList_toList]
  rw [Leaf.ofText, if_pos hmarks, hwhole]

/-! ## The tokens of names -/

namespace Tokens

theorem startsWord_ne {c mark : Char} (h : Token.startsWord c = true)
    (hmark : Token.startsWord mark = false) : c ≠ mark := by
  rintro rfl
  rw [h] at hmark
  cases hmark

theorem not_isDigit_of_isAlpha {c : Char} (h : c.isAlpha = true) : c.isDigit = false := by
  unfold Char.isAlpha Char.isUpper Char.isLower at h
  simp only [Bool.or_eq_true, Bool.and_eq_true, decide_eq_true_eq, UInt32.le_iff_toNat_le,
    ge_iff_le] at h
  have hless : ¬ c.val.toNat ≤ '9'.val.toNat := by
    rcases h with ⟨hupper, -⟩ | ⟨hlower, -⟩
    · have : 'A'.val.toNat ≤ c.val.toNat := hupper
      exact Nat.not_le.2 (Nat.lt_of_lt_of_le (by decide) this)
    · have : 'a'.val.toNat ≤ c.val.toNat := hlower
      exact Nat.not_le.2 (Nat.lt_of_lt_of_le (by decide) this)
  simp only [Char.isDigit, Bool.and_eq_false_iff, decide_eq_false_iff_not,
    UInt32.le_iff_toNat_le, ge_iff_le]
  exact Or.inr hless

theorem isGap_of_startsWord {c : Char} (h : Token.startsWord c = true) : isGap c = false := by
  rw [Bool.eq_false_iff]
  intro hgap
  simp only [isGap, Bool.or_eq_true, decide_eq_true_eq] at hgap
  rcases hgap with (((rfl | rfl) | rfl) | rfl) | rfl <;> exact absurd h (by decide)

/-- A word is no literal and no sign. -/
theorem inner_word {first : Char} {more rest : List Char} (hfirst : Token.startsWord first = true)
    (hmore : ∀ c ∈ more, Token.inWord c = true) (hrest : ∀ c ∈ rest.head?, Token.inWord c = false) :
    inner (first :: (more ++ rest)) = .ok (.name (String.ofList (first :: more)), rest) := by
  have hquote : ¬(first = '\'' ∨ first = '"') := by
    rintro (h | h)
    · exact startsWord_ne hfirst (by decide) h
    · exact startsWord_ne hfirst (by decide) h
  have hdigit : first.isDigit = false := by
    rw [Token.startsWord, Bool.or_eq_true, decide_eq_true_eq] at hfirst
    rcases hfirst with rfl | halpha
    · decide
    · exact not_isDigit_of_isAlpha halpha
  have hsign : sign? (first :: (more ++ rest)) = none := by
    -- every sign begins with a character that begins no word
    have hlong : longSigns.all (fun found => !found.head?.any Token.startsWord) = true := by
      decide
    have hshort : shortSigns.all (fun c => !Token.startsWord c) = true := by
      decide
    have hnotLong : (first :: (more ++ rest)).take 2 ∉ longSigns := fun hmem => by
      have hhead : (!Token.startsWord first) = true := List.all_eq_true.1 hlong _ hmem
      rw [hfirst] at hhead
      cases hhead
    have hnotShort : first ∉ shortSigns := fun hmem => by
      have hhead := List.all_eq_true.1 hshort first hmem
      rw [hfirst] at hhead
      cases hhead
    simp only [sign?, List.contains_eq_mem, hnotLong, hnotShort, decide_false, Bool.false_eq_true,
      if_false]
  have hword : Token.word? (first :: (more ++ rest)) =
      some (.name (String.ofList (first :: more)), rest) := by
    have hstop : rest.takeWhile Token.inWord = [] ∧ rest.dropWhile Token.inWord = rest := by
      cases rest with
      | nil =>
          exact ⟨rfl, rfl⟩
      | cons c after =>
          have hc : Token.inWord c = false := hrest c rfl
          simp [hc]
    rw [Token.word?, if_pos hfirst, List.takeWhile_append_of_pos hmore,
      List.dropWhile_append_of_pos hmore, hstop.1, hstop.2, List.append_nil]
  simp only [inner, hdigit, hsign, hword]
  simp [hquote]

/-- A word is taken as one token, on the line on which it stands. -/
theorem scan_word {first : Char} {more rest : List Char} (hfirst : Token.startsWord first = true)
    (hmore : ∀ c ∈ more, Token.inWord c = true) (hrest : ∀ c ∈ rest.head?, Token.inWord c = false)
    (steps : Nat) (trim : Bool) (line : Nat) :
    scan (steps + 1) .expression 0 trim (first :: (more ++ rest)) line =
      (scan steps .expression 0 false rest line).cons (.name (String.ofList (first :: more)))
        line := by
  have hgap : isGap first = false := isGap_of_startsWord hfirst
  have hshown : (first :: (more ++ rest)).dropWhile isGap = first :: (more ++ rest) := by
    rw [List.dropWhile_cons_of_neg (by simp [hgap])]
  -- a word ends no line, so that the line behind it is the line before it
  have hends : lineEnds (first :: (more ++ rest)) = lineEnds rest := by
    have hnone : '\n' ∉ first :: more := by
      intro hmem
      rcases List.mem_cons.1 hmem with hnew | hlater
      · exact startsWord_ne hfirst (by decide) hnew.symm
      · have := hmore _ hlater
        revert this
        decide
    rw [← List.cons_append, lineEnds, List.count_append, List.count_eq_zero.2 hnone, lineEnds,
      Nat.zero_add]
  have hplace : ∀ cs, lineAfter line cs cs = line := by
    intro cs
    rw [lineAfter, Nat.sub_self, Nat.add_zero]
  have hbehind : lineAfter line (first :: (more ++ rest)) rest = line := by
    rw [lineAfter, hends, Nat.sub_self, Nat.add_zero]
  rw [scan]
  · simp only [hshown, hplace, hbehind, inner_word hfirst hmore hrest, List.isEmpty_cons, closing?,
      if_true, Bool.false_eq_true, if_false, bracketChange, Int.add_zero]
  · simp

theorem inner_point (first : Char) (rest : List Char) :
    inner ('.' :: first :: rest) = .ok (.sign ".", first :: rest) := by
  have hsign : sign? ('.' :: first :: rest) = some (.sign ".", first :: rest) := by
    simp [sign?, longSigns, shortSigns]
  simp only [inner, hsign]
  rfl

/-- A point between words is a token of its own. -/
theorem scan_point (first : Char) (rest : List Char) (steps : Nat) (line : Nat) :
    scan (steps + 1) .expression 0 false ('.' :: first :: rest) line =
      (scan steps .expression 0 false (first :: rest) line).cons (.sign ".") line := by
  have hinner := inner_point first rest
  have hends : lineEnds ('.' :: first :: rest) = lineEnds (first :: rest) := by
    rw [lineEnds, List.count_cons_of_ne (by decide), lineEnds]
  have hplace : ∀ cs, lineAfter line cs cs = line := by
    intro cs
    rw [lineAfter, Nat.sub_self, Nat.add_zero]
  have hbehind : lineAfter line ('.' :: first :: rest) (first :: rest) = line := by
    rw [lineAfter, hends, Nat.sub_self, Nat.add_zero]
  have hshown : ('.' :: first :: rest).dropWhile isGap = '.' :: first :: rest := by
    rw [List.dropWhile_cons_of_neg (by decide)]
  have hchange : bracketChange (.sign ".") = 0 := by decide
  rw [scan]
  · simp only [hshown, hplace, hbehind, hinner, hchange, List.isEmpty_cons, closing?, if_true,
      Bool.false_eq_true, if_false, Int.add_zero]
  · simp

/-- Nothing is dropped from a source that does not end with a line end. -/
theorem dropLineEnd_of_last {P : Char → Prop} (hline : ¬ P '\n') (hreturn : ¬ P '\r')
    {cs : List Char} (h : ∀ c ∈ cs.getLast?, P c) : dropLineEnd cs = cs := by
  have hne : ∀ mark, ¬ P mark → cs.getLast? ≠ some mark :=
    fun mark hmark hlast => hmark (h mark hlast)
  rw [dropLineEnd, if_neg (hne '\n' hline), if_neg (hne '\r' hreturn)]

/-- The tokens of an attribute, whatever name it has. -/
theorem ofExpression_attribute {name : String} (identifier : IsIdentifier name) :
    ofExpression ("action." ++ name) =
      ⟨[⟨.name "action", 1⟩, ⟨.sign ".", 1⟩, ⟨.name name, 1⟩], none⟩ := by
  obtain ⟨first, more, hname, hfirst, hmore⟩ := identifier.chars
  have hsource : ("action." ++ name).toList =
      'a' :: (['c', 't', 'i', 'o', 'n'] ++ '.' :: (first :: (more ++ []))) := by
    rw [String.toList_append, hname, List.append_nil]
    rfl
  have hlast : ∀ c ∈ ("action." ++ name).toList.getLast?, Token.inWord c = true := by
    intro c hc
    rw [String.toList_append, hname, List.getLast?_append_of_ne_nil _ (List.cons_ne_nil _ _),
      ← hname] at hc
    exact identifier.inWord c (List.mem_of_getLast? hc)
  have haction : ∀ c ∈ ['c', 't', 'i', 'o', 'n'], Token.inWord c = true :=
    List.all_eq_true.1 (by decide)
  have hpoint : ∀ c ∈ ('.' :: (first :: (more ++ []))).head?, Token.inWord c = false := by
    intro c hc
    cases hc
    decide
  have hback : String.ofList (first :: more) = name := by
    rw [← hname, String.ofList_toList]
  -- a word, a point and a word, each of them one step of the scan
  rw [ofExpression, dropLineEnd_of_last (by decide) (by decide) hlast, hsource]
  obtain ⟨steps, hsteps⟩ : ∃ steps,
      ('a' :: (['c', 't', 'i', 'o', 'n'] ++ '.' :: (first :: (more ++ [])))).length = steps + 3 :=
    ⟨_, rfl⟩
  rw [hsteps, scan_word (by decide) haction hpoint, scan_point first,
    scan_word hfirst hmore (by simp), scan, hback]
  · rfl
  · simp

end Tokens

/-! ## Names in a context -/

section Names

variable {context : Json} {name : String}

/-- A name stands for the part of the context under it, unless it is the name of a function. -/
theorem lookup_ofContext (h : name ∉ Scope.functionNames) :
    (Scope.ofContext (.ofJson context) []).lookup name = (context.get? name).map .ofJson := by
  have hframes : (Scope.ofContext (.ofJson context) []).frames.findSome?
      ((Scope.ofContext (.ofJson context) []).lookupIn name) = none := by
    simp [Scope.ofContext, Scope.lookupIn, Frame.empty]
  have hfunction : Scope.functionNames.contains name = false := by
    simpa using h
  rw [Scope.lookup, hframes, hfunction]
  have hcontext : (Scope.ofContext (.ofJson context) []).context = .ofJson context := rfl
  rw [hcontext, Value.attribute?_ofJson]
  cases context.get? name with
  | none =>
      rfl
  | some found =>
      exact congrArg some (Value.refreshed_ofJson _ found)

theorem value_ofContext (h : name ∉ Scope.functionNames) {found : Json}
    (hfound : context.get? name = some found) :
    ((Scope.ofContext (.ofJson context) []).lookup name).getD .undefined = .ofJson found := by
  rw [lookup_ofContext h, hfound]
  rfl

/-- The scope in which a text is run. -/
def scopeOf (context : Json) : Scope := Scope.ofContext (.ofJson context) []

/-- The value of an expression in a context, which it leaves as it was. -/
def HasValue (context : Json) (value : Value) (e : Expr) : Prop :=
  ∀ levels, (evaluator (levels + 2)).value e (scopeOf context) = .ok (value, scopeOf context)

theorem HasValue.eval {value : Value} {e : Expr} (h : HasValue context value e) (levels : Nat) :
    e.eval (levels + 2) (.ofJson context) = .ok value := by
  have hstep : e.eval (levels + 2) (.ofJson context) =
      ((evaluator (levels + 2)).value e (scopeOf context)).map (·.1) := rfl
  rw [hstep, h levels]
  rfl

/-- The value of a name. -/
theorem hasValue_var (h : name ∉ Scope.functionNames) {found : Json}
    (hfound : context.get? name = some found) (line : Nat) :
    HasValue context (.ofJson found) (.var name line) := by
  intro levels
  have hstep : (evaluator (levels + 2)).value (.var name line) (scopeOf context) =
      .ok (((scopeOf context).lookup name).getD .undefined, scopeOf context) := rfl
  rw [hstep, scopeOf, value_ofContext h hfound]

/-- The value of an attribute; one that is missing is undefined. -/
theorem hasValue_attribute {part : String} (h : name ∉ Scope.functionNames) {found : Json}
    (hfound : context.get? name = some found) (line place : Nat) :
    HasValue context (((found.get? part).map .ofJson).getD .undefined)
      (.attribute (.var name line) part place) := by
  have hpart : Run.namedPart (.ofJson found) part =
      .ok (((found.get? part).map .ofJson).getD .undefined) := by
    rw [Run.namedPart, Value.attribute?_ofJson]
    cases found.get? part with
    | none =>
        simp [Value.isUndefined_ofJson]
    | some value =>
        rfl
  intro levels
  have hstep : (evaluator (levels + 2)).value (.attribute (.var name line) part place)
        (scopeOf context) =
      (Run.onLine place (Run.namedPart
        (((scopeOf context).lookup name).getD .undefined) part)).run (scopeOf context) := rfl
  rw [hstep, scopeOf, value_ofContext h hfound, hpart]
  rfl

end Names

end Template

namespace OutputTemplate

open Template

/-! ## The values of references -/

/-- A value that is not undefined is the value of the text. -/
theorem renderText_of_eval {context : Value} {s source : String} {e : Expr}
    (hleaf : Leaf.ofText s = .expression source) (hparse : Grammar.expression source = .ok e)
    {data : Option Json}
    (heval : e.eval (levelsFor source) context = .ok ((data.map Value.ofJson).getD .undefined)) :
    renderText context s = .ok (data.map Json.canonical) := by
  have hcompile : (Leaf.ofText s).compile = .ok (.expression e (levelsFor source)) := by
    rw [hleaf, Leaf.compile, hparse]
    rfl
  have hvalue : Leaf.Compiled.eval context (.expression e (levelsFor source)) =
      .ok (data.map Json.canonical) := by
    rw [Leaf.Compiled.eval, heval]
    cases data with
    | none =>
        rfl
    | some found =>
        have hdefined := Value.isUndefined_ofJson found
        have hjson := Value.toJson_ofJson found
        simp only [Option.map_some, Option.getD_some, bind, Except.bind, hdefined, hjson,
          Bool.false_eq_true, if_false]
        rfl
  have hboth : (Leaf.ofText s).compile >>= Leaf.Compiled.eval context =
      .ok (data.map Json.canonical) := by
    rw [hcompile]
    exact hvalue
  rw [renderText, hboth]

theorem levelsFor_eq (source : String) : ∃ levels, levelsFor source = levels + 2 := by
  refine ⟨levelsFor source - 2, ?_⟩
  have : 2 ≤ levelsFor source := by
    rw [levelsFor, Run.depthLimit]
    omega
  omega

/-- The names that a template may use for what its event is about. -/
theorem renderText_reference_name {context : Json} {name : String} {found : Json}
    (hname : name ∈ ["key", "value", "thng"]) (hfound : context.get? name = some found) :
    renderText (.ofJson context) (reference name) = .ok (some found.canonical) := by
  obtain ⟨levels, hlevels⟩ := levelsFor_eq name
  have hvalue : Expr.eval (.var name 1) (levelsFor name) (.ofJson context) =
      .ok (((some found).map Value.ofJson).getD .undefined) := by
    have hnone : ∀ name ∈ ["key", "value", "thng"], name ∉ Scope.functionNames := by
      decide
    rw [hlevels]
    exact (hasValue_var (hnone name hname) hfound 1).eval levels
  have hleaf : Leaf.ofText (reference name) = .expression name ∧
      Grammar.expression name = .ok (.var name 1) := by
    simp only [List.mem_cons, List.not_mem_nil, or_false] at hname
    rcases hname with rfl | rfl | rfl
    · exact ⟨ofText_reference (by decide) (by decide), rfl⟩
    · exact ⟨ofText_reference (by decide) (by decide), rfl⟩
    · exact ⟨ofText_reference (by decide) (by decide), rfl⟩
  exact renderText_of_eval hleaf.1 hleaf.2 hvalue

/-- A field of the action that an event is about; without such a field there is no value. -/
theorem renderText_reference_attribute {context action : Json} {name : String}
    (identifier : IsIdentifier name) (hfound : context.get? "action" = some action) :
    renderText (.ofJson context) (reference ("action." ++ name)) =
      .ok ((action.get? name).map Json.canonical) := by
  have hchars : ("action." ++ name).toList = "action.".toList ++ name.toList :=
    String.toList_append ..
  have hpath : ("action." ++ name).toList.all inPath = true := by
    have hhead : "action.".toList.all inPath = true := by
      decide
    rw [hchars, List.all_append, hhead, Bool.true_and, List.all_eq_true]
    intro c hc
    rw [inPath, identifier.inWord c hc, Bool.true_or]
  have hleaf : Leaf.ofText (reference ("action." ++ name)) = .expression ("action." ++ name) := by
    refine ofText_reference ?_ hpath
    rw [hchars]
    simp
  have hparse : Grammar.expression ("action." ++ name) =
      .ok (.attribute (.var "action" 1) name 1) := by
    rw [Grammar.expression, Tokens.ofExpression_attribute identifier]
    rfl
  obtain ⟨levels, hlevels⟩ := levelsFor_eq ("action." ++ name)
  refine renderText_of_eval hleaf hparse ?_
  rw [hlevels]
  exact (hasValue_attribute (by decide) hfound 1 1).eval levels

end OutputTemplate
end EventRules
