import EventRules.Proofs.Template.Reference
import Mathlib.Data.List.TakeWhile

/-!
# Lexing — a token and what stands behind it

A token ends where a blank or a closing brace stands, so that nothing behind that place has a part in
it.  What is left behind a token is a part of what there was, and no token ends an output.

* `Tokens.EndsTokens` — what no token goes on into;
* `Tokens.inner_append` — one token, whatever stands behind its end;
* `Tokens.suffix_of_inner` — what is left behind a token.
-/

namespace EventRules
namespace Template

/-! ## The end of a token -/

namespace Token

/-- Characters that names and numbers go on with. -/
def continues (c : Char) : Bool := inPath c || c = '+' || c = '-'

theorem not_continues {c : Char} (h : Text.isBlank c = true ∨ c = '\x7d') :
    continues c = false := by
  rw [Bool.eq_false_iff]
  intro hc
  simp only [continues, Bool.or_eq_true, decide_eq_true_eq] at hc
  rcases h with h | rfl
  · rcases hc with (hc | rfl) | rfl
    · rw [isBlank_of_inPath hc] at h
      cases h
    · exact absurd h (by decide)
    · exact absurd h (by decide)
  · exact absurd hc (by decide)

theorem continues_of_inWord {c : Char} (h : inWord c = true) : continues c = true := by
  simp [continues, inPath, h]

theorem isAlpha_of_isHexLetter {c : Char} (h : isHexLetter c = true) : c.isAlpha = true := by
  simp only [isHexLetter, Bool.or_eq_true, Bool.and_eq_true, decide_eq_true_eq] at h
  unfold Char.isAlpha Char.isLower Char.isUpper
  simp only [Bool.or_eq_true, Bool.and_eq_true, decide_eq_true_eq, ge_iff_le]
  rcases h with ⟨low, high⟩ | ⟨low, high⟩
  · exact Or.inr ⟨low, Char.le_trans high (by decide)⟩
  · exact Or.inl ⟨low, Char.le_trans high (by decide)⟩

theorem Part.continues_of_next? {part next : Part} {c : Char} (h : part.next? c = some next) :
    continues c = true := by
  unfold Part.next? at h
  split at h
  · rename_i hc
    exact hc ▸ by decide
  · split at h
    · rename_i hdigit
      exact continues_of_inWord (by simp [inWord, Char.isAlphanum, hdigit])
    · cases part with
      | based hexadecimal =>
          simp only [Option.ite_none_right_eq_some, Bool.and_eq_true] at h
          have halpha := isAlpha_of_isHexLetter h.1.2
          exact continues_of_inWord (by simp [inWord, Char.isAlphanum, halpha])
      | whole =>
          dsimp only at h
          split at h
          · rename_i hc
            exact hc ▸ by decide
          · split at h
            · rename_i hc
              simp only [Bool.or_eq_true, decide_eq_true_eq] at hc
              rcases hc with rfl | rfl <;> decide
            · cases h
      | fraction =>
          simp only [Option.ite_none_right_eq_some, Bool.or_eq_true, decide_eq_true_eq] at h
          rcases h.1 with rfl | rfl <;> decide
      | exponent =>
          simp only [Option.ite_none_right_eq_some, Bool.or_eq_true, decide_eq_true_eq] at h
          rcases h.1 with rfl | rfl <;> decide
      | exponentDigits =>
          cases h

end Token

namespace Tokens

/-- What no token goes on into: it begins with a blank or with a closing brace, and no string ends
in it. -/
structure EndsTokens (after : List Char) : Prop where
  head : ∀ c ∈ after.head?, Text.isBlank c = true ∨ c = '\x7d'
  noQuote : ∀ c ∈ after, c ≠ '\'' ∧ c ≠ '"'

variable {after : List Char}

theorem EndsTokens.not_continues (h : EndsTokens after) :
    ∀ c ∈ after.head?, Token.continues c = false :=
  fun c hc => Token.not_continues (h.head c hc)

/-! ## One token -/

theorem spanNumber_append (h : EndsTokens after) (part : Token.Part) (cs : List Char) :
    Token.spanNumber part (cs ++ after) =
      ((Token.spanNumber part cs).1, (Token.spanNumber part cs).2.1,
        (Token.spanNumber part cs).2.2 ++ after) := by
  induction cs generalizing part with
  | nil =>
      cases after with
      | nil =>
          rfl
      | cons c rest =>
          have hnone : part.next? c = none := by
            rw [Option.eq_none_iff_forall_ne_some]
            intro next hnext
            have hc := h.not_continues c rfl
            rw [Token.Part.continues_of_next? hnext] at hc
            cases hc
          simp [Token.spanNumber, hnone]
  | cons c rest ih =>
      rw [List.cons_append, Token.spanNumber, Token.spanNumber]
      cases part.next? c with
      | none =>
          rfl
      | some next =>
          simp only [ih]

theorem splitBase_append (h : EndsTokens after) {cs : List Char} (some : cs ≠ []) :
    Token.splitBase (cs ++ after) =
      ((Token.splitBase cs).1, (Token.splitBase cs).2 ++ after) := by
  match cs with
  | [a] =>
      cases after with
      | nil =>
          simp
      | cons c rest =>
          have hc := h.not_continues c rfl
          have hne : ∀ mark, Token.continues mark = true → c ≠ mark := by
            rintro mark hmark rfl
            rw [hmark] at hc
            cases hc
          have h1 := hne 'b' (by decide)
          have h2 := hne 'B' (by decide)
          have h3 := hne 'o' (by decide)
          have h4 := hne 'O' (by decide)
          have h5 := hne 'x' (by decide)
          have h6 := hne 'X' (by decide)
          simp [Token.splitBase, *]
  | a :: b :: rest =>
      simp only [List.cons_append]
      unfold Token.splitBase
      split <;> simp_all

theorem number_append (h : EndsTokens after) {cs : List Char} (some : cs ≠ []) :
    Token.number (cs ++ after) =
      (Token.number cs).map fun (token, rest) => (token, rest ++ after) := by
  unfold Token.number
  rw [splitBase_append h some]
  dsimp only
  rw [spanNumber_append h]
  generalize Token.spanNumber _ (Token.splitBase cs).2 = found
  obtain ⟨written, last, rest⟩ := found
  dsimp only
  split
  · rfl
  · cases last with
    | _ =>
        dsimp only
        split <;> rfl

theorem spanQuoted_of_noQuote {quote : Char} {cs : List Char} (h : ∀ c ∈ cs, c ≠ quote) :
    Token.spanQuoted quote cs = none := by
  fun_induction Token.spanQuoted quote cs with
  | case1 =>
      rfl
  | case2 =>
      rfl
  | case3 c rest ih =>
      rw [ih fun c hc => h c (by simp [hc])]
      rfl
  | case4 rest ends escapes =>
      exact absurd rfl (h quote List.mem_cons_self)
  | case5 c rest ends escapes other ih =>
      rw [ih fun c hc => h c (by simp [hc])]
      rfl

theorem spanQuoted_append {quote : Char} (hquote : ∀ c ∈ after, c ≠ quote) (cs : List Char) :
    Token.spanQuoted quote (cs ++ after) =
      (Token.spanQuoted quote cs).map fun (body, escaped, rest) => (body, escaped, rest ++ after) := by
  fun_induction Token.spanQuoted quote cs with
  | case1 =>
      exact spanQuoted_of_noQuote hquote
  | case2 =>
      -- the backslash at the end takes a character of what follows, but no quote is found there
      cases after with
      | nil =>
          rfl
      | cons c rest =>
          rw [List.cons_append, List.nil_append, Token.spanQuoted,
            spanQuoted_of_noQuote fun c hc => hquote c (List.mem_cons_of_mem _ hc)]
          rfl
  | case3 c rest ih =>
      rw [List.cons_append, List.cons_append, Token.spanQuoted, ih]
      simp [Function.comp_def]
  | case4 rest ends escapes =>
      have hplain : quote ≠ '\\' := by
        rintro rfl
        cases rest with
        | nil =>
            exact ends rfl rfl
        | cons c rest =>
            exact escapes c rest rfl rfl
      rw [List.cons_append, Token.spanQuoted]
      · simp
      · exact fun same => absurd same hplain
      · exact fun _ _ same => absurd same hplain
  | case5 c rest ends escapes other ih =>
      have hplain : c ≠ '\\' := by
        rintro rfl
        cases rest with
        | nil =>
            exact ends rfl rfl
        | cons c rest =>
            exact escapes c rest rfl rfl
      rw [List.cons_append, Token.spanQuoted, ih, if_neg other]
      · simp [Function.comp_def]
      · exact fun same => absurd same hplain
      · exact fun _ _ same => absurd same hplain

theorem quoted_append {quote : Char} (hquote : ∀ c ∈ after, c ≠ quote) (cs : List Char) :
    Token.quoted quote (cs ++ after) =
      (Token.quoted quote cs).map fun (token, rest) => (token, rest ++ after) := by
  unfold Token.quoted
  rw [spanQuoted_append hquote]
  cases Token.spanQuoted quote cs with
  | none =>
      rfl
  | some found =>
      obtain ⟨body, escaped, rest⟩ := found
      simp only [Option.map_some]
      split
      · split <;> rfl
      · rfl

theorem sign?_append (h : EndsTokens after) {cs : List Char} (some : cs ≠ []) :
    sign? (cs ++ after) = (sign? cs).map fun (token, rest) => (token, rest ++ after) := by
  match cs with
  | [a] =>
      cases after with
      | nil =>
          simp
      | cons c rest =>
          -- no sign of two characters ends in a blank or in a brace
          have hlong : longSigns.all (fun found => found.getLast?.all fun c =>
              !Text.isBlank c && c != '\x7d') = true := by
            decide
          have hnotLong : [a, c] ∉ longSigns := by
            intro hmem
            have hlast := List.all_eq_true.1 hlong _ hmem
            rcases h.head c rfl with hc | rfl
            · simp [hc] at hlast
            · simp at hlast
          have hshort : [a] ∉ longSigns := by
            intro hmem
            have : ∀ found ∈ longSigns, found.length = 2 := by decide
            exact absurd (this _ hmem) (by simp)
          simp only [sign?, List.cons_append, List.nil_append, List.take_succ_cons, List.take_zero,
            List.take_nil, List.contains_eq_mem, hnotLong, hshort, decide_false, Bool.false_eq_true,
            if_false]
          split <;> rfl
  | a :: b :: rest =>
      have hfront : (a :: b :: rest ++ after).take 2 = (a :: b :: rest).take 2 := rfl
      unfold sign?
      rw [hfront]
      split
      · rfl
      · dsimp only [List.cons_append]
        split <;> rfl

theorem word?_append (h : EndsTokens after) {cs : List Char} (some : cs ≠ []) :
    Token.word? (cs ++ after) =
      (Token.word? cs).map fun (token, rest) => (token, rest ++ after) := by
  obtain ⟨first, rest, rfl⟩ := List.exists_cons_of_ne_nil some
  have hstop : after.takeWhile Token.inWord = [] ∧ after.dropWhile Token.inWord = after := by
    cases after with
    | nil =>
        exact ⟨rfl, rfl⟩
    | cons c more =>
        have hc : Token.inWord c = false := by
          rw [Bool.eq_false_iff]
          intro hword
          have hends := h.not_continues c rfl
          rw [Token.continues_of_inWord hword] at hends
          cases hends
        simp [hc]
  have htake : (rest ++ after).takeWhile Token.inWord = rest.takeWhile Token.inWord := by
    rw [List.takeWhile_append]
    split
    · rename_i hall
      rw [hstop.1, List.append_nil]
      exact (List.takeWhile_prefix _).eq_of_length hall |>.symm
    · rfl
  have hdrop : (rest ++ after).dropWhile Token.inWord = rest.dropWhile Token.inWord ++ after := by
    rw [List.dropWhile_append]
    split
    · rename_i hall
      rw [hstop.2, List.isEmpty_iff.mp hall, List.nil_append]
    · rfl
  rw [List.cons_append]
  simp only [Token.word?, htake, hdrop]
  split <;> rfl

/-- A token is the same whatever stands behind its end. -/
theorem inner_append (h : EndsTokens after) {cs : List Char} (some : cs ≠ []) :
    inner (cs ++ after) = (inner cs).map fun (token, rest) => (token, rest ++ after) := by
  obtain ⟨first, rest, rfl⟩ := List.exists_cons_of_ne_nil some
  have hnumber := number_append h some
  have hsign := sign?_append h some
  have hword := word?_append h some
  rw [List.cons_append] at *
  unfold inner
  dsimp only
  split
  · rename_i hquote
    refine quoted_append (fun c hc => ?_) rest
    simp only [Bool.or_eq_true, decide_eq_true_eq] at hquote
    rcases hquote with rfl | rfl
    · exact (h.noQuote c hc).1
    · exact (h.noQuote c hc).2
  · split
    · exact hnumber
    · rw [hsign]
      cases sign? (first :: rest) with
      | some found =>
          rfl
      | none =>
          dsimp only [Option.map]
          rw [hword]
          cases Token.word? (first :: rest) <;> rfl

/-! ## What is left behind a token -/

theorem suffix_of_spanNumber (part : Token.Part) (cs : List Char) :
    (Token.spanNumber part cs).2.2 <:+ cs := by
  induction cs generalizing part with
  | nil =>
      exact List.suffix_refl []
  | cons c rest ih =>
      rw [Token.spanNumber]
      cases part.next? c with
      | none =>
          exact List.suffix_refl _
      | some next =>
          exact (ih next).trans (List.suffix_cons c rest)

theorem suffix_of_splitBase (first : Char) (more : List Char) :
    ((Token.splitBase (first :: more)).1 = 10 ∧
      (Token.splitBase (first :: more)).2 = first :: more) ∨
    (Token.splitBase (first :: more)).2 <:+ more := by
  unfold Token.splitBase
  split
  all_goals
    rename_i heq
    first
    | (cases heq; exact Or.inr (List.suffix_cons ..))
    | exact Or.inl ⟨rfl, rfl⟩

theorem suffix_of_number {first : Char} {more rest : List Char} {token : Token}
    (hdigit : first.isDigit = true) (h : Token.number (first :: more) = .ok (token, rest)) :
    rest <:+ more ∧ token ≠ .outputEnd := by
  have hnext : Token.Part.whole.next? first = some .whole := by
    unfold Token.Part.next?
    rw [if_pos hdigit]
    split <;> rfl
  have hsuffix : ∀ start, (Token.splitBase (first :: more)).1 = 10 → start = .whole →
      (Token.spanNumber start (first :: more)).2.2 <:+ more := by
    rintro start - rfl
    rw [Token.spanNumber, hnext]
    exact suffix_of_spanNumber _ more
  unfold Token.number at h
  dsimp only at h
  have hrest : (Token.spanNumber (if (Token.splitBase (first :: more)).1 = 10 then .whole
      else .based ((Token.splitBase (first :: more)).1 == 16))
      (Token.splitBase (first :: more)).2).2.2 <:+ more := by
    rcases suffix_of_splitBase first more with ⟨hten, hbody⟩ | hbody
    · rw [hbody]
      exact hsuffix _ hten (if_pos hten)
    · exact (suffix_of_spanNumber _ _).trans hbody
  generalize Token.spanNumber _ (Token.splitBase (first :: more)).2 = found at h hrest
  obtain ⟨written, last, left⟩ := found
  dsimp only at h hrest
  split at h
  · cases h
  · split at h
    · split at h
      · cases h
        exact ⟨hrest, by simp⟩
      · cases h
    · split at h
      · cases h
        exact ⟨hrest, by simp⟩
      · cases h
    · split at h
      · cases h
        exact ⟨hrest, by simp⟩
      · cases h

theorem suffix_of_spanQuoted {quote : Char} {cs body rest : List Char} {escaped : Bool}
    (h : Token.spanQuoted quote cs = some (body, escaped, rest)) : rest <:+ cs := by
  fun_induction Token.spanQuoted quote cs generalizing body escaped with
  | case1 =>
      cases h
  | case2 =>
      cases h
  | case3 c more ih =>
      obtain ⟨found, hfound, heq⟩ := Option.map_eq_some_iff.mp h
      cases heq
      exact (ih hfound).trans ⟨['\\', c], rfl⟩
  | case4 more ends escapes =>
      cases h
      exact List.suffix_cons ..
  | case5 c more ends escapes other ih =>
      obtain ⟨found, hfound, heq⟩ := Option.map_eq_some_iff.mp h
      cases heq
      exact (ih hfound).trans (List.suffix_cons ..)

theorem suffix_of_quoted {quote : Char} {cs rest : List Char} {token : Token}
    (h : Token.quoted quote cs = .ok (token, rest)) : rest <:+ cs ∧ token ≠ .outputEnd := by
  unfold Token.quoted at h
  split at h
  · cases h
  · rename_i body escaped after hspan
    have hsuffix := suffix_of_spanQuoted hspan
    split at h
    · split at h
      · cases h
        exact ⟨hsuffix, by simp⟩
      · cases h
    · cases h
      exact ⟨hsuffix, by simp⟩

theorem suffix_of_sign? {first : Char} {more rest : List Char} {token : Token}
    (h : sign? (first :: more) = some (token, rest)) : rest <:+ more ∧ token ≠ .outputEnd := by
  unfold sign? at h
  split at h
  · cases h
    exact ⟨List.drop_suffix 1 more, by simp⟩
  · dsimp only at h
    split at h
    · cases h
      exact ⟨List.suffix_refl _, by simp⟩
    · cases h

theorem suffix_of_word? {first : Char} {more rest : List Char} {token : Token}
    (h : Token.word? (first :: more) = some (token, rest)) : rest <:+ more ∧ token ≠ .outputEnd := by
  rw [Token.word?] at h
  split at h
  · cases h
    exact ⟨List.dropWhile_suffix _, by simp⟩
  · cases h

/-- A token takes at least one character, and none of them ends an output. -/
theorem suffix_of_inner {first : Char} {more rest : List Char} {token : Token}
    (h : inner (first :: more) = .ok (token, rest)) : rest <:+ more ∧ token ≠ .outputEnd := by
  unfold inner at h
  dsimp only at h
  split at h
  · exact suffix_of_quoted h
  · split at h
    · rename_i hdigit
      exact suffix_of_number hdigit h
    · split at h
      · rename_i found hsign
        cases h
        exact suffix_of_sign? hsign
      · split at h
        · rename_i found hword
          cases h
          exact suffix_of_word? hword
        · cases h

end Tokens
end Template
end EventRules
