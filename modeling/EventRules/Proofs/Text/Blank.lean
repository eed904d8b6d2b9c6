import Mathlib.Data.List.TakeWhile
import EventRules.Text.Basic

/-!
# Blank — what trimming leaves alone

* `Text.Unblank` — no white space;
* `Text.trimChars_eq_nil_iff` — a text of which nothing is left;
* `Text.trimChars_of_ends` — a text that neither begins nor ends with a blank;
* `Text.trimChars_of_unblank` — a text without any blank;
* `Text.trimChars_spaced` — such a text between two blanks.
-/

namespace EventRules
namespace Text

/-- No white space. -/
def Unblank (cs : List Char) : Prop := ∀ c ∈ cs, isBlank c = false

namespace Unblank

variable {xs ys : List Char} {c : Char}

theorem nil : Unblank [] := fun _ hc => by cases hc

theorem cons (hc : isBlank c = false) (h : Unblank xs) : Unblank (c :: xs) :=
  List.forall_mem_cons.2 ⟨hc, h⟩

theorem append (hx : Unblank xs) (hy : Unblank ys) : Unblank (xs ++ ys) :=
  List.forall_mem_append.2 ⟨hx, hy⟩

theorem reverse (h : Unblank xs) : Unblank xs.reverse := fun c hc =>
  h c (List.mem_reverse.1 hc)

end Unblank

/-- Nothing is left of white space alone. -/
theorem trimChars_eq_nil_iff {cs : List Char} :
    trimChars cs = [] ↔ ∀ c ∈ cs, isBlank c = true := by
  have front : trimStart cs = [] ↔ ∀ c ∈ cs, isBlank c = true := List.dropWhile_eq_nil_iff
  have behind : trimChars cs = [] ↔ ∀ c ∈ (trimStart cs).reverse, isBlank c = true :=
    List.reverse_eq_nil_iff.trans List.dropWhile_eq_nil_iff
  rw [behind, ← front]
  constructor
  · intro blank
    -- what is left would begin with a character that is no blank
    by_contra left
    have visible : isBlank ((trimStart cs).head left) = false :=
      List.head_dropWhile_not isBlank left
    rw [blank _ (List.mem_reverse.2 (List.head_mem left))] at visible
    cases visible
  · intro none c hc
    rw [none] at hc
    cases hc

theorem trimStart_of_head {c : Char} (h : isBlank c = false) (rest : List Char) :
    trimStart (c :: rest) = c :: rest := by
  rw [trimStart, List.dropWhile_cons_of_neg (by simp [h])]

theorem trimStart_of_unblank {cs : List Char} (h : Unblank cs) : trimStart cs = cs := by
  cases cs with
  | nil =>
      rfl
  | cons first rest =>
      exact trimStart_of_head (h first List.mem_cons_self) rest

theorem trimChars_of_ends {first last : Char} (hfirst : isBlank first = false)
    (hlast : isBlank last = false) (middle : List Char) :
    trimChars (first :: (middle ++ [last])) = first :: (middle ++ [last]) := by
  have hreverse : (first :: (middle ++ [last])).reverse =
      last :: (middle.reverse ++ [first]) := by
    simp
  rw [trimChars, trimStart_of_head hfirst, trimEnd, hreverse, trimStart_of_head hlast,
    ← hreverse, List.reverse_reverse]

theorem trimChars_of_unblank {cs : List Char} (h : Unblank cs) : trimChars cs = cs := by
  have hback : trimStart cs.reverse = cs.reverse := trimStart_of_unblank h.reverse
  rw [trimChars, trimStart_of_unblank h, trimEnd, hback, List.reverse_reverse]

/-- What stands between two blanks is left. -/
theorem trimChars_spaced {cs : List Char} (hne : cs ≠ []) (h : Unblank cs) :
    trimChars (' ' :: (cs ++ [' '])) = cs := by
  have hspace : isBlank ' ' = true := by decide
  have hfront : ∀ {cs : List Char} (more : List Char), cs ≠ [] → Unblank cs →
      trimStart (' ' :: (cs ++ more)) = cs ++ more := by
    intro cs more hne h
    cases cs with
    | nil =>
        exact absurd rfl hne
    | cons first rest =>
        rw [trimStart, List.dropWhile_cons_of_pos hspace]
        exact trimStart_of_head (h first List.mem_cons_self) (rest ++ more)
  have hback := hfront [] (List.reverse_ne_nil_iff.2 hne) h.reverse
  rw [trimChars, hfront [' '] hne h, trimEnd, List.reverse_append,
    List.reverse_singleton, List.singleton_append]
  rw [List.append_nil] at hback
  rw [hback, List.reverse_reverse]

end Text
end EventRules
