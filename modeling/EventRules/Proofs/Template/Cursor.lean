import EventRules.Proofs.Outcome
import EventRules.Template.Grammar

/-!
# Cursor — parsers in an output and outside of it

A parser that succeeds in an output, where a mark stands behind what it takes, also succeeds where
the tokens end there, if that mark is none of those that it looks for.

* `Grammar.Cursor.Behind` — a place that tokens have been taken up to;
* `Grammar.Cursor.Inside` — the same place in an output and in what stands in it;
* `Grammar.Follows` — a parser that succeeds in an output, and one that then succeeds without it.
-/

namespace EventRules
namespace Template
namespace Grammar

variable {α β γ δ : Type} {c c' d : Cursor}

/-! ## Steps of parsers -/

theorem ok_of_parser_bind {p : Parser α} {f : α → Parser β} {made : β × Cursor}
    (h : (p >>= f) c = .ok made) :
    ∃ a d, p c = .ok (a, d) ∧ f a d = .ok made := by
  have h : (p c >>= fun found => f found.1 found.2) = .ok made := h
  obtain ⟨found, hfound, hmade⟩ := ok_of_bind h
  exact ⟨found.1, found.2, hfound, hmade⟩

theorem parser_bind_of_ok {p : Parser α} {f : α → Parser β} {a : α}
    (h : p c = .ok (a, d)) : (p >>= f) c = f a d := by
  show (p c >>= fun found => f found.1 found.2) = _
  rw [h]
  rfl

/-- A property of what has been found so far that every step of a repetition keeps. -/
theorem repeatWith_keeps {step : α → Parser (Option α)} {P : α → Prop}
    (hstep : ∀ a c b d, P a → step a c = .ok (some b, d) → P b) (steps : Nat) {a b : α}
    (h : repeatWith step steps a c = .ok (b, d)) (hstart : P a) : P b := by
  induction steps generalizing a c with
  | zero =>
      cases h
      exact hstart
  | succ steps ih =>
      unfold repeatWith at h
      obtain ⟨found, e, hfound, hrest⟩ := ok_of_parser_bind h
      cases found with
      | some grown =>
          exact ih hrest (hstep a c grown e hstart hfound)
      | none =>
          cases hrest
          exact hstart

/-- A parser that succeeds nowhere from here. -/
def Fails (p : Parser α) (c : Cursor) : Prop := ∀ made, p c ≠ .ok made

theorem fails_fail (detail : String) (c : Cursor) : Fails (fail detail : Parser α) c := by
  rintro made hrun
  cases hrun

theorem fails_unexpected (token : Option Token) (expected : String) (c : Cursor) :
    Fails (unexpected token expected : Parser α) c := by
  cases token <;> exact fails_fail _ c

/-! ## Single tokens -/

theorem current?_of_cons {token : Token} {line : Nat} {rest : List Placed}
    (h : c.rest = ⟨token, line⟩ :: rest) : current? c = .ok (some token, c) := by
  cases c
  subst h
  rfl

theorem current?_of_nil (h : c.rest = []) (hfault : c.fault = none) :
    current? c = .ok (none, c) := by
  cases c
  subst h hfault
  rfl

theorem current?_of_fault {fault : Fault} (h : c.rest = []) (hfault : c.fault = some fault) :
    current? c = .error fault := by
  cases c
  subst h hfault
  rfl

theorem next?_of_cons {token : Token} {line : Nat} {rest : List Placed}
    (h : c.rest = ⟨token, line⟩ :: rest) :
    next? c = .ok (some token, { c with rest := rest, line := line }) := by
  cases c
  subst h
  rfl

theorem current?_cases {found : Option Token} (h : current? c = .ok (found, d)) :
    d = c ∧ ((found = none ∧ c.rest = [] ∧ c.fault = none) ∨
      ∃ token line rest, found = some token ∧ c.rest = ⟨token, line⟩ :: rest) := by
  cases hrest : c.rest with
  | nil =>
      cases hfault : c.fault with
      | none =>
          rw [current?_of_nil hrest hfault] at h
          cases h
          exact ⟨rfl, .inl ⟨rfl, rfl, rfl⟩⟩
      | some fault =>
          rw [current?_of_fault hrest hfault] at h
          cases h
  | cons first rest =>
      obtain ⟨token, line⟩ := first
      rw [current?_of_cons hrest] at h
      cases h
      exact ⟨rfl, .inr ⟨token, line, rest, rfl, rfl⟩⟩

theorem next?_cases {found : Option Token} (h : next? c = .ok (found, d)) :
    (found = none ∧ c.rest = [] ∧ c.fault = none) ∨
      ∃ token line rest, found = some token ∧ c.rest = ⟨token, line⟩ :: rest ∧
        d = { c with rest := rest, line := line } := by
  obtain ⟨token, e, htoken, hrest⟩ := ok_of_parser_bind h
  cases hrest
  obtain ⟨rfl, hnone | ⟨token, line, rest, rfl, hcons⟩⟩ := current?_cases htoken
  · exact .inl hnone
  · exact .inr ⟨token, line, rest, rfl, hcons, by dsimp only; rw [hcons]⟩

theorem expect_cases {token : Token} {expected : String}
    (h : expect token expected c = .ok ((), d)) :
    ∃ line rest, c.rest = ⟨token, line⟩ :: rest ∧ d = { c with rest := rest, line := line } := by
  obtain ⟨found, e, hfound, hrest⟩ := ok_of_parser_bind h
  split at hrest
  · rename_i hsame
    cases hrest
    obtain ⟨hnone, -⟩ | ⟨_, line, rest, hsome, hcursor, hd⟩ := next?_cases hfound
    · rw [hsame] at hnone
      cases hnone
    · rw [hsame] at hsome
      cases hsome
      exact ⟨line, rest, hcursor, hd⟩
  · exact absurd hrest (fails_unexpected _ _ _ _)

theorem skip_bind (token : Token) (f : Bool → Parser γ) :
    Grammar.skip token >>= f = current? >>= fun found =>
      if found = some token then next? >>= fun _ => f true else f false := by
  unfold Grammar.skip
  rw [bind_assoc]
  refine congrArg (current? >>= ·) (funext fun found => ?_)
  split
  · rw [bind_assoc]
    rfl
  · rfl

theorem isAt_bind (token : Token) (f : Bool → Parser γ) :
    Grammar.isAt token >>= f = current? >>= fun found => f (decide (found = some token)) := by
  unfold Grammar.isAt
  rw [bind_assoc]
  rfl

/-! ## Places -/

/-- A place that tokens have been taken up to from another one. -/
structure Cursor.Behind (d c : Cursor) : Prop where
  rest : d.rest <:+ c.rest
  fault : d.fault = c.fault

theorem Cursor.Behind.refl (c : Cursor) : c.Behind c := ⟨List.suffix_refl _, rfl⟩

theorem Cursor.Behind.trans {b : Cursor} (h : d.Behind c) (h' : c.Behind b) : d.Behind b :=
  ⟨h.rest.trans h'.rest, h.fault.trans h'.fault⟩

/-- A place in an output, and the same place in what stands in it by itself. -/
structure Cursor.Inside (c c' : Cursor) : Prop where
  tokens : c'.rest.map Placed.token = (c.rest.map Placed.token).takeWhile (· ≠ .outputEnd)
  fault : c'.fault = none
  depth : c'.depth = c.depth

namespace Cursor.Inside

/-- Where what stands in an output ends, there is nothing more but its closing mark. -/
theorem eq_outputEnd (h : c.Inside c') (hend : c'.rest = []) {token : Token} {line : Nat}
    {rest : List Placed} (hrest : c.rest = ⟨token, line⟩ :: rest) : token = .outputEnd := by
  by_contra hother
  have htokens := h.tokens
  rw [hend, hrest, List.map_cons, List.takeWhile_cons_of_pos (by simpa using hother)] at htokens
  cases htokens

theorem cases (h : c.Inside c') :
    c'.rest = [] ∨
    ∃ token line line' rest rest', c.rest = ⟨token, line⟩ :: rest ∧
      c'.rest = ⟨token, line'⟩ :: rest' ∧
      { c with rest := rest, line := line }.Inside { c' with rest := rest', line := line' } := by
  have htokens := h.tokens
  cases hrest : c.rest with
  | nil =>
      rw [hrest] at htokens
      exact .inl (List.map_eq_nil_iff.mp htokens)
  | cons first rest =>
      obtain ⟨token, line⟩ := first
      rw [hrest, List.map_cons] at htokens
      by_cases hend : token = .outputEnd
      · rw [List.takeWhile_cons_of_neg (by simp [hend])] at htokens
        exact .inl (List.map_eq_nil_iff.mp htokens)
      · rw [List.takeWhile_cons_of_pos (by simpa using hend)] at htokens
        obtain ⟨⟨_, line'⟩, rest', hrest', rfl, hmore⟩ := List.map_eq_cons_iff.mp htokens
        exact .inr ⟨_, line, line', rest, rest', rfl, hrest', hmore, h.fault, h.depth⟩

theorem length_le (h : c.Inside c') : c'.rest.length ≤ c.rest.length := by
  have hle := (List.takeWhile_prefix (l := c.rest.map Placed.token) (· ≠ .outputEnd)).length_le
  rwa [← h.tokens, List.length_map, List.length_map] at hle

end Cursor.Inside

/-! ## Sequences -/

/-- What the first of two parsers takes in an output, the second one takes of what stands in it by
itself; what they find is related, given how many tokens are left. -/
def Follows (p : Parser α) (p' : Parser β) (c c' : Cursor) (post : α → β → Nat → Prop) : Prop :=
  ∀ a d, p c = .ok (a, d) →
    ∃ a' d', p' c' = .ok (a', d') ∧ d.Inside d' ∧ d.Behind c ∧ post a a' d'.rest.length

/-- What one step of a repetition adds: nothing, or something for the tokens that it takes. -/
def Grown (R : α → β → Prop) (bound : Nat) : Option α → Option β → Nat → Prop
  | some a, some b, n => R a b ∧ n < bound
  | none, none, n => n ≤ bound
  | _, _, _ => False

namespace Follows

variable {p : Parser α} {p' : Parser β}

theorem pure {a : α} {b : β} {post : α → β → Nat → Prop} (h : c.Inside c')
    (hpost : post a b c'.rest.length) : Follows (Pure.pure a) (Pure.pure b) c c' post := by
  intro _ _ hrun
  cases hrun
  exact ⟨b, c', rfl, h, .refl _, hpost⟩

theorem bind {f : α → Parser γ} {f' : β → Parser δ} {mid : α → β → Nat → Prop}
    {post : γ → δ → Nat → Prop} (h : Follows p p' c c' mid)
    (hnext : ∀ a b d d', d.Inside d' → mid a b d'.rest.length → Follows (f a) (f' b) d d' post) :
    Follows (p >>= f) (p' >>= f') c c' post := by
  intro e made hrun
  obtain ⟨a, d, hp, hf⟩ := ok_of_parser_bind hrun
  obtain ⟨b, d', hp', hinside, hbehind, hmid⟩ := h a d hp
  obtain ⟨e', made', hf', hmade, hlater, hpost⟩ := hnext a b d d' hinside hmid e made hf
  refine ⟨e', made', ?_, hmade, hlater.trans hbehind, hpost⟩
  rw [parser_bind_of_ok hp']
  exact hf'

theorem map_bind {ε ζ : Type} {g : α → ε} {g' : β → ζ} {f : ε → Parser γ} {f' : ζ → Parser δ}
    {post : γ → δ → Nat → Prop}
    (h : Follows (p >>= fun a => f (g a)) (p' >>= fun b => f' (g' b)) c c' post) :
    Follows (g <$> p >>= f) (g' <$> p' >>= f') c c' post := by
  rwa [bind_map_left, bind_map_left]

theorem of_fails {post : α → β → Nat → Prop} (h : Fails p c) : Follows p p' c c' post :=
  fun a d hrun => absurd hrun (h (a, d))

theorem mono {post post' : α → β → Nat → Prop} (h : Follows p p' c c' post)
    (himp : ∀ a b n, post a b n → post' a b n) : Follows p p' c c' post' := by
  intro a d hrun
  obtain ⟨a', d', hrun', hinside, hbehind, hpost⟩ := h a d hrun
  exact ⟨a', d', hrun', hinside, hbehind, himp a a' _ hpost⟩

section Tokens

variable {post : γ → δ → Nat → Prop}

theorem get {f : Cursor → Parser γ} {f' : Cursor → Parser δ} (h : Follows (f c) (f' c') c c' post) :
    Follows (MonadState.get >>= f) (MonadState.get >>= f') c c' post := h

theorem current {f : Option Token → Parser γ} {f' : Option Token → Parser δ} (h : c.Inside c')
    (hsome : ∀ token, c'.rest ≠ [] → Follows (f (some token)) (f' (some token)) c c' post)
    (hend : c'.rest = [] → Follows (f (some .outputEnd)) (f' none) c c' post ∧
      Follows (f none) (f' none) c c' post) :
    Follows (current? >>= f) (current? >>= f') c c' post := by
  intro a d hrun
  obtain ⟨found, e, hfound, hf⟩ := ok_of_parser_bind hrun
  obtain ⟨rfl, hcurrent⟩ := current?_cases hfound
  obtain hrest' | ⟨token, line, line', rest, rest', hrest, hrest', -⟩ := h.cases
  · rw [parser_bind_of_ok (current?_of_nil hrest' h.fault)]
    obtain ⟨rfl, -⟩ | ⟨token, line, rest, rfl, hrest⟩ := hcurrent
    · exact (hend hrest').2 a d hf
    · obtain rfl := h.eq_outputEnd hrest' hrest
      exact (hend hrest').1 a d hf
  · rw [parser_bind_of_ok (current?_of_cons hrest')]
    rw [current?_of_cons hrest] at hfound
    cases hfound
    exact hsome token (by simp [hrest']) a d hf

/-- Taking a token: behind the last one there is nothing to be taken except by what fails then. -/
theorem next {f : Option Token → Parser γ} {f' : Option Token → Parser δ} (h : c.Inside c')
    (hsome : ∀ token d d', d.Inside d' → d'.rest.length < c'.rest.length →
      Follows (f (some token)) (f' (some token)) d d' post)
    (hend : c'.rest = [] → ∀ d, Fails (f (some .outputEnd)) d ∧ Fails (f none) d) :
    Follows (next? >>= f) (next? >>= f') c c' post := by
  intro a d hrun
  obtain ⟨found, e, hfound, hf⟩ := ok_of_parser_bind hrun
  obtain hrest' | ⟨token, line, line', rest, rest', hrest, hrest', hinside⟩ := h.cases
  · obtain ⟨rfl, -⟩ | ⟨token, line, rest, rfl, hrest, -⟩ := next?_cases hfound
    · exact absurd hf ((hend hrest' e).2 _)
    · obtain rfl := h.eq_outputEnd hrest' hrest
      exact absurd hf ((hend hrest' e).1 _)
  · rw [next?_of_cons hrest] at hfound
    cases hfound
    rw [parser_bind_of_ok (next?_of_cons hrest')]
    obtain ⟨a', d', hrun', hdone, hbehind, hpost⟩ :=
      hsome token _ _ hinside (by simp [hrest']) a d hf
    have htaken : Cursor.Behind { c with rest := rest, line := line } c :=
      ⟨by rw [hrest]; exact List.suffix_cons .., rfl⟩
    exact ⟨a', d', hrun', hdone, hbehind.trans htaken, hpost⟩

theorem expect {token : Token} (hother : token ≠ .outputEnd) (expected : String)
    {f : Unit → Parser γ} {f' : Unit → Parser δ} (h : c.Inside c')
    (hnext : ∀ d d', d.Inside d' → d'.rest.length < c'.rest.length →
      Follows (f ()) (f' ()) d d' post) :
    Follows (Grammar.expect token expected >>= f) (Grammar.expect token expected >>= f') c c'
      post := by
  have hexpect : Follows (Grammar.expect token expected) (Grammar.expect token expected) c c'
      fun _ _ n => n < c'.rest.length := by
    refine .next h (fun found d d' hd hlt => ?_) fun _ d => ?_
    · split
      · exact .pure hd hlt
      · exact .of_fails (fails_unexpected _ _ _)
    · rw [if_neg (fun same => hother (Option.some.inj same).symm), if_neg (by simp)]
      exact ⟨fails_unexpected _ _ _, fails_unexpected _ _ _⟩
  exact hexpect.bind fun _ _ d d' hd hlt => hnext d d' hd hlt

theorem expectName (expected : String) {f : String → Parser γ} {f' : String → Parser δ}
    (h : c.Inside c') (hnext : ∀ s d d', d.Inside d' → d'.rest.length < c'.rest.length →
      Follows (f s) (f' s) d d' post) :
    Follows (Grammar.expectName expected >>= f) (Grammar.expectName expected >>= f') c c' post := by
  have hname : Follows (Grammar.expectName expected) (Grammar.expectName expected) c c'
      fun s s' n => s = s' ∧ n < c'.rest.length := by
    refine .next h (fun found d d' hd hlt => ?_) fun _ d =>
      ⟨fails_unexpected _ _ _, fails_unexpected _ _ _⟩
    split
    · exact .pure hd ⟨rfl, hlt⟩
    · exact .of_fails (fails_unexpected _ _ _)
  refine hname.bind ?_
  rintro s _ d d' hd ⟨rfl, hlt⟩
  exact hnext s d d' hd hlt

theorem skip {token : Token} (hother : token ≠ .outputEnd) {f : Bool → Parser γ}
    {f' : Bool → Parser δ} (h : c.Inside c')
    (htrue : ∀ d d', d.Inside d' → d'.rest.length < c'.rest.length →
      Follows (f true) (f' true) d d' post)
    (hfalse : Follows (f false) (f' false) c c' post) :
    Follows (Grammar.skip token >>= f) (Grammar.skip token >>= f') c c' post := by
  rw [skip_bind, skip_bind]
  refine .current h (fun found hrest => ?_) fun hend => ?_
  · split
    · exact .next h (fun _ => htrue) fun hend => absurd hend hrest
    · exact hfalse
  · rw [if_neg fun same => hother (Option.some.inj same).symm, if_neg (by simp)]
    exact ⟨hfalse, hfalse⟩

theorem skipped {token : Token} (hother : token ≠ .outputEnd) (h : c.Inside c') :
    Follows (Grammar.skip token) (Grammar.skip token) c c'
      fun found found' n => found = found' ∧ n ≤ c'.rest.length := by
  rw [← bind_pure (Grammar.skip token)]
  exact .skip hother h (fun d d' hd hlt => .pure hd ⟨rfl, by omega⟩) (.pure h ⟨rfl, Nat.le_refl _⟩)

theorem isAt {token : Token} (hother : token ≠ .outputEnd) {f : Bool → Parser γ}
    {f' : Bool → Parser δ} (h : c.Inside c')
    (htrue : c'.rest ≠ [] → Follows (f true) (f' true) c c' post)
    (hfalse : Follows (f false) (f' false) c c' post) :
    Follows (Grammar.isAt token >>= f) (Grammar.isAt token >>= f') c c' post := by
  rw [isAt_bind, isAt_bind]
  refine .current h (fun found hrest => ?_) fun hend => ?_
  · by_cases hfound : some found = some token
    · rw [decide_eq_true hfound]
      exact htrue hrest
    · rw [decide_eq_false hfound]
      exact hfalse
  · rw [decide_eq_false fun same => hother (Option.some.inj same).symm, decide_eq_false (by simp)]
    exact ⟨hfalse, hfalse⟩

theorem currentLine {f : Nat → Parser γ} {f' : Nat → Parser δ}
    (hnext : ∀ line line', Follows (f line) (f' line') c c' post) :
    Follows (Grammar.currentLine >>= f) (Grammar.currentLine >>= f') c c' post :=
  hnext _ _

end Tokens

/-! ## Nesting and repetition -/

theorem deeper {post : α → β → Nat → Prop} (h : c.Inside c')
    (hp : ∀ d d', d.Inside d' → d'.rest = c'.rest → Follows p p' d d' post) :
    Follows (Grammar.deeper p) (Grammar.deeper p') c c' post := by
  unfold Grammar.deeper
  refine .get ?_
  dsimp only
  rw [h.depth]
  split
  · exact .of_fails (fails_fail _ _)
  · have hin := hp { c with depth := c.depth + 1 } { c' with depth := c.depth + 1 }
      ⟨h.tokens, h.fault, rfl⟩ rfl
    have hout : Follows (p >>= fun result => do
          modify fun cursor => { cursor with depth := c.depth + 1 - 1 }
          return result)
        (p' >>= fun result => do
          modify fun cursor => { cursor with depth := c.depth + 1 - 1 }
          return result)
        { c with depth := c.depth + 1 } { c' with depth := c.depth + 1 } post := by
      refine hin.bind fun a b d d' hd hpost => ?_
      intro e made hrun
      cases hrun
      exact ⟨b, _, rfl, ⟨hd.tokens, hd.fault, rfl⟩, ⟨List.suffix_refl _, rfl⟩, hpost⟩
    -- one level deeper the tokens are the same
    intro a d hrun
    obtain ⟨a', d', hrun', hdone, hbehind, hpost⟩ := hout a d hrun
    exact ⟨a', d', hrun', hdone, ⟨hbehind.rest, hbehind.fault⟩, hpost⟩

theorem repeatWith {R : α → β → Prop} {step : α → Parser (Option α)}
    {step' : β → Parser (Option β)} {bound : Nat}
    (hstep : ∀ a b d d', d.Inside d' → d'.rest.length ≤ bound → R a b →
      Follows (step a) (step' b) d d' (Grown R d'.rest.length))
    (steps steps' : Nat) {a : α} {b : β} (hstart : R a b) (h : c.Inside c')
    (hbound : c'.rest.length ≤ bound) (hsteps : c'.rest.length < steps)
    (hsteps' : c'.rest.length < steps') :
    Follows (Grammar.repeatWith step steps a) (Grammar.repeatWith step' steps' b) c c'
      fun a b n => R a b ∧ n ≤ c'.rest.length := by
  -- no step is made without a token, so that neither runs out of steps before the tokens are taken
  induction steps generalizing steps' a b c c' with
  | zero =>
      omega
  | succ steps ih =>
      obtain ⟨steps', rfl⟩ : ∃ n, steps' = n + 1 := ⟨steps' - 1, by omega⟩
      unfold Grammar.repeatWith
      refine (hstep a b c c' h hbound hstart).bind fun found found' d d' hd hgrown => ?_
      match found, found', hgrown with
      | some grown, some grown', ⟨hR, hlt⟩ =>
          refine (ih steps' hR hd (by omega) (by omega) (by omega)).mono fun _ _ n hn => ?_
          exact ⟨hn.1, by omega⟩
      | none, none, hle =>
          exact .pure hd ⟨hstart, hle⟩

theorem grow {R : α → β → Prop} {step : α → Parser (Option α)}
    {step' : β → Parser (Option β)} (h : c.Inside c')
    (hstep : ∀ a b d d', d.Inside d' → d'.rest.length ≤ c'.rest.length → R a b →
      Follows (step a) (step' b) d d' (Grown R d'.rest.length)) {a : α} {b : β} (hstart : R a b) :
    Follows (Grammar.grow step a) (Grammar.grow step' b) c c'
      fun a b n => R a b ∧ n ≤ c'.rest.length := by
  have hlength := h.length_le
  exact .repeatWith hstep (c.rest.length + 1) (c'.rest.length + 1) hstart h (Nat.le_refl _)
    (by omega) (by omega)

end Follows
end Grammar
end Template
end EventRules
