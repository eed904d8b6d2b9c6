import EventRules.Proofs.Event.Wire

/-!
# Depth — readers that do not ask how many brackets are open

Only the readers that open brackets for typed data count them at the cursor.  All others answer the
same at every depth, and leave the depth as it is.

* `IgnoresDepth` — a reader succeeds alike at every depth;
* `ignoresDepth_wireWithin` — values do, once their own depth is fixed.
-/

namespace EventRules
namespace Json

/-- The same place at another depth. -/
def Cursor.atDepth (cursor : Cursor) (depth : Nat) : Cursor := { cursor with depth := depth }

namespace TextReader

variable {α β : Type}

/-- What a reader answers, and where it stops, does not depend on the depth. -/
def IgnoresDepth (reader : TextReader α) : Prop :=
  ∀ ⦃before : Cursor⦄ ⦃answer : α⦄ ⦃after : Cursor⦄, Reads reader before answer after →
    ∀ depth, Reads reader (before.atDepth depth) answer (after.atDepth depth)

theorem IgnoresDepth.depth_eq {reader : TextReader α} (ignores : IgnoresDepth reader)
    {before after : Cursor} {answer : α} (h : Reads reader before answer after) :
    after.depth = before.depth := by
  -- at its own depth the reader stops at that depth, and it stops in one place only
  have same := (h.unique (ignores h before.depth)).2
  rw [same]
  rfl

/-! ## Composition -/

theorem IgnoresDepth.pure (answer : α) : IgnoresDepth (pure answer : TextReader α) := by
  intro before own after h depth
  obtain ⟨rfl, rfl⟩ := reads_pure.1 h
  exact reads_pure.2 ⟨rfl, rfl⟩

theorem IgnoresDepth.bind {reader : TextReader α} {next : α → TextReader β}
    (hreader : IgnoresDepth reader) (hnext : ∀ own, IgnoresDepth (next own)) :
    IgnoresDepth (reader >>= next) := by
  intro before answer after h depth
  obtain ⟨own, middle, hown, hrest⟩ := reads_bind.1 h
  exact reads_bind.2 ⟨own, middle.atDepth depth, hreader hown depth, hnext own hrest depth⟩

/-- A reader that looks at the cursor, but not at its depth. -/
theorem IgnoresDepth.get_bind {next : Cursor → TextReader α}
    (hnext : ∀ {cursor answer after}, Reads (next cursor) cursor answer after → ∀ depth,
      Reads (next (cursor.atDepth depth)) (cursor.atDepth depth) answer (after.atDepth depth)) :
    IgnoresDepth (get >>= next) := by
  intro before answer after h depth
  -- the cursor that is looked at is the one before, for there is no other
  have hget (cursor : Cursor) : Reads get cursor cursor cursor := rfl
  obtain ⟨own, middle, hown, hrest⟩ := reads_bind.1 h
  obtain ⟨rfl, rfl⟩ := hown.unique (hget before)
  exact reads_bind.2 ⟨_, _, hget (middle.atDepth depth), hnext hrest depth⟩

theorem IgnoresDepth.ite {p : Prop} [Decidable p] {yes no : TextReader α}
    (hyes : IgnoresDepth yes) (hno : IgnoresDepth no) : IgnoresDepth (if p then yes else no) := by
  split
  · exact hyes
  · exact hno

/-- What never succeeds cannot succeed differently. -/
theorem ignoresDepth_throw (fault : Fault) : IgnoresDepth (throw fault : TextReader α) := by
  intro before answer after h
  cases h

theorem ignoresDepth_malformedNext (m : Malformed) :
    IgnoresDepth (malformedNext m : TextReader α) := by
  intro before answer after h
  cases h

theorem ignoresDepth_malformedHere (m : Malformed) :
    IgnoresDepth (malformedHere m : TextReader α) := by
  intro before answer after h
  cases h

theorem ignoresDepth_andThen {reader : TextReader α} {close : TextReader Unit}
    (hreader : IgnoresDepth reader) (hclose : IgnoresDepth close) :
    IgnoresDepth (andThen reader close) := by
  intro before answer after h depth
  obtain ⟨middle, hanswer, hclosed⟩ := reads_andThen.1 h
  exact reads_andThen.2 ⟨middle.atDepth depth, hreader hanswer depth, hclose hclosed depth⟩

/-! ## Characters -/

theorem ignoresDepth_peek? : IgnoresDepth peek? := by
  rintro before answer after ⟨⟩ depth
  rfl

theorem ignoresDepth_peekIs (c : Char) : IgnoresDepth (peekIs c) := by
  rintro before answer after ⟨⟩ depth
  rfl

theorem ignoresDepth_advance : IgnoresDepth advance := by
  rintro ⟨rest, place, own⟩ answer after h depth
  cases rest with
  | nil =>
      cases h
      rfl
  | cons c rest =>
      cases h
      rfl

theorem ignoresDepth_peekToken? : IgnoresDepth peekToken? := by
  rintro before answer after ⟨⟩ depth
  rfl

theorem ignoresDepth_remaining : IgnoresDepth remaining := by
  rintro before answer after ⟨⟩ depth
  rfl

theorem ignoresDepth_takeDigits : IgnoresDepth takeDigits := by
  rintro before answer after ⟨⟩ depth
  rfl

/-! ## Strings -/

theorem ignoresDepth_fourDigits : IgnoresDepth fourDigits := by
  refine IgnoresDepth.get_bind fun {cursor answer after} h depth => ?_
  split at h
  · cases h
  · rename_i place hplace
    split at h
    · rename_i a b c d hdigits
      cases h
      simp only [Cursor.atDepth, hplace, hdigits]
      rfl
    · cases h

theorem ignoresDepth_expected (c : Char) : IgnoresDepth (do
    match (← peek?) with
    | none => malformedNext .endInString
    | some d => if d = c then advance else malformedNext .brokenEscape) := by
  refine ignoresDepth_peek?.bind fun next => ?_
  cases next with
  | none =>
      exact ignoresDepth_malformedNext _
  | some d =>
      exact IgnoresDepth.ite ignoresDepth_advance (ignoresDepth_malformedNext _)

theorem ignoresDepth_codeEscape : IgnoresDepth codeEscape := by
  refine ignoresDepth_fourDigits.bind fun first => ?_
  split
  · exact ignoresDepth_malformedHere _
  split
  · exact IgnoresDepth.pure _
  refine (ignoresDepth_expected '\\').bind fun _ => (ignoresDepth_expected 'u').bind fun _ => ?_
  refine ignoresDepth_fourDigits.bind fun second => ?_
  split
  · exact ignoresDepth_malformedHere _
  · exact IgnoresDepth.pure _

theorem ignoresDepth_escape {code : TextReader Char} (hcode : IgnoresDepth code) :
    IgnoresDepth (escape code) := by
  refine ignoresDepth_peek?.bind fun next => ?_
  cases next with
  | none =>
      exact ignoresDepth_malformedNext _
  | some c =>
      dsimp only
      split
      · exact ignoresDepth_advance.bind fun _ => IgnoresDepth.pure _
      · exact IgnoresDepth.ite (ignoresDepth_advance.bind fun _ => hcode)
          (ignoresDepth_malformedNext _)

theorem ignoresDepth_stringLoop (steps : Nat) (read : List Char) :
    IgnoresDepth (stringLoop steps read) := by
  induction steps generalizing read with
  | zero =>
      exact ignoresDepth_malformedNext _
  | succ steps ih =>
      refine ignoresDepth_peek?.bind fun next => ?_
      split
      · exact ignoresDepth_malformedNext _
      · exact ignoresDepth_advance.bind fun _ => IgnoresDepth.pure _
      · exact ignoresDepth_advance.bind fun _ =>
          (ignoresDepth_escape ignoresDepth_codeEscape).bind fun c => ih (c :: read)
      · exact IgnoresDepth.ite (ignoresDepth_malformedNext _)
          (ignoresDepth_advance.bind fun _ => ih _)

theorem ignoresDepth_stringBody : IgnoresDepth stringBody :=
  ignoresDepth_remaining.bind fun _ => ignoresDepth_stringLoop _ _

theorem ignoresDepth_word (cs : List Char) : IgnoresDepth (word cs) := by
  induction cs with
  | nil =>
      exact IgnoresDepth.pure _
  | cons c rest ih =>
      refine ignoresDepth_peek?.bind fun next => ?_
      cases next with
      | none =>
          exact ignoresDepth_malformedNext _
      | some d =>
          exact IgnoresDepth.ite (ignoresDepth_advance.bind fun _ => ih)
            (ignoresDepth_malformedNext _)

/-! ## Numbers -/

theorem ignoresDepth_floatOf (negative : Bool) (g : Gathered) :
    IgnoresDepth (floatOf negative g) := by
  unfold floatOf
  split
  · exact IgnoresDepth.pure _
  · exact ignoresDepth_malformedHere _

theorem ignoresDepth_exponentPart (negative : Bool) (g : Gathered) :
    IgnoresDepth (exponentPart negative g) := by
  refine ignoresDepth_advance.bind fun _ => ignoresDepth_peek?.bind fun sign => ?_
  extract_lets down rest
  have behindSign (u : Unit) : IgnoresDepth (rest u) := by
    refine ignoresDepth_peek?.bind fun next => ?_
    cases next with
    | none =>
        exact ignoresDepth_malformedNext _
    | some c =>
        refine IgnoresDepth.ite (ignoresDepth_malformedNext _) ?_
        refine IgnoresDepth.get_bind fun {cursor _ _} h depth => ?_
        -- the cursor is only asked for its place
        refine (ignoresDepth_takeDigits.bind fun digits => ?_) h depth
        extract_lets fits
        rcases fits with ⟨value, taken, all⟩
        exact IgnoresDepth.ite (ignoresDepth_floatOf negative _)
          (IgnoresDepth.ite (IgnoresDepth.pure _) (ignoresDepth_throw _))
  exact IgnoresDepth.ite (ignoresDepth_advance.bind behindSign) (behindSign ())

theorem ignoresDepth_afterFraction (negative : Bool) (g : Gathered) :
    IgnoresDepth (afterFraction negative g) := by
  refine ignoresDepth_peek?.bind fun next => ?_
  split
  · exact ignoresDepth_exponentPart negative g
  · exact ignoresDepth_exponentPart negative g
  · exact ignoresDepth_floatOf negative g

theorem ignoresDepth_fractionPart (negative : Bool) (g : Gathered) :
    IgnoresDepth (fractionPart negative g) := by
  refine ignoresDepth_advance.bind fun _ => ignoresDepth_takeDigits.bind fun digits => ?_
  refine IgnoresDepth.ite (ignoresDepth_peek?.bind fun next => ?_)
    (ignoresDepth_afterFraction negative _)
  cases next with
  | none =>
      exact ignoresDepth_malformedNext _
  | some c =>
      exact ignoresDepth_malformedNext _

theorem ignoresDepth_unsignedNumeral (negative : Bool) :
    IgnoresDepth (unsignedNumeral negative) := by
  refine ignoresDepth_peek?.bind fun next => ?_
  cases next with
  | none =>
      exact ignoresDepth_malformedNext _
  | some c =>
      refine IgnoresDepth.ite (ignoresDepth_malformedNext _) ?_
      refine IgnoresDepth.get_bind fun {cursor _ _} h depth => ?_
      refine (ignoresDepth_takeDigits.bind fun digits => ?_) h depth
      extract_lets rest
      have behindDigits (u : Unit) : IgnoresDepth (rest u) := by
        refine ignoresDepth_peek?.bind fun mark => ?_
        split
        · exact ignoresDepth_fractionPart negative _
        · exact ignoresDepth_exponentPart negative _
        · exact ignoresDepth_exponentPart negative _
        · exact IgnoresDepth.ite (IgnoresDepth.pure _) (ignoresDepth_floatOf negative _)
      exact IgnoresDepth.ite ((ignoresDepth_throw _).bind behindDigits) (behindDigits ())

theorem ignoresDepth_numeral : IgnoresDepth numeral :=
  (ignoresDepth_peekIs '-').bind fun _ =>
    IgnoresDepth.ite (ignoresDepth_advance.bind fun _ => ignoresDepth_unsignedNumeral true)
      (ignoresDepth_unsignedNumeral false)

/-! ## Lists and objects -/

theorem ignoresDepth_hasElement (first : Bool) : IgnoresDepth (hasElement first) := by
  refine ignoresDepth_peekToken?.bind fun next => ?_
  cases next with
  | none =>
      exact ignoresDepth_malformedNext _
  | some c =>
      refine IgnoresDepth.ite (IgnoresDepth.pure _) (IgnoresDepth.ite (IgnoresDepth.pure _)
        (IgnoresDepth.ite ?_ (ignoresDepth_malformedNext _)))
      refine ignoresDepth_advance.bind fun _ => ignoresDepth_peekToken?.bind fun behind => ?_
      cases behind with
      | none =>
          exact ignoresDepth_malformedNext _
      | some d =>
          exact IgnoresDepth.ite (ignoresDepth_malformedNext _) (IgnoresDepth.pure _)

theorem ignoresDepth_elements {element : TextReader α} (helement : IgnoresDepth element)
    (first : Bool) : IgnoresDepth (elements element first) := by
  have hloop (steps : Nat) (first : Bool) : IgnoresDepth (elementLoop element steps first) := by
    induction steps generalizing first with
    | zero =>
        exact IgnoresDepth.pure _
    | succ steps ih =>
        refine (ignoresDepth_hasElement first).bind fun follows => ?_
        refine IgnoresDepth.ite ?_ (IgnoresDepth.pure _)
        exact helement.bind fun _ => (ih false).bind fun _ => IgnoresDepth.pure _
  exact ignoresDepth_remaining.bind fun _ => hloop _ first

theorem ignoresDepth_closeList : IgnoresDepth closeList := by
  refine ignoresDepth_peekToken?.bind fun next => ?_
  cases next with
  | none =>
      exact ignoresDepth_malformedNext _
  | some c =>
      refine IgnoresDepth.ite ignoresDepth_advance
        (IgnoresDepth.ite ?_ (ignoresDepth_malformedNext _))
      refine ignoresDepth_advance.bind fun _ => ignoresDepth_peekToken?.bind fun behind => ?_
      split
      · exact ignoresDepth_malformedNext _
      · exact ignoresDepth_malformedNext _

theorem ignoresDepth_hasName (first : Bool) : IgnoresDepth (hasName first) := by
  have named : IgnoresDepth (do
      advance
      return true : TextReader Bool) :=
    ignoresDepth_advance.bind fun _ => IgnoresDepth.pure _
  refine ignoresDepth_peekToken?.bind fun next => ?_
  cases next with
  | none =>
      exact ignoresDepth_malformedNext _
  | some c =>
      refine IgnoresDepth.ite (IgnoresDepth.pure _) (IgnoresDepth.ite
        (IgnoresDepth.ite named (ignoresDepth_malformedNext _))
        (IgnoresDepth.ite ?_ (ignoresDepth_malformedNext _)))
      refine ignoresDepth_advance.bind fun _ => ignoresDepth_peekToken?.bind fun behind => ?_
      cases behind with
      | none =>
          exact ignoresDepth_malformedNext _
      | some d =>
          exact IgnoresDepth.ite named
            (IgnoresDepth.ite (ignoresDepth_malformedNext _) (ignoresDepth_malformedNext _))

theorem ignoresDepth_colon : IgnoresDepth colon := by
  refine ignoresDepth_peekToken?.bind fun next => ?_
  cases next with
  | none =>
      exact ignoresDepth_malformedNext _
  | some c =>
      exact IgnoresDepth.ite ignoresDepth_advance (ignoresDepth_malformedNext _)

theorem ignoresDepth_closeObject : IgnoresDepth closeObject := by
  refine ignoresDepth_peekToken?.bind fun next => ?_
  cases next with
  | none =>
      exact ignoresDepth_malformedNext _
  | some c =>
      exact IgnoresDepth.ite ignoresDepth_advance
        (IgnoresDepth.ite (ignoresDepth_malformedNext _) (ignoresDepth_malformedNext _))

theorem ignoresDepth_inOrder {element : TextReader α} (helement : IgnoresDepth element) :
    IgnoresDepth (inOrder element) := by
  have hloop (steps : Nat) (first : Bool) : IgnoresDepth (membersInOrder element steps first) := by
    induction steps generalizing first with
    | zero =>
        exact IgnoresDepth.pure _
    | succ steps ih =>
        refine (ignoresDepth_hasName first).bind fun named => ?_
        refine IgnoresDepth.ite ?_ (IgnoresDepth.pure _)
        exact ignoresDepth_stringBody.bind fun _ => ignoresDepth_colon.bind fun _ =>
          helement.bind fun _ => (ih false).bind fun _ => IgnoresDepth.pure _
  exact ignoresDepth_remaining.bind fun _ => hloop _ true

/-! ## Values -/

theorem ignoresDepth_scalar (c : Char) : IgnoresDepth (scalar c) := by
  have worded (cs : List Char) (value : Json) : IgnoresDepth (do
      advance
      word cs
      return value : TextReader Json) :=
    ignoresDepth_advance.bind fun _ => (ignoresDepth_word cs).bind fun _ => IgnoresDepth.pure _
  refine IgnoresDepth.ite (worded _ _) (IgnoresDepth.ite (worded _ _) (IgnoresDepth.ite (worded _ _)
    (IgnoresDepth.ite ?string (IgnoresDepth.ite ?number (ignoresDepth_malformedNext _)))))
  case string =>
    exact ignoresDepth_advance.bind fun _ => ignoresDepth_stringBody.bind fun _ =>
      IgnoresDepth.pure _
  case number =>
    exact ignoresDepth_numeral.bind fun _ => IgnoresDepth.pure _

/-- A value that is nested less than a fixed depth. -/
theorem ignoresDepth_wireWithin (depth : Nat) : IgnoresDepth (wireWithin depth) := by
  induction depth with
  | zero =>
      exact ignoresDepth_malformedNext _
  | succ depth ih =>
      refine ignoresDepth_peekToken?.bind fun next => ?_
      split
      · exact ignoresDepth_malformedNext _
      · refine IgnoresDepth.ite (ignoresDepth_malformedNext _) (ignoresDepth_advance.bind fun _ => ?_)
        exact (ignoresDepth_andThen (ignoresDepth_elements ih true) ignoresDepth_closeList).bind
          fun _ => IgnoresDepth.pure _
      · refine IgnoresDepth.ite (ignoresDepth_malformedNext _) (ignoresDepth_advance.bind fun _ => ?_)
        exact (ignoresDepth_andThen (ignoresDepth_inOrder ih) ignoresDepth_closeObject).bind
          fun _ => IgnoresDepth.pure _
      · exact ignoresDepth_scalar _

end TextReader
end Json
end EventRules
