import EventRules.Json.Text.Document

/-!
# Reader — how readers of a text run

A reader of a text either succeeds, and takes the cursor from one place to another, or it fails for
good: no reader tries again after a fault.

* `Reads` — a reader succeeds; `reads_bind` and its companions say when readers made of others do;
* `map_apply`, `located_map`, `bracketed_map` — what is done with an answer is no part of reading it.
-/

namespace EventRules
namespace Json
namespace TextReader

variable {α β : Type}

/-! ## Running -/

theorem map_apply (f : α → β) (reader : TextReader α) (cursor : Cursor) :
    (f <$> reader) cursor =
      match reader cursor with
      | (found, after) => (f <$> found, after) := by
  simp only [Functor.map, ExceptT.map, ExceptT.mk, bind, StateT.bind]
  rcases reader cursor with ⟨fault | answer, after⟩ <;> rfl

/-- Only a fault can get a place. -/
theorem located_apply (reader : TextReader α) (cursor : Cursor) :
    located reader cursor =
      match reader cursor with
      | (.ok answer, after) => (.ok answer, after)
      | (.error fault, after) =>
          (.error { fault with at? := fault.at? <|> some after.place }, after) := by
  simp only [located, tryCatch, tryCatchThe, MonadExceptOf.tryCatch, ExceptT.tryCatch, ExceptT.mk,
    bind, StateT.bind]
  rcases reader cursor with ⟨fault | answer, after⟩ <;> rfl

/-! ## Answers -/

section Maps

variable (f : α → β)

theorem malformedNext_map (m : Malformed) : f <$> malformedNext m = malformedNext m := by
  funext cursor
  rfl

theorem fail_map (cause : Cause) : f <$> fail cause = fail cause := by
  funext cursor
  rfl

theorem located_map (reader : TextReader α) : located (f <$> reader) = f <$> located reader := by
  funext cursor
  rw [located_apply, map_apply, map_apply, located_apply]
  rcases reader cursor with ⟨fault | answer, after⟩ <;> rfl

theorem andThen_map (reader : TextReader α) (close : TextReader Unit) :
    andThen (f <$> reader) close = f <$> andThen reader close := by
  funext cursor
  rw [andThen, map_apply, map_apply, andThen]
  rcases reader cursor with ⟨fault | answer, after⟩
  · rfl
  · simp only [Functor.map, Except.map]
    rcases close after with ⟨fault | closed, last⟩ <;> rfl

theorem nested_map (reader : TextReader α) : nested (f <$> reader) = f <$> nested reader := by
  rw [nested, nested, map_bind]
  refine bind_congr fun cursor => ?_
  split
  · rw [malformedNext_map]
  · simp [andThen_map]

theorem mismatch_map (c : Char) (expected : String) :
    f <$> mismatch c expected = mismatch c expected := by
  rw [mismatch, mismatch, ← located_map]
  congr 1
  split
  · exact fail_map f _
  · split
    · exact fail_map f _
    · rw [map_bind]
      exact bind_congr fun found => fail_map f _

theorem bracketed_map (opening : Char) (body : TextReader α) (close : TextReader Unit)
    (expected : String) :
    bracketed opening (f <$> body) close expected = f <$> bracketed opening body close expected := by
  rw [bracketed, bracketed, map_bind]
  refine bind_congr fun next => ?_
  cases next with
  | none =>
      exact (malformedNext_map f _).symm
  | some c =>
      simp only [nested_map, andThen_map, located_map]
      split
      · rfl
      · exact (mismatch_map f c expected).symm

end Maps

/-! ## Successes -/

/-- A reader succeeds, and takes the cursor from one place to another. -/
def Reads (reader : TextReader α) (before : Cursor) (answer : α) (after : Cursor) : Prop :=
  reader before = (.ok answer, after)

variable {before after : Cursor}

theorem reads_pure {own answer : α} :
    Reads (pure own) before answer after ↔ own = answer ∧ before = after := by
  constructor
  · intro h
    cases h
    exact ⟨rfl, rfl⟩
  · rintro ⟨rfl, rfl⟩
    rfl

theorem reads_bind {reader : TextReader α} {next : α → TextReader β} {answer : β} :
    Reads (reader >>= next) before answer after ↔
      ∃ own middle, Reads reader before own middle ∧ Reads (next own) middle answer after := by
  have hrun : (reader >>= next) before =
      match reader before with
      | (.ok own, middle) => next own middle
      | (.error fault, middle) => (.error fault, middle) := by
    simp only [bind, ExceptT.bind, ExceptT.mk, StateT.bind]
    rcases reader before with ⟨fault | own, middle⟩ <;> rfl
  rw [Reads, hrun]
  constructor
  · intro h
    cases hreader : reader before with
    | mk found middle =>
        rw [hreader] at h
        cases found with
        | error fault =>
            cases h
        | ok own =>
            exact ⟨own, middle, hreader, h⟩
  · rintro ⟨own, middle, hreader, hnext⟩
    rw [hreader]
    exact hnext

theorem reads_map {f : α → β} {reader : TextReader α} {answer : β} :
    Reads (f <$> reader) before answer after ↔ ∃ own, Reads reader before own after ∧ f own = answer := by
  rw [Reads, map_apply]
  constructor
  · intro h
    cases hreader : reader before with
    | mk found middle =>
        rw [hreader] at h
        cases found with
        | error fault =>
            cases h
        | ok own =>
            cases h
            exact ⟨own, hreader, rfl⟩
  · rintro ⟨own, hreader, rfl⟩
    rw [hreader]
    rfl

/-- A reader stops in one place with one answer. -/
theorem Reads.unique {reader : TextReader α} {answer other : α} {last : Cursor}
    (h : Reads reader before answer after) (hother : Reads reader before other last) :
    answer = other ∧ after = last := by
  cases h.symm.trans hother
  exact ⟨rfl, rfl⟩

theorem reads_andThen {reader : TextReader α} {close : TextReader Unit} {answer : α} :
    Reads (andThen reader close) before answer after ↔
      ∃ middle, Reads reader before answer middle ∧ Reads close middle () after := by
  constructor
  · intro h
    unfold Reads andThen at h
    rcases hreader : reader before with ⟨fault | own, middle⟩
    · rw [hreader] at h
      cases h
    · rw [hreader] at h
      rcases hclose : close middle with ⟨fault | closed, last⟩
      · simp only [hclose] at h
        cases h
      · simp only [hclose] at h
        cases h
        exact ⟨middle, hreader, hclose⟩
  · rintro ⟨middle, hreader, hclose⟩
    unfold Reads andThen
    rw [hreader]
    simp only [show close middle = (.ok (), after) from hclose]

theorem reads_located {reader : TextReader α} {answer : α} :
    Reads (located reader) before answer after ↔ Reads reader before answer after := by
  rw [Reads, located_apply, Reads]
  rcases reader before with ⟨fault | own, middle⟩
  · constructor
    · intro h
      cases h
    · intro h
      cases h
  · rfl

theorem not_reads_fail {cause : Cause} {answer : α} :
    ¬ Reads (fail cause) before answer after := by
  intro h
  cases h

/-- Answers what was found out before, or reports it. -/
def answered : Except Cause α → TextReader α
  | .ok own => return own
  | .error cause => fail cause

theorem reads_answered {outcome : Except Cause α} {answer : α} :
    Reads (answered outcome) before answer after ↔ outcome = .ok answer ∧ before = after := by
  cases outcome with
  | error cause =>
      simp [answered, not_reads_fail]
  | ok own =>
      simp [answered, reads_pure]

end TextReader

open TextReader in
/-- A text is decoded if a reader succeeds and nothing is left behind it. -/
theorem decode_eq_ok_iff {α : Type} {reader : TextReader α} {text : String} {answer : α} :
    decode reader text = .ok answer ↔
      ∃ middle after, Reads reader (Cursor.start text) answer middle ∧ Reads ending middle () after := by
  have hrun : decode reader text = .ok answer ↔ ∃ after,
      Reads (do
        let found ← reader
        ending
        return found) (Cursor.start text) answer after := by
    constructor
    · intro h
      exact ⟨_, Prod.ext h rfl⟩
    · rintro ⟨after, h⟩
      exact congrArg Prod.fst h
  simp only [hrun, reads_bind, reads_pure]
  constructor
  · rintro ⟨after, own, middle, hreader, ⟨⟩, last, hending, rfl, rfl⟩
    exact ⟨middle, _, hreader, hending⟩
  · rintro ⟨middle, after, hreader, hending⟩
    exact ⟨after, answer, middle, hreader, (), after, hending, rfl, rfl⟩

end Json
end EventRules
