import EventRules.Proofs.Decode.Lawful
import EventRules.Yaml.Reader

/-!
# Answers — what readers of a document can answer

Whatever a document says, and however often it refers to itself: a value that is read from it without
a schema is in canonical form, and a record is made of what its fields can answer.

* `NodeReader.gives_bind`, `NodeReader.gives_located` — parts of readers, wherever they stand;
* `NodeReader.gives_json` — values; `NodeReader.gives_optional`, `NodeReader.gives_list`,
  `NodeReader.gives_record` — typed data;
* `gives_of_decode` — data from a text.
-/

namespace EventRules
namespace Yaml

open Answering

instance : Answering NodeReader where
  Gives reader answer := ∃ setting jumps next, reader setting jumps = .ok (answer, next)
  Stands reader document answer := ∀ ⦃setting jumps next⦄,
    NodeReader.json setting jumps = .ok (document, next) →
      ∃ later, reader setting jumps = .ok (answer, later)

namespace NodeReader

variable {α β σ : Type} {answer : α}

/-! ## Steps -/

theorem gives_pure {own : α} (h : Gives (pure own : NodeReader α) answer) : own = answer := by
  obtain ⟨setting, jumps, next, ⟨⟩⟩ := h
  rfl

theorem gives_bind {reader : NodeReader α} {next : α → NodeReader β} {answer : β}
    (h : Gives (reader >>= next) answer) : ∃ own, Gives reader own ∧ Gives (next own) answer := by
  obtain ⟨setting, jumps, last, h⟩ := h
  have hboth : (reader setting jumps >>= fun found => next found.1 setting found.2) =
      .ok (answer, last) := h
  obtain ⟨⟨own, middle⟩, hown, hnext⟩ := ok_of_bind hboth
  exact ⟨own, ⟨setting, jumps, middle, hown⟩, ⟨setting, middle, last, hnext⟩⟩

/-- What a field of a record reads is put into the accumulator. -/
theorem gives_bind_pure {reader : NodeReader α} {f : α → β} {answer : β}
    (h : Gives (do return f (← reader)) answer) : ∃ own, Gives reader own ∧ f own = answer := by
  obtain ⟨own, hown, hpure⟩ := gives_bind h
  exact ⟨own, hown, gives_pure hpure⟩

theorem gives_map {reader : NodeReader α} {f : α → β} {answer : β}
    (h : Gives (f <$> reader) answer) : ∃ own, Gives reader own ∧ f own = answer := by
  rw [map_eq_pure_bind] at h
  exact gives_bind_pure h

theorem not_gives_throw {fault : Fault} : ¬ Gives (throw fault : NodeReader α) answer := by
  rintro ⟨setting, jumps, next, ⟨⟩⟩

theorem not_gives_fail {cause : Cause} : ¬ Gives (fail cause : NodeReader α) answer :=
  not_gives_throw

/-- A reader answers what it can answer at some other place. -/
theorem gives_withReader {change : Setting → Setting} {reader : NodeReader α}
    (h : Gives (withReader change reader) answer) : Gives reader answer := by
  obtain ⟨setting, jumps, next, h⟩ := h
  exact ⟨change setting, jumps, next, h⟩

/-- Saying where a fault was found changes no answer. -/
theorem gives_located {mark : Mark} {reader : NodeReader α}
    (h : Gives (located mark reader) answer) : Gives reader answer := by
  obtain ⟨setting, jumps, next, h⟩ := h
  unfold located at h
  -- a fault may be changed, an answer is not
  split at h
  · rename_i hread
    cases h
    exact ⟨setting, jumps, next, hread⟩
  · cases h
  · cases h

theorem gives_deeper {mark : Mark} {reader : NodeReader α}
    (h : Gives (deeper mark reader) answer) : Gives reader answer := by
  obtain ⟨setting, -, h⟩ := gives_bind h
  split at h
  · exact absurd h not_gives_throw
  · exact gives_withReader h

theorem not_gives_missing : ¬ Gives (missing : NodeReader α) answer := by
  intro h
  obtain ⟨setting, -, h⟩ := gives_bind h
  split at h <;> exact not_gives_throw h

theorem not_gives_mismatch {node : Node} {expected : String} :
    ¬ Gives (mismatch node expected : NodeReader α) answer := by
  intro h
  unfold mismatch at h
  split at h
  · split at h <;> exact not_gives_fail h
  · exact not_gives_fail h
  · exact not_gives_fail h
  · exact not_gives_throw h
  · exact not_gives_missing h
  · exact not_gives_missing h

/-! ## Parts of collections -/

theorem gives_eachItem {reader : NodeReader α} {items : List Node} {index : Nat}
    {answers : List α} (h : Gives (eachItem reader index items) answers) :
    ∀ answer ∈ answers, Gives reader answer := by
  induction items generalizing index answers with
  | nil =>
      cases gives_pure h
      simp
  | cons item rest ih =>
      obtain ⟨own, hown, h⟩ := gives_bind h
      obtain ⟨others, hothers, rfl⟩ := gives_bind_pure h
      exact List.forall_mem_cons.2 ⟨gives_withReader hown, ih hothers⟩

theorem gives_jsonEntries {value : NodeReader Json} {entries : List (Node × Node)}
    {expected : String} {found : List (String × Json)}
    (h : Gives (jsonEntries value expected entries) found) :
    ∀ entry ∈ found, Gives value entry.2 := by
  induction entries generalizing expected found with
  | nil =>
      cases gives_pure h
      simp
  | cons entry rest ih =>
      obtain ⟨name, -, h⟩ := gives_bind h
      obtain ⟨own, hown, h⟩ := gives_bind h
      obtain ⟨others, hothers, rfl⟩ := gives_bind_pure h
      exact List.forall_mem_cons.2 ⟨gives_withReader hown, ih hothers⟩

/-! ## Values -/

theorem canonical_of_jsonOf {found : Found} {value : Json} (h : jsonOf found = .ok value) :
    value.Canonical := by
  unfold jsonOf at h
  split at h
  · cases h
    trivial
  · cases h
    trivial
  · split at h <;> cases h
    trivial
  · split at h <;> cases h
    trivial
  · rename_i x
    cases h
    cases x <;> trivial
  · cases h
    trivial
  · cases h

theorem gives_jsonFound {found : Except Cause Found} {value : Json}
    (h : Gives (jsonFound found) value) : value.Canonical := by
  unfold jsonFound at h
  split at h
  · rename_i own hfound
    obtain ⟨scalar, -, hown⟩ := ok_of_bind hfound
    exact gives_pure h ▸ canonical_of_jsonOf hown
  · exact absurd h not_gives_fail

/-- What is read of a collection is read of its parts, unless it has a name or is too deep. -/
theorem gives_collection {tag : Option String} {inner : Option (NodeReader Json)}
    {read : NodeReader Json → NodeReader Json} {mark : Mark} {value : Json}
    (h : Gives (if (Scalar.variant? tag).isSome then jsonFound (.ok .enumeration)
      else
        match inner with
        | some reader => read reader
        | none => throw (.tooDeep mark)) value) :
    value.Canonical ∨ ∃ reader, inner = some reader ∧ Gives (read reader) value := by
  split at h
  · exact .inl (gives_jsonFound h)
  · cases inner with
    | some reader =>
        exact .inr ⟨reader, rfl, h⟩
    | none =>
        exact absurd h not_gives_throw

/-- A value is in canonical form if its parts are. -/
theorem gives_jsonWith {inner : Option (NodeReader Json)}
    (parts : ∀ reader ∈ inner, ∀ value, Gives reader value → value.Canonical) {value : Json}
    (h : Gives (jsonWith inner) value) : value.Canonical := by
  obtain ⟨node, -, h⟩ := gives_bind h
  have h := gives_located h
  cases node with
  | scalar text style tag mark =>
      dsimp only at h
      split at h <;> exact gives_jsonFound h
  | absent mark =>
      exact gives_pure h ▸ trivial
  | sequence items tag mark =>
      obtain done | ⟨reader, hreader, h⟩ := gives_collection h
      · exact done
      obtain ⟨found, hfound, rfl⟩ := gives_bind_pure h
      exact Json.canonicalItems_iff.2 fun item hitem =>
        parts reader hreader item (gives_eachItem hfound item hitem)
  | map entries tag mark =>
      obtain done | ⟨reader, hreader, h⟩ := gives_collection h
      · exact done
      obtain ⟨found, hfound, rfl⟩ := gives_bind_pure h
      -- names may be repeated in a document, and in any order
      refine Json.canonical_ofEntries (Json.canonicalEntries_iff.2 fun entry hentry => ?_)
      exact parts reader hreader entry.2 (gives_jsonEntries hfound entry hentry)
  | _ =>
      exact absurd h not_gives_missing

theorem gives_json {value : Json} (h : Gives json value) : value.Canonical := by
  -- the induction is on how many levels may still be opened
  have within (depth : Nat) : ∀ value, Gives (jsonWithin depth) value → value.Canonical := by
    induction depth with
    | zero =>
        exact fun value h => gives_jsonWith (by simp) h
    | succ depth ih =>
        exact fun value h => gives_jsonWith (by simpa using ih) h
  obtain ⟨setting, -, h⟩ := gives_bind h
  exact within setting.depth value h

/-! ## Typed data -/

theorem gives_optional {reader : NodeReader α} {found : Option α}
    (h : Gives (optional reader) found) : ∀ answer ∈ found, Gives reader answer := by
  have some_of {found : Option α} (h : Gives (some <$> reader) found) :
      ∀ answer ∈ found, Gives reader answer := by
    obtain ⟨own, hown, rfl⟩ := gives_map h
    rintro answer ⟨⟩
    exact hown
  obtain ⟨node, -, h⟩ := gives_bind h
  have h := gives_withReader h
  split at h
  · cases gives_pure h
    simp
  · split at h
    · split at h
      · cases gives_pure h
        simp
      · exact absurd h not_gives_fail
    · split at h
      · cases gives_pure h
        simp
      · exact some_of h
  · exact absurd h not_gives_missing
  · exact some_of h

theorem gives_list {reader : NodeReader α} {answers : List α} (h : Gives (list reader) answers) :
    ∀ answer ∈ answers, Gives reader answer := by
  obtain ⟨node, -, h⟩ := gives_bind h
  have h := gives_located h
  split at h
  · exact gives_eachItem (gives_deeper h)
  · split at h
    · cases gives_pure h
      simp
    · exact absurd h not_gives_mismatch

section Records

variable {r : Record NodeReader σ α} {P : σ → Prop}

theorem gives_members (maintains : r.Maintains P) {entries : List (Node × Node)} {acc final : σ}
    (h : Gives (members r entries acc) final) (hacc : P acc) : P final := by
  induction entries generalizing acc with
  | nil =>
      exact gives_pure h ▸ hacc
  | cons entry rest ih =>
      obtain ⟨name, -, h⟩ := gives_bind h
      split at h
      · rename_i field hfield
        split at h
        · exact absurd h not_gives_fail
        · obtain ⟨next, hread, h⟩ := gives_bind h
          exact ih h (maintains.known field (List.mem_of_find?_eq_some hfield) hacc
            (gives_withReader hread))
      · rename_i hnone
        -- what is not known is skipped or kept
        split at h
        · obtain ⟨-, -, h⟩ := gives_bind h
          exact ih h hacc
        · rename_i keep hkept
          obtain ⟨next, hread, h⟩ := gives_bind h
          exact ih h (maintains.kept hkept hnone hacc (gives_withReader hread))

theorem gives_finished {acc : σ} (h : Gives (finished r acc) answer) :
    r.finish acc = .ok answer := by
  unfold finished at h
  split at h
  · rename_i own hfinish
    rw [hfinish, gives_pure h]
  · exact absurd h not_gives_fail

theorem gives_record (maintains : r.Maintains P) (h : Gives (record r) answer) :
    ∃ acc, P acc ∧ r.finish acc = .ok answer := by
  obtain ⟨node, -, h⟩ := gives_bind h
  have h := gives_located h
  split at h
  · obtain ⟨acc, hacc, hfinished⟩ := gives_bind (gives_deeper h)
    exact ⟨acc, gives_members maintains hacc maintains.start, gives_finished hfinished⟩
  · split at h
    · exact ⟨r.start, maintains.start, gives_finished h⟩
    · exact absurd h not_gives_mismatch

end Records

end NodeReader

theorem gives_of_decode {α : Type} {reader : NodeReader α} {text : String} {answer : α}
    (h : decode reader text = .ok answer) : Gives reader answer := by
  obtain ⟨⟨own, jumps⟩, hread, h⟩ := ok_of_bind h
  dsimp only at h
  split at h
  · cases h
  · split at h <;> cases h
    exact ⟨_, _, _, hread⟩

end Yaml
end EventRules
