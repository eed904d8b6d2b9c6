import EventRules.Proofs.Decode.Gather
import EventRules.Proofs.Json.Canonical

/-!
# Lawful — what all forms of data have in common

Readers of records are written once for all forms of data, and so is what can be said about them.  Two
things count: which answers a reader can give at all, and which answer it gives where a value stands.

* `Answering` — both notions; `Record.Gathers` — a record along the members of an object;
* `LawfulSource` — what readers of one form of data owe to those notions.
-/

namespace EventRules

/-- What the readers of a form of data answer. -/
class Answering (m : Type → Type) where
  /-- A reader may answer so. -/
  Gives {α : Type} : m α → α → Prop
  /-- A reader answers so wherever a value stands. -/
  Stands {α : Type} : m α → Json → α → Prop

open Answering

section

variable {m : Type → Type} [Answering m] {σ α : Type}

/-- A record takes up the members of an object, none of which it passes over. -/
inductive Record.Gathers (r : Record m σ α) : List (String × Json) → σ → σ → Prop
  | nil {acc : σ} : Gathers r [] acc acc
  | known {name : String} {document : Json} {members : List (String × Json)} {field : Field m σ}
      {acc next final : σ} :
      r.field? name = some field → field.isSet acc = false →
      Stands (field.read acc) document next → Gathers r members next final →
      Gathers r ((name, document) :: members) acc final
  | kept {name : String} {document : Json} {members : List (String × Json)}
      {keep : String → σ → m σ} {acc next final : σ} :
      r.field? name = none → r.others = .kept keep →
      Stands (keep name acc) document next → Gathers r members next final →
      Gathers r ((name, document) :: members) acc final

/-- Reading the parts of a record keeps something true of its accumulator. -/
structure Record.Maintains (r : Record m σ α) (P : σ → Prop) : Prop where
  start : P r.start
  known : ∀ field ∈ r.fields, ∀ {acc next : σ}, P acc → Gives (field.read acc) next → P next
  kept : ∀ {keep : String → σ → m σ}, r.others = .kept keep →
    ∀ {name : String} {acc next : σ}, r.field? name = none → P acc →
      Gives (keep name acc) next → P next

end

theorem Record.eq_some_of_required {α : Type} {name : String} {value : Option α} {answer : α}
    (h : Record.required name value = .ok answer) : value = some answer := by
  cases value with
  | none =>
      cases h
  | some own =>
      cases h
      rfl

/-- The laws of a form of data. -/
class LawfulSource (m : Type → Type) [BatchSource m] [Answering m] : Prop extends LawfulMonad m where
  gives_pure {α : Type} {own answer : α} : Gives (pure own : m α) answer → own = answer
  gives_bind {α β : Type} {reader : m α} {next : α → m β} {answer : β} :
    Gives (reader >>= next) answer → ∃ own, Gives reader own ∧ Gives (next own) answer
  gives_json {value : Json} : Gives (Source.json : m Json) value → value.Canonical
  gives_optional_json {found : Option Json} : Gives (Source.optional Source.json : m _) found →
    ∀ value ∈ found, value.Canonical ∧ value ≠ .null
  gives_entries {α : Type} {reader : m α} {found : List (String × α)} :
    Gives (BatchSource.entries reader) found → ∀ entry ∈ found, Gives reader entry.2
  gives_record {σ α : Type} {r : Record m σ α} {P : σ → Prop} {answer : α} :
    r.Maintains P → Gives (Source.record r) answer → ∃ acc, P acc ∧ r.finish acc = .ok answer
  stands_map {α β : Type} {reader : m α} {document : Json} {answer : α} (f : α → β) :
    Stands reader document answer → Stands (f <$> reader) document (f answer)
  stands_text (s : String) : Stands (Source.text : m String) (.string s) s
  stands_json (value : Json) : Stands (Source.json : m Json) value value.canonical
  stands_optional {α : Type} {reader : m α} {document : Json} {answer : α} :
    document ≠ .null → Stands reader document answer →
      Stands (Source.optional reader) document (some answer)
  stands_entries {α : Type} {reader : m α} {members : List (String × Json)}
    {found : List (String × α)} :
    List.Forall₂ (fun member entry => member.1 = entry.1 ∧ Stands reader member.2 entry.2)
      members found → Stands (BatchSource.entries reader) (.object members) found
  stands_record {σ α : Type} {r : Record m σ α} {members : List (String × Json)} {acc : σ}
    {answer : α} :
    r.Gathers members r.start acc → r.finish acc = .ok answer →
      Stands (Source.record r) (.object members) answer

namespace LawfulSource

variable {m : Type → Type} [BatchSource m] [Answering m] [LawfulSource m] {α β : Type}

theorem gives_map {reader : m α} {f : α → β} {answer : β} (h : Gives (f <$> reader) answer) :
    ∃ own, Gives reader own ∧ f own = answer := by
  rw [map_eq_pure_bind] at h
  obtain ⟨own, hown, hpure⟩ := gives_bind h
  exact ⟨own, hown, gives_pure hpure⟩

theorem stands_bind_pure {reader : m α} {document : Json} {answer : α} (f : α → β)
    (h : Stands reader document answer) :
    Stands (do return f (← reader)) document (f answer) := by
  rw [bind_pure_comp]
  exact stands_map f h

end LawfulSource

/-! ## Values in memory -/

namespace TreeReader

variable {σ α : Type}

instance : Answering TreeReader where
  Gives reader answer := ∃ value, reader value = .ok answer
  Stands reader document answer := reader document = .ok answer

theorem gives_record {r : Record TreeReader σ α} {P : σ → Prop} {answer : α}
    (maintains : r.Maintains P) (h : Gives (record r) answer) :
    ∃ acc, P acc ∧ r.finish acc = .ok answer := by
  obtain ⟨value, h⟩ := h
  have known (field : Field TreeReader σ) (hfield : field ∈ r.fields) : Preserves P field :=
    fun acc value next hacc hread => maintains.known field hfield hacc ⟨value, hread⟩
  -- the members of an object come by their names, the items of a list by their places
  cases value with
  | object entries =>
      obtain ⟨acc, hmembers, hfinish⟩ := ok_of_bind h
      refine ⟨acc, ?_, hfinish⟩
      refine members_induction (P := fun _ acc => P acc) ?_ ?_ ?_ [] hmembers maintains.start
      · intro read name value field acc next hfield _ hacc hread
        exact known field (List.mem_of_find?_eq_some hfield) acc value next hacc hread
      · intro read name value acc _ _ hacc
        exact hacc
      · intro read name value acc next keep hnone hkept hacc hread
        exact maintains.kept hkept hnone hacc ⟨value, hread⟩
  | array items =>
      -- a list has no names for what a record keeps beside its fields
      cases hothers : r.others with
      | ignored =>
          obtain ⟨acc, left, hplaces, hfinish⟩ := ok_of_record_array hothers h
          exact ⟨acc, places_induction known hplaces maintains.start, hfinish⟩
      | kept keep =>
          rw [record, hothers] at h
          cases h
  | _ =>
      cases h

theorem members_of_gathers {r : Record TreeReader σ α} {members : List (String × Json)}
    {acc final : σ} (gathers : r.Gathers members acc final) :
    TreeReader.members r members acc = .ok final := by
  induction gathers with
  | nil =>
      rfl
  | known hfield hset hread _ ih =>
      rw [TreeReader.members, hfield]
      simp only [hset, Bool.false_eq_true, if_false]
      rw [show _ = Except.ok _ from hread]
      exact ih
  | kept hfield hothers hread _ ih =>
      rw [TreeReader.members, hfield]
      simp only [hothers]
      rw [show _ = Except.ok _ from hread]
      exact ih

theorem stands_record {r : Record TreeReader σ α} {members : List (String × Json)} {acc : σ}
    {answer : α} (gathers : r.Gathers members r.start acc) (h : r.finish acc = .ok answer) :
    Stands (record r) (.object members) answer := by
  show (do r.finish (← TreeReader.members r members r.start)) = Except.ok answer
  rw [members_of_gathers gathers]
  exact h

theorem optional_of_ne_null {reader : TreeReader α} {value : Json} (h : value ≠ .null) :
    optional reader value = some <$> reader value := by
  cases value with
  | null =>
      exact absurd rfl h
  | _ =>
      rfl

instance : LawfulSource TreeReader where
  gives_pure := by
    rintro α own answer ⟨value, ⟨⟩⟩
    rfl
  gives_bind := by
    rintro α β reader next answer ⟨value, h⟩
    obtain ⟨own, hown, hnext⟩ := ok_of_bind h
    exact ⟨own, ⟨value, hown⟩, ⟨value, hnext⟩⟩
  gives_json := by
    rintro _ ⟨value, ⟨⟩⟩
    exact Json.canonical_canonical value
  gives_optional_json := by
    rintro found ⟨value, h⟩ own hown
    by_cases hnull : value = .null
    · subst hnull
      cases h
      cases hown
    · have hsome : optional Source.json value = .ok found := h
      rw [optional_of_ne_null hnull] at hsome
      cases hsome
      cases hown
      exact ⟨Json.canonical_canonical value, Json.canonical_ne_null hnull⟩
  gives_entries := by
    rintro α reader found ⟨value, h⟩ entry hentry
    have hentries : entries reader value = .ok found := h
    cases value with
    | object members =>
        obtain ⟨⟨name, sent⟩, -, hentry⟩ := exists_of_mem_mapM hentries hentry
        obtain ⟨own, hown, hsame⟩ := ok_of_bind hentry
        cases hsame
        exact ⟨sent, hown⟩
    | _ =>
        cases hentries
  gives_record := gives_record
  stands_map := by
    intro α β reader document answer f h
    have hmap : (f <$> reader) document = f <$> reader document := rfl
    exact hmap.trans (congrArg (f <$> ·) h)
  stands_text s := rfl
  stands_json value := rfl
  stands_optional := by
    intro α reader document answer hnull h
    exact (optional_of_ne_null hnull).trans (congrArg (some <$> ·) h)
  stands_entries := by
    intro α reader members found h
    refine mapM_of_forall₂ (h.imp ?_)
    rintro ⟨name, sent⟩ ⟨own, answer⟩ ⟨rfl, hread⟩
    exact congrArg (fun result => (fun found => (name, found)) <$> result) hread
  stands_record := stands_record

end TreeReader
end EventRules
