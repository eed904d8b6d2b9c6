import Mathlib.Data.List.Forall2
import EventRules.Decode.Tree
import EventRules.Proofs.Json.Reader

/-!
# Refine — two ways to gather the same record

A record may be gathered in more detail than it is kept.  If every field of the detailed record is,
once the detail is forgotten, the field of the plain one, then reading the plain record is reading the
detailed one and forgetting, from a text as from a value.

* `Record.Refines` — one record is another in more detail;
* `TextReader.record_of_refines`, `TreeReader.record_of_refines` — what their readers have in common.
-/

namespace EventRules

variable {σ σ' α α' : Type}

/-- A field of an accumulator in more detail. -/
structure Field.Refines {m : Type → Type} [Functor m] (forget : σ' → σ) (fine : Field m σ')
    (field : Field m σ) : Prop where
  names : field.names = fine.names
  optional : field.optional = fine.optional
  isSet : ∀ acc, field.isSet (forget acc) = fine.isSet acc
  read : ∀ acc, field.read (forget acc) = forget <$> fine.read acc

/-- A record in more detail; neither of the two keeps fields that it does not know. -/
structure Record.Refines {m : Type → Type} [Functor m] (forget : σ' → σ) (settle : α' → α)
    (fine : Record m σ' α') (record : Record m σ α) : Prop where
  description : record.description = fine.description
  start : record.start = forget fine.start
  fields : List.Forall₂ (Field.Refines forget) fine.fields record.fields
  ignores : record.others = .ignored
  fineIgnores : fine.others = .ignored
  finish : ∀ acc, record.finish (forget acc) = settle <$> fine.finish acc

namespace Record.Refines

variable {m : Type → Type} [Functor m] {forget : σ' → σ} {settle : α' → α}
  {fine : Record m σ' α'} {record : Record m σ α}

/-- Both records know the same names. -/
theorem field? (refines : Refines forget settle fine record) (name : String) :
    (fine.field? name = none ∧ record.field? name = none) ∨
    ∃ found own, fine.field? name = some found ∧ record.field? name = some own ∧
      found.Refines forget own := by
  have hfields := refines.fields
  unfold Record.field?
  generalize fine.fields = fineFields at hfields ⊢
  generalize record.fields = fields at hfields ⊢
  induction hfields with
  | nil =>
      exact Or.inl ⟨rfl, rfl⟩
  | @cons first own _ _ hfirst _ ih =>
      cases hname : first.names.contains name with
      | true =>
          have hown : own.names.contains name = true := by
            rwa [hfirst.names]
          exact Or.inr ⟨first, own, by simp only [List.find?_cons, hname],
            by simp only [List.find?_cons, hown], hfirst⟩
      | false =>
          have hown : own.names.contains name = false := by
            rwa [hfirst.names]
          simpa only [List.find?_cons, hname, hown] using ih

theorem lengthExpected (refines : Refines forget settle fine record) :
    record.lengthExpected = fine.lengthExpected := by
  rw [Record.lengthExpected, Record.lengthExpected, refines.description,
    refines.fields.length_eq]

end Record.Refines

/-! ## From a value -/

namespace TreeReader

variable {forget : σ' → σ} {settle : α' → α} {fine : Record TreeReader σ' α'}
  {plain : Record TreeReader σ α}

theorem members_of_refines (refines : Record.Refines forget settle fine plain)
    (entries : List (String × Json)) (acc : σ') :
    members plain entries (forget acc) = forget <$> members fine entries acc := by
  induction entries generalizing acc with
  | nil =>
      rfl
  | cons entry rest ih =>
      rcases entry with ⟨name, value⟩
      rcases refines.field? name with ⟨hfine, hplain⟩ | ⟨found, own, hfine, hplain, hfield⟩
      · simp only [members, hfine, hplain, refines.ignores, refines.fineIgnores, ih]
      · have hread : own.read (forget acc) value = forget <$> found.read acc value := by
          rw [hfield.read]
          rfl
        simp only [members, hfine, hplain, hfield.isSet, hread, Field.name, hfield.names]
        split
        · rfl
        · cases found.read acc value with
          | error cause =>
              rfl
          | ok next =>
              exact ih next

theorem places_of_refines (refines : Record.Refines forget settle fine plain)
    {fineFields : List (Field TreeReader σ')} {fields : List (Field TreeReader σ)}
    (h : List.Forall₂ (Field.Refines forget) fineFields fields) (seen : Nat) (items : List Json)
    (acc : σ') :
    places plain seen fields items (forget acc) =
      (fun found => (forget found.1, found.2)) <$> places fine seen fineFields items acc := by
  induction h generalizing seen items acc with
  | nil =>
      rfl
  | @cons first own _ _ hfirst _ ih =>
      cases items with
      | nil =>
          rw [places, places, hfirst.optional, refines.lengthExpected]
          split
          · exact ih seen [] acc
          · rfl
      | cons item rest =>
          have hread : own.read (forget acc) item = forget <$> first.read acc item := by
            rw [hfirst.read]
            rfl
          rw [places, places, hread]
          cases first.read acc item with
          | error cause =>
              rfl
          | ok next =>
              exact ih (seen + 1) rest next

theorem record_of_refines (refines : Record.Refines forget settle fine plain) :
    record plain = settle <$> record fine := by
  funext value
  have hmap : (settle <$> record fine) value = settle <$> record fine value := rfl
  rw [hmap]
  cases value with
  | object entries =>
      rw [record, record, refines.start, members_of_refines refines]
      cases members fine entries fine.start with
      | error cause =>
          rfl
      | ok acc =>
          exact refines.finish acc
  | array items =>
      simp only [record, refines.ignores, refines.fineIgnores, refines.start,
        places_of_refines refines refines.fields]
      cases places fine 0 fine.fields items fine.start with
      | error cause =>
          rfl
      | ok found =>
          rcases found with ⟨acc, left⟩
          simp only [bind, Except.bind, Functor.map, Except.map, refines.finish]
          cases fine.finish acc with
          | error cause =>
              rfl
          | ok answer =>
              cases left.isEmpty <;> rfl
  | _ =>
      simp only [record, refines.description]
      rfl

end TreeReader

/-! ## From a text -/

namespace Json.TextReader

variable {forget : σ' → σ} {settle : α' → α} {fine : Record TextReader σ' α'}
  {plain : Record TextReader σ α}

theorem member_of_refines (refines : Record.Refines forget settle fine plain) (name : String)
    (acc : σ') : member plain name (forget acc) = forget <$> member fine name acc := by
  rcases refines.field? name with ⟨hfine, hplain⟩ | ⟨found, own, hfine, hplain, hfield⟩
  · simp [member, hfine, hplain, refines.ignores, refines.fineIgnores]
  · simp only [member, hfine, hplain, hfield.isSet, hfield.read, Field.name, hfield.names]
    split
    · rfl
    · simp

theorem foldMembers_of_refines (refines : Record.Refines forget settle fine plain) (acc : σ') :
    foldMembers (member plain) (forget acc) = forget <$> foldMembers (member fine) acc := by
  have hloop : ∀ (steps : Nat) (first : Bool) (acc : σ'),
      memberLoop (member plain) steps first (forget acc) =
        forget <$> memberLoop (member fine) steps first acc := by
    intro steps
    induction steps with
    | zero =>
        intro first acc
        rfl
    | succ steps ih =>
        intro first acc
        rw [memberLoop, memberLoop, map_bind]
        refine bind_congr fun named => ?_
        cases named with
        | false =>
            rfl
        | true =>
            simp [member_of_refines refines, ih]
  rw [foldMembers, foldMembers, map_bind]
  exact bind_congr fun left => hloop (left + 1) true acc

theorem places_of_refines (refines : Record.Refines forget settle fine plain)
    {fineFields : List (Field TextReader σ')} {fields : List (Field TextReader σ)}
    (h : List.Forall₂ (Field.Refines forget) fineFields fields) (seen : Nat) (acc : σ') :
    places plain seen fields (forget acc) = forget <$> places fine seen fineFields acc := by
  induction h generalizing seen acc with
  | nil =>
      rfl
  | @cons first own _ _ hfirst _ ih =>
      rw [places, places, map_bind]
      refine bind_congr fun follows => ?_
      cases follows with
      | true =>
          simp [hfirst.read, ih]
      | false =>
          simp only [hfirst.optional, refines.lengthExpected, Bool.false_eq_true, if_false]
          split
          · exact ih seen acc
          · rfl

theorem finished_of_refines (refines : Record.Refines forget settle fine plain) (acc : σ') :
    finished plain (forget acc) = settle <$> finished fine acc := by
  rw [finished, finished, refines.finish]
  cases fine.finish acc <;> rfl

theorem record_of_refines (refines : Record.Refines forget settle fine plain) :
    record plain = settle <$> record fine := by
  rw [record, record, map_bind, refines.ignores, refines.fineIgnores]
  refine bind_congr fun next => ?_
  have hplaces : (do finished plain (← places plain 0 plain.fields plain.start)) =
      settle <$> (do finished fine (← places fine 0 fine.fields fine.start)) := by
    rw [refines.start, places_of_refines refines refines.fields]
    simp [finished_of_refines refines]
  have hmembers : (do finished plain (← foldMembers (member plain) plain.start)) =
      settle <$> (do finished fine (← foldMembers (member fine) fine.start)) := by
    rw [refines.start, foldMembers_of_refines refines]
    simp [finished_of_refines refines]
  rw [refines.description, hplaces, hmembers, bracketed_map, bracketed_map]
  split
  · rfl
  · rename_i hnext
    split
    · exact absurd rfl (hnext rfl)
    · rfl

end Json.TextReader

end EventRules
