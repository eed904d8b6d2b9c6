import EventRules.Decode.Tree
import EventRules.Proofs.Json.Fields
import EventRules.Proofs.Outcome

/-!
# Gather — what a record has gathered from a value

The fields of a record are read into an accumulator one after the other.  What every single field
preserves holds of the accumulator at the end.

* `TreeReader.members_induction` — along the members of an object, with the members read so far;
* `Json.sent?`, `TreeReader.record_sent` — what was sent for one field, and what was gathered of it.
-/

namespace EventRules

/-- What was sent for a field of a record, which may also be a list of its fields; of several entries
of an object the last one counts. -/
def Json.sent? (name : String) (index : Nat) : Json → Option Json
  | .object entries => entries.reverse.lookup name
  | .array items => items[index]?
  | _ => none

/-- What was sent last counts. -/
theorem lookup_reverse_concat (read : List (String × Json)) (own : String) (value : Json)
    (name : String) :
    (read ++ [(own, value)]).reverse.lookup name =
      if name = own then some value else read.reverse.lookup name := by
  rw [List.reverse_append, List.reverse_singleton, List.singleton_append, lookup_cons_ite]

namespace TreeReader

/-! ## Texts -/

theorem text_eq_ok {value : Json} {s : String} (h : text value = .ok s) :
    value = .string s := by
  cases value with
  | string own =>
      cases h
      rfl
  | _ =>
      cases h

theorem optional_text_eq_ok {value : Json} {found : Option String}
    (h : optional text value = .ok found) :
    value = (found.map Json.string).getD .null := by
  cases value with
  | null =>
      cases h
      rfl
  | string own =>
      cases h
      rfl
  | _ =>
      cases h

/-! ## Records -/

variable {σ α : Type} {r : Record TreeReader σ α}

/-- Along the members of an object. -/
theorem members_induction {P : List (String × Json) → σ → Prop}
    (known : ∀ {read : List (String × Json)} {name : String} {value : Json}
      {field : Field TreeReader σ} {acc next : σ}, r.field? name = some field →
      field.isSet acc = false → P read acc → field.read acc value = .ok next →
      P (read ++ [(name, value)]) next)
    (ignored : ∀ {read : List (String × Json)} {name : String} {value : Json} {acc : σ},
      r.field? name = none → r.others = .ignored → P read acc → P (read ++ [(name, value)]) acc)
    (kept : ∀ {read : List (String × Json)} {name : String} {value : Json} {acc next : σ}
      {keep : String → σ → TreeReader σ}, r.field? name = none → r.others = .kept keep →
      P read acc → keep name acc value = .ok next → P (read ++ [(name, value)]) next)
    (read : List (String × Json)) {entries : List (String × Json)} {acc final : σ}
    (h : members r entries acc = .ok final) (hacc : P read acc) : P (read ++ entries) final := by
  -- the members that are left get fewer, those that have been read more
  induction entries generalizing read acc with
  | nil =>
      cases h
      rwa [List.append_nil]
  | cons first rest ih =>
      rcases first with ⟨name, value⟩
      have happend : read ++ (name, value) :: rest = (read ++ [(name, value)]) ++ rest := by
        simp
      rw [happend]
      rw [members] at h
      split at h
      · rename_i field hfield
        cases hset : field.isSet acc with
        | true =>
            rw [hset] at h
            cases h
        | false =>
            rw [hset] at h
            obtain ⟨next, hread, hrest⟩ := ok_of_bind h
            exact ih _ hrest (known hfield hset hacc hread)
      · rename_i hfield
        split at h
        · rename_i hothers
          exact ih _ h (ignored hfield hothers hacc)
        · rename_i keep hothers
          obtain ⟨next, hread, hrest⟩ := ok_of_bind h
          exact ih _ hrest (kept hfield hothers hacc hread)

/-- Reading a field keeps something true of the accumulator. -/
def Preserves (P : σ → Prop) (field : Field TreeReader σ) : Prop :=
  ∀ acc value next, P acc → field.read acc value = .ok next → P next

/-- Along the values of a list. -/
theorem places_induction {P : σ → Prop} {fields : List (Field TreeReader σ)}
    (known : ∀ field ∈ fields, Preserves P field) {seen : Nat} {items left : List Json}
    {acc final : σ} (h : places r seen fields items acc = .ok (final, left)) (hacc : P acc) :
    P final := by
  induction fields generalizing seen items acc with
  | nil =>
      cases h
      exact hacc
  | cons field fields ih =>
      have hlater := fun other hother => known other (List.mem_cons_of_mem field hother)
      cases items with
      | nil =>
          rw [places] at h
          split at h
          · exact ih hlater h hacc
          · cases h
      | cons item items =>
          obtain ⟨next, hread, hrest⟩ := ok_of_bind h
          exact ih hlater hrest (known field List.mem_cons_self acc item next hacc hread)

/-- Reading a field records what was sent for it. -/
def Records (P : Option Json → σ → Prop) (field : Field TreeReader σ) : Prop :=
  ∀ sent acc value next, P sent acc → field.read acc value = .ok next → P (some value) next

/-- Along the values of a list, one field being watched. -/
theorem places_sent {P : Option Json → σ → Prop} {field : Field TreeReader σ}
    {before after : List (Field TreeReader σ)} (watched : Records P field)
    (earlier : ∀ other ∈ before, ∀ sent, Preserves (P sent) other)
    (later : ∀ other ∈ after, ∀ sent, Preserves (P sent) other) {seen : Nat}
    {items left : List Json} {acc final : σ}
    (h : places r seen (before ++ field :: after) items acc = .ok (final, left))
    (hacc : P none acc) : P items[before.length]? final := by
  -- the fields before the watched one take a value each, or the list ends before it
  induction before generalizing seen items acc with
  | nil =>
      cases items with
      | nil =>
          rw [List.nil_append, places] at h
          split at h
          · exact places_induction (fun other hother => later other hother none) h hacc
          · cases h
      | cons item items =>
          obtain ⟨next, hread, hrest⟩ := ok_of_bind h
          exact places_induction (fun other hother => later other hother (some item)) hrest
            (watched none acc item next hacc hread)
  | cons other before ih =>
      have hearlier := fun another hanother => earlier another (List.mem_cons_of_mem other hanother)
      cases items with
      | nil =>
          rw [List.cons_append, places] at h
          split at h
          · exact ih hearlier h hacc
          · cases h
      | cons item items =>
          obtain ⟨next, hread, hrest⟩ := ok_of_bind h
          exact ih hearlier hrest (earlier other List.mem_cons_self none acc item next hacc hread)

/-- A record that is a list has been gathered from its first values. -/
theorem ok_of_record_array (ignores : r.others = .ignored) {items : List Json} {answer : α}
    (h : record r (.array items) = .ok answer) :
    ∃ acc left, places r 0 r.fields items r.start = .ok (acc, left) ∧ r.finish acc = .ok answer := by
  rw [record, ignores] at h
  obtain ⟨⟨acc, left⟩, hplaces, hdone⟩ := ok_of_bind h
  obtain ⟨result, hfinish, hlength⟩ := ok_of_bind hdone
  refine ⟨acc, left, hplaces, ?_⟩
  rw [hfinish]
  dsimp only at hlength
  split at hlength
  · exact hlength
  · cases hlength

/-- What a record has gathered of one of its fields is what was sent for it, in either form. -/
theorem record_sent {P : Option Json → σ → Prop} {name : String} {field : Field TreeReader σ}
    {before after : List (Field TreeReader σ)} (ignores : r.others = .ignored)
    (hfields : r.fields = before ++ field :: after) (hname : field.names = [name])
    (hothers : ∀ other ∈ before ++ after, name ∉ other.names ∧ ∀ sent, Preserves (P sent) other)
    (watched : Records P field) (start : P none r.start) {value : Json} {answer : α}
    (h : record r value = .ok answer) :
    ∃ acc, P (value.sent? name before.length) acc ∧ r.finish acc = .ok answer := by
  cases value with
  | object entries =>
      obtain ⟨acc, hmembers, hfinish⟩ := ok_of_bind h
      refine ⟨acc, ?_, hfinish⟩
      refine members_induction (P := fun read acc => P (read.reverse.lookup name) acc)
        ?_ ?_ ?_ [] hmembers start
      · intro read own value found acc next hfound _ hacc hread
        have hcontains : own ∈ found.names := by
          simpa using List.find?_some hfound
        have hmem : found ∈ before ++ field :: after :=
          hfields ▸ List.mem_of_find?_eq_some hfound
        have hcases : found = field ∨ found ∈ before ++ after := by
          simpa [or_left_comm] using hmem
        rw [lookup_reverse_concat]
        rcases hcases with rfl | hother
        · rw [hname, List.mem_singleton] at hcontains
          rw [if_pos hcontains.symm]
          exact watched _ acc value next hacc hread
        · have hne : name ≠ own := by
            rintro rfl
            exact (hothers found hother).1 hcontains
          rw [if_neg hne]
          exact (hothers found hother).2 _ acc value next hacc hread
      · intro read own value acc hnone _ hacc
        have hne : name ≠ own := by
          rintro rfl
          have hmem : field ∈ r.fields := hfields ▸ List.mem_append_right _ List.mem_cons_self
          have hcontains := List.find?_eq_none.1 hnone field hmem
          rw [hname] at hcontains
          simp at hcontains
        rw [lookup_reverse_concat, if_neg hne]
        exact hacc
      · intro read own value acc next keep _ hkept
        rw [ignores] at hkept
        cases hkept
  | array items =>
      obtain ⟨acc, left, hplaces, hfinish⟩ := ok_of_record_array ignores h
      rw [hfields] at hplaces
      refine ⟨acc, places_sent watched ?_ ?_ hplaces start, hfinish⟩
      · exact fun other hother => (hothers other (List.mem_append_left _ hother)).2
      · exact fun other hother => (hothers other (List.mem_append_right _ hother)).2
  | _ =>
      cases h

end TreeReader
end EventRules
