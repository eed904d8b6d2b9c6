import Mathlib.Data.List.Forall2
import Mathlib.Data.List.Induction
import EventRules.Json.Fields

/-!
# Fields — laws of named values

* `Fields.lookup_ofList` — the last assignment of a name counts;
* `Fields.ofList_of_sorted` — fields that are in order already;
* `Fields.eq_of_lookup_eq` — fields in order are the same if they answer the same.
-/

namespace EventRules

variable {α : Type}

/-- The first entry answers, or else the others do. -/
theorem lookup_cons_ite (own : String) (value : α) (rest : List (String × α)) (name : String) :
    ((own, value) :: rest).lookup name = if name = own then some value else rest.lookup name := by
  by_cases h : name = own
  · rw [List.lookup_cons, if_pos h, beq_iff_eq.2 h]
  · rw [List.lookup_cons, if_neg h, beq_false_of_ne h]

theorem mem_of_lookup {entries : List (String × α)} {name : String} {value : α}
    (h : entries.lookup name = some value) : (name, value) ∈ entries := by
  induction entries with
  | nil =>
      cases h
  | cons first rest ih =>
      rcases first with ⟨own, before⟩
      rw [lookup_cons_ite] at h
      by_cases hname : name = own
      · rw [if_pos hname] at h
        cases h
        exact hname ▸ List.mem_cons_self
      · rw [if_neg hname] at h
        exact List.mem_cons_of_mem _ (ih h)

/-- Names without an entry are not found. -/
theorem lookup_eq_none_iff_not_mem {entries : List (String × α)} {name : String} :
    entries.lookup name = none ↔ name ∉ entries.map Prod.fst := by
  rw [List.lookup_eq_none_iff, List.mem_map]
  constructor
  · rintro h ⟨entry, hentry, rfl⟩
    exact bne_iff_ne.1 (h entry hentry) rfl
  · intro h entry hentry
    exact bne_iff_ne.2 fun hname => h ⟨entry, hentry, hname.symm⟩

/-- Entries under the same names are found under the same names. -/
theorem lookup_of_forall₂ {β : Type} {R : α → β → Prop} {entries : List (String × α)}
    {others : List (String × β)}
    (h : List.Forall₂ (fun a b => a.1 = b.1 ∧ R a.2 b.2) entries others) {name : String}
    {found : β} (hfound : others.lookup name = some found) :
    ∃ value, entries.lookup name = some value ∧ R value found := by
  induction h with
  | nil =>
      cases hfound
  | @cons first other _ _ hfirst _ ih =>
      rcases first with ⟨own, value⟩
      rcases other with ⟨same, answer⟩
      obtain ⟨rfl, hrelation⟩ := hfirst
      rw [lookup_cons_ite] at hfound ⊢
      by_cases hname : name = own
      · rw [if_pos hname] at hfound ⊢
        cases hfound
        exact ⟨value, rfl, hrelation⟩
      · rw [if_neg hname] at hfound ⊢
        exact ih hfound

/-- Where each name stands once, its entry is the one that is found. -/
theorem mem_iff_lookup {entries : List (String × α)} (nodup : (entries.map Prod.fst).Nodup)
    {name : String} {value : α} : (name, value) ∈ entries ↔ entries.lookup name = some value := by
  refine ⟨fun hmem => ?_, mem_of_lookup⟩
  induction entries with
  | nil =>
      cases hmem
  | cons first rest ih =>
      rcases first with ⟨own, before⟩
      obtain ⟨hown, hrest⟩ := List.nodup_cons.1 nodup
      rw [lookup_cons_ite]
      rcases List.mem_cons.1 hmem with hhere | hlater
      · cases hhere
        exact if_pos rfl
      · have hne : name ≠ own := by
          rintro rfl
          exact hown (List.mem_map.2 ⟨(name, value), hlater, rfl⟩)
        rw [if_neg hne]
        exact ih hrest hlater

namespace Fields

/-- Names in order stand once. -/
theorem nodup_of_sorted {fields : Fields α} (sorted : Sorted fields) :
    (fields.map Prod.fst).Nodup := by
  refine List.pairwise_map.2 (sorted.imp ?_)
  intro a b hless
  exact String.ne_of_lt hless

/-! ## One assignment -/

theorem lookup_insert (name : String) (value : α) (fields : Fields α) (other : String) :
    (fields.insert name value).lookup other =
      if other = name then some value else fields.lookup other := by
  induction fields with
  | nil =>
      rw [insert, lookup_cons_ite]
  | cons first rest ih =>
      rcases first with ⟨own, before⟩
      rw [insert]
      split
      · rw [lookup_cons_ite]
      · split
        · rename_i hown
          subst hown
          rw [lookup_cons_ite, lookup_cons_ite]
          split <;> rfl
        · rename_i hown
          rw [lookup_cons_ite, lookup_cons_ite, ih]
          by_cases h : other = own
          · have hne : other ≠ name := fun same => hown (same.symm.trans h)
            rw [if_pos h, if_neg hne, if_pos h]
          · rw [if_neg h, if_neg h]

/-- A name behind all others is put at the end. -/
theorem insert_behind {name : String} {value : α} {fields : Fields α}
    (h : ∀ entry ∈ fields, entry.1 < name) : fields.insert name value = fields ++ [(name, value)] := by
  induction fields with
  | nil =>
      rfl
  | cons first rest ih =>
      rcases first with ⟨own, before⟩
      have hown : own < name := h (own, before) List.mem_cons_self
      rw [insert, if_neg (String.lt_asymm hown), if_neg (String.ne_of_lt hown).symm,
        ih fun entry hentry => h entry (List.mem_cons_of_mem _ hentry)]
      rfl

/-! ## All assignments -/

theorem ofList_concat (assignments : List (String × α)) (name : String) (value : α) :
    ofList (assignments ++ [(name, value)]) = (ofList assignments).insert name value := by
  rw [ofList, List.foldl_append]
  rfl

theorem lookup_ofList (assignments : List (String × α)) (name : String) :
    (ofList assignments).lookup name = assignments.reverse.lookup name := by
  induction assignments using List.reverseRecOn with
  | nil =>
      rfl
  | append_singleton earlier last ih =>
      rcases last with ⟨own, value⟩
      rw [ofList_concat, lookup_insert, ih, List.reverse_append, List.reverse_singleton,
        List.singleton_append, lookup_cons_ite]

/-- Fields that are in order already stay as they are. -/
theorem ofList_of_sorted {fields : Fields α} (sorted : Sorted fields) : ofList fields = fields := by
  induction fields using List.reverseRecOn with
  | nil =>
      rfl
  | append_singleton earlier last ih =>
      obtain ⟨hearlier, -, hlast⟩ := List.pairwise_append.1 sorted
      rw [ofList_concat, ih hearlier]
      exact insert_behind fun entry hentry => hlast entry hentry last (List.mem_singleton_self _)

/-! ## Erasing -/

theorem lookup_erase (name : String) (fields : Fields α) (other : String) :
    (fields.erase name).lookup other = if other = name then none else fields.lookup other := by
  induction fields with
  | nil =>
      simp [erase]
  | cons first rest ih =>
      rcases first with ⟨own, value⟩
      rw [erase] at ih ⊢
      by_cases hown : own = name
      · subst hown
        rw [List.filter_cons_of_neg (by simp), ih, lookup_cons_ite]
        split <;> rfl
      · rw [List.filter_cons_of_pos (by simpa using hown), lookup_cons_ite, lookup_cons_ite, ih]
        by_cases hother : other = own
        · rw [if_pos hother, if_pos hother, if_neg fun same => hown (hother.symm.trans same)]
        · rw [if_neg hother, if_neg hother]

theorem sorted_erase {name : String} {fields : Fields α} (sorted : Sorted fields) :
    Sorted (fields.erase name) :=
  sorted.filter _

/-! ## Answers -/

/-- Fields in order are what they answer. -/
theorem eq_of_lookup_eq {fields others : Fields α} (sorted : Sorted fields)
    (sortedOthers : Sorted others) (same : ∀ name, fields.lookup name = others.lookup name) :
    fields = others := by
  have hmem : ∀ entry, entry ∈ fields ↔ entry ∈ others := by
    rintro ⟨name, value⟩
    rw [mem_iff_lookup (nodup_of_sorted sorted), mem_iff_lookup (nodup_of_sorted sortedOthers), same]
  have hnodup : ∀ {entries : Fields α}, Sorted entries → entries.Nodup := fun h =>
    h.imp fun hless hentry => String.ne_of_lt hless (congrArg Prod.fst hentry)
  have hperm : fields.Perm others :=
    (List.perm_ext_iff_of_nodup (hnodup sorted) (hnodup sortedOthers)).2 hmem
  exact hperm.eq_of_pairwise (fun a b _ _ hless hmore => absurd hmore (String.lt_asymm hless))
    sorted sortedOthers

end Fields
end EventRules
