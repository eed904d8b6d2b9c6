import EventRules.Event.Basic
import EventRules.Proofs.Json.Fields

/-!
# Batch — laws of a batch of assignments

Assignments are made one after the other.  A key stands where it was first named, and has the change
that it was last given.

* `Batch.map_fst_ofAssignments` — the keys of a batch, in their order;
* `Batch.lookup_ofAssignments`, `Batch.mem_ofAssignments_iff` — the changes of a batch;
* `Batch.ofAssignments_entries` — a batch is what its own entries make.
-/

namespace EventRules
namespace Batch

/-! ## One assignment -/

theorem lookup_putEntry (key : String) (change : Change) (entries : List (String × Change))
    (other : String) :
    (putEntry key change entries).lookup other =
      if other = key then some change else entries.lookup other := by
  induction entries with
  | nil =>
      rw [putEntry, lookup_cons_ite]
  | cons first rest ih =>
      rcases first with ⟨own, before⟩
      by_cases hown : own = key
      · subst hown
        rw [putEntry, if_pos rfl, lookup_cons_ite, lookup_cons_ite]
        split <;> rfl
      · rw [putEntry, if_neg hown, lookup_cons_ite, lookup_cons_ite, ih]
        by_cases h : other = key
        · have hne : other ≠ own := fun same => hown (same.symm.trans h)
          rw [if_neg hne, if_pos h, if_pos h]
        · rw [if_neg h, if_neg h]

/-- A new key is put behind the others. -/
theorem putEntry_of_not_mem {key : String} {change : Change} {entries : List (String × Change)}
    (h : key ∉ entries.map Prod.fst) : putEntry key change entries = entries ++ [(key, change)] := by
  induction entries with
  | nil =>
      rfl
  | cons first rest ih =>
      rcases first with ⟨own, before⟩
      obtain ⟨hne, hrest⟩ : key ≠ own ∧ key ∉ rest.map Prod.fst := by
        simpa only [List.map_cons, List.mem_cons, not_or] using h
      rw [putEntry, if_neg hne.symm, ih hrest, List.cons_append]

/-! ## All assignments -/

theorem ofAssignments_concat (assignments : List (String × Change)) (key : String)
    (change : Change) :
    (ofAssignments (assignments ++ [(key, change)])).entries =
      putEntry key change (ofAssignments assignments).entries := by
  rw [ofAssignments, List.foldl_append]
  rfl

/-- Each key stands where it was first named. -/
theorem map_fst_ofAssignments (assignments : List (String × Change)) :
    (ofAssignments assignments).entries.map Prod.fst = (assignments.map Prod.fst).eraseDups := by
  -- the last assignment is the last one made, so the induction is from the other end
  induction assignments using List.reverseRecOn with
  | nil =>
      rfl
  | append_singleton earlier last ih =>
      rcases last with ⟨key, change⟩
      rw [ofAssignments_concat, map_fst_putEntry, ih, List.map_append, List.eraseDups_append]
      by_cases h : key ∈ earlier.map Prod.fst
      · have hmem : key ∈ (earlier.map Prod.fst).eraseDups := List.mem_eraseDups.2 h
        rw [if_pos hmem]
        have : [key].removeAll (earlier.map Prod.fst) = [] := by
          simpa [List.removeAll] using h
        simp [this]
      · have hmem : key ∉ (earlier.map Prod.fst).eraseDups := fun hkey =>
          h (List.mem_eraseDups.1 hkey)
        rw [if_neg hmem]
        have : [key].removeAll (earlier.map Prod.fst) = [key] := by
          simpa [List.removeAll] using h
        rw [List.map_singleton, this]
        simp [List.eraseDups_cons]

/-- The change of a key is the last that it was given. -/
theorem lookup_ofAssignments (assignments : List (String × Change)) (key : String) :
    (ofAssignments assignments).entries.lookup key = assignments.reverse.lookup key := by
  induction assignments using List.reverseRecOn with
  | nil =>
      rfl
  | append_singleton earlier last ih =>
      rcases last with ⟨own, change⟩
      rw [ofAssignments_concat, lookup_putEntry, ih, List.reverse_append]
      rw [List.reverse_singleton, List.singleton_append, lookup_cons_ite]

theorem mem_ofAssignments_iff {assignments : List (String × Change)} {key : String}
    {change : Change} :
    (key, change) ∈ (ofAssignments assignments).entries ↔
      assignments.reverse.lookup key = some change := by
  rw [mem_iff_lookup (ofAssignments assignments).nodup, lookup_ofAssignments]

theorem entries_ofAssignments {entries : List (String × Change)}
    (nodup : (entries.map Prod.fst).Nodup) : (ofAssignments entries).entries = entries := by
  induction entries using List.reverseRecOn with
  | nil =>
      rfl
  | append_singleton earlier last ih =>
      rcases last with ⟨key, change⟩
      rw [List.map_append, List.nodup_append] at nodup
      obtain ⟨hearlier, -, hapart⟩ := nodup
      have hnew : key ∉ earlier.map Prod.fst := fun hmem => hapart key hmem key (by simp) rfl
      rw [ofAssignments_concat, ih hearlier, putEntry_of_not_mem hnew]

/-- A batch is what its own entries make. -/
theorem ofAssignments_entries (batch : Batch) : ofAssignments batch.entries = batch :=
  Batch.ext (entries_ofAssignments batch.nodup)

end Batch
end EventRules
