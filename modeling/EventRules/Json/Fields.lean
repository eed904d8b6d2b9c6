/-!
# Fields — named values in the order of their names

A list of names with values, kept in strictly increasing order of the names, so that each name
stands once.  Names are ordered by code points.

* `Fields.insert` — puts a value under a name, replacing the value that was there;
* `Fields.ofList` — the fields of a list of assignments, the last one for a name winning;
* `Fields.sorted_ofList` — that these are in order.
-/

namespace EventRules

abbrev Fields (α : Type) := List (String × α)

namespace Fields

variable {α : Type}

/-- Names strictly increasing. -/
def Sorted (fields : Fields α) : Prop := fields.Pairwise fun a b => a.1 < b.1

def insert (name : String) (value : α) : Fields α → Fields α
  | [] => [(name, value)]
  | (n, v) :: rest =>
      if name < n then (name, value) :: (n, v) :: rest
      else if name = n then (name, value) :: rest
      else (n, v) :: insert name value rest

def ofList (assignments : List (String × α)) : Fields α :=
  assignments.foldl (fun fields (name, value) => fields.insert name value) []

def erase (name : String) (fields : Fields α) : Fields α :=
  fields.filter fun entry => entry.1 != name

def get? (name : String) (fields : Fields α) : Option α := fields.lookup name

/-! ## Order -/

theorem mem_of_mem_insert {name : String} {value : α} {fields : Fields α} {entry : String × α}
    (h : entry ∈ fields.insert name value) : entry = (name, value) ∨ entry ∈ fields := by
  induction fields with
  | nil =>
      exact Or.inl (List.mem_singleton.1 h)
  | cons first rest ih =>
      rcases first with ⟨own, before⟩
      rw [insert] at h
      split at h
      · exact List.mem_cons.1 h
      · split at h
        · rcases List.mem_cons.1 h with hfirst | hrest
          · exact Or.inl hfirst
          · exact Or.inr (List.mem_cons_of_mem _ hrest)
        · rcases List.mem_cons.1 h with hfirst | hrest
          · exact Or.inr (hfirst ▸ List.mem_cons_self)
          · rcases ih hrest with hnew | hold
            · exact Or.inl hnew
            · exact Or.inr (List.mem_cons_of_mem _ hold)

theorem sorted_insert {name : String} {value : α} {fields : Fields α} (sorted : Sorted fields) :
    Sorted (fields.insert name value) := by
  induction fields with
  | nil =>
      exact List.pairwise_singleton _ _
  | cons first rest ih =>
      rcases first with ⟨own, before⟩
      obtain ⟨hfirst, hrest⟩ := List.pairwise_cons.1 sorted
      rw [insert]
      split
      · rename_i hless
        refine List.pairwise_cons.2 ⟨fun entry hentry => ?_, sorted⟩
        rcases List.mem_cons.1 hentry with rfl | hlater
        · exact hless
        · exact String.lt_trans hless (hfirst entry hlater)
      · split
        · rename_i hsame
          exact List.pairwise_cons.2 ⟨fun entry hentry => hsame ▸ hfirst entry hentry, hrest⟩
        · rename_i hless hsame
          refine List.pairwise_cons.2 ⟨fun entry hentry => ?_, ih hrest⟩
          rcases mem_of_mem_insert hentry with rfl | hlater
          · have : own < name := by grind
            exact this
          · exact hfirst entry hlater

theorem mem_of_mem_foldl {assignments : List (String × α)} {fields : Fields α}
    {entry : String × α}
    (h : entry ∈ assignments.foldl (fun fields (name, value) => fields.insert name value) fields) :
    entry ∈ fields ∨ entry ∈ assignments := by
  induction assignments generalizing fields with
  | nil =>
      exact Or.inl h
  | cons first rest ih =>
      rcases ih h with hmade | hlater
      · rcases mem_of_mem_insert hmade with rfl | hold
        · exact Or.inr List.mem_cons_self
        · exact Or.inl hold
      · exact Or.inr (List.mem_cons_of_mem _ hlater)

theorem mem_of_mem_ofList {assignments : List (String × α)} {entry : String × α}
    (h : entry ∈ ofList assignments) : entry ∈ assignments :=
  (mem_of_mem_foldl h).resolve_left List.not_mem_nil

theorem sorted_foldl (assignments : List (String × α)) {fields : Fields α} (sorted : Sorted fields) :
    Sorted (assignments.foldl (fun fields (name, value) => fields.insert name value) fields) := by
  induction assignments generalizing fields with
  | nil =>
      exact sorted
  | cons first rest ih =>
      exact ih (sorted_insert sorted)

/-- The fields of any assignments are in order. -/
theorem sorted_ofList (assignments : List (String × α)) : Sorted (ofList assignments) :=
  sorted_foldl assignments List.Pairwise.nil

end Fields

end EventRules
