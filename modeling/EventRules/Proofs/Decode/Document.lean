import EventRules.Proofs.Decode.Lawful
import EventRules.Proofs.Json.Standing

/-!
# Document — texts as a lawful form of data

A reader of typed data finds in a text what it finds in the value that stands there.

* `TextReader.gives_record`, `TextReader.stands_record` — records, from the front to the back;
* the instance of `LawfulSource` for texts.
-/

namespace EventRules
namespace Json.TextReader

open Answering

variable {α σ : Type} {before after : Cursor}

instance : Answering TextReader where
  Gives reader answer := ∃ before after, Reads reader before answer after
  Stands reader document answer := ∀ ⦃before after : Cursor⦄, Reads value before document after →
    Reads reader before answer after

/-! ## What readers can answer -/

theorem not_reads_mismatch {c : Char} {expected : String} {answer : α} :
    ¬ Reads (mismatch c expected) before answer after := by
  intro h
  have hinner := reads_located.1 h
  obtain ⟨-, hfail⟩ | ⟨-, hrest⟩ := reads_ite.1 hinner
  · exact not_reads_fail hfail
  obtain ⟨-, hfail⟩ | ⟨-, hrest⟩ := reads_ite.1 hrest
  · exact not_reads_fail hfail
  obtain ⟨_, _, -, hfail⟩ := reads_bind.1 hrest
  exact not_reads_fail hfail

/-- What stands in brackets is what their body reads. -/
theorem gives_bracketed {opening : Char} {body : TextReader α} {close : TextReader Unit}
    {expected : String} {answer : α} (h : Gives (bracketed opening body close expected) answer) :
    Gives body answer := by
  obtain ⟨before, after, h⟩ := h
  obtain ⟨next, middle, -, hrest⟩ := reads_bind.1 h
  cases next with
  | none =>
      exact absurd hrest not_reads_malformedNext
  | some c =>
      -- the bracket, the depth and the way back to it lie around the body
      obtain ⟨-, hbody⟩ | ⟨-, hmismatch⟩ := reads_ite.1 hrest
      · obtain ⟨last, hnested, -⟩ := reads_andThen.1 (reads_located.1 hbody)
        obtain ⟨cursor, _, -, hdeep⟩ := reads_bind.1 hnested
        obtain ⟨-, hmalformed⟩ | ⟨-, hinner⟩ := reads_ite.1 hdeep
        · exact absurd hmalformed not_reads_malformedNext
        · obtain ⟨_, _, -, hinner⟩ := reads_bind.1 hinner
          obtain ⟨_, _, -, hinner⟩ := reads_bind.1 hinner
          obtain ⟨_, hown, -⟩ := reads_andThen.1 hinner
          exact ⟨_, _, hown⟩
      · exact absurd hmismatch not_reads_mismatch

theorem gives_memberLoop {step : String → σ → TextReader σ} {P : σ → Prop}
    (hstep : ∀ {name acc next}, P acc → Gives (step name acc) next → P next) {count : Nat}
    {first : Bool} {acc final : σ} (h : Gives (memberLoop step count first acc) final)
    (hacc : P acc) : P final := by
  induction count generalizing first acc with
  | zero =>
      obtain ⟨_, _, h⟩ := h
      exact (reads_pure.1 h).1 ▸ hacc
  | succ count ih =>
      obtain ⟨before, after, h⟩ := h
      obtain ⟨follows, _, -, hrest⟩ := reads_bind.1 h
      cases follows with
      | false =>
          exact (reads_pure.1 hrest).1 ▸ hacc
      | true =>
          obtain ⟨name, _, -, hrest⟩ := reads_bind.1 hrest
          obtain ⟨next, _, hnext, hlater⟩ := reads_bind.1 hrest
          exact ih ⟨_, _, hlater⟩ (hstep hacc ⟨_, _, hnext⟩)

theorem gives_foldMembers {step : String → σ → TextReader σ} {P : σ → Prop}
    (hstep : ∀ {name acc next}, P acc → Gives (step name acc) next → P next) {start final : σ}
    (h : Gives (foldMembers step start) final) (hstart : P start) : P final := by
  obtain ⟨_, _, h⟩ := h
  obtain ⟨_, _, -, hloop⟩ := reads_bind.1 h
  exact gives_memberLoop hstep ⟨_, _, hloop⟩ hstart

section Records

variable {r : Record TextReader σ α} {P : σ → Prop}

theorem gives_member (maintains : r.Maintains P) {name : String} {acc next : σ} (hacc : P acc)
    (h : Gives (member r name acc) next) : P next := by
  obtain ⟨before, after, h⟩ := h
  unfold member at h
  split at h
  · rename_i field hfield
    split at h
    · exact absurd h not_reads_fail
    · obtain ⟨_, _, -, hread⟩ := reads_bind.1 h
      exact maintains.known field (List.mem_of_find?_eq_some hfield) hacc ⟨_, _, hread⟩
  · rename_i hnone
    obtain ⟨_, _, -, hrest⟩ := reads_bind.1 h
    split at hrest
    · obtain ⟨_, _, -, hpure⟩ := reads_bind.1 hrest
      exact (reads_pure.1 hpure).1 ▸ hacc
    · rename_i keep hkept
      exact maintains.kept hkept hnone hacc ⟨_, _, hrest⟩

theorem gives_places {fields : List (Field TextReader σ)}
    (known : ∀ field ∈ fields, ∀ {acc next : σ}, P acc → Gives (field.read acc) next → P next)
    {seen : Nat} {acc final : σ} (h : Gives (places r seen fields acc) final) (hacc : P acc) :
    P final := by
  induction fields generalizing seen acc with
  | nil =>
      obtain ⟨_, _, h⟩ := h
      exact (reads_pure.1 h).1 ▸ hacc
  | cons field fields ih =>
      have hlater := fun other hother => @known other (List.mem_cons_of_mem field hother)
      obtain ⟨_, _, h⟩ := h
      obtain ⟨follows, _, -, hrest⟩ := reads_bind.1 h
      cases follows with
      | true =>
          obtain ⟨next, _, hnext, hplaces⟩ := reads_bind.1 hrest
          exact ih hlater ⟨_, _, hplaces⟩ (known field List.mem_cons_self hacc ⟨_, _, hnext⟩)
      | false =>
          rw [if_neg Bool.false_ne_true] at hrest
          obtain ⟨-, hplaces⟩ | ⟨-, hfail⟩ := reads_ite.1 hrest
          · exact ih hlater ⟨_, _, hplaces⟩ hacc
          · exact absurd hfail not_reads_fail

theorem gives_finished {acc : σ} {answer : α} (h : Gives (finished r acc) answer) :
    r.finish acc = .ok answer := by
  obtain ⟨_, _, h⟩ := h
  unfold finished at h
  split at h
  · rename_i own hfinish
    rw [hfinish, (reads_pure.1 h).1]
  · exact absurd h not_reads_fail

theorem gives_record {answer : α} (maintains : r.Maintains P) (h : Gives (record r) answer) :
    ∃ acc, P acc ∧ r.finish acc = .ok answer := by
  obtain ⟨_, _, h⟩ := h
  obtain ⟨next, _, -, hrest⟩ := reads_bind.1 h
  have hmembers (h : Gives (bracketed '\x7b' (do finished r (← foldMembers (member r) r.start))
      closeObject r.description) answer) : ∃ acc, P acc ∧ r.finish acc = .ok answer := by
    obtain ⟨_, _, hbody⟩ := gives_bracketed h
    obtain ⟨acc, _, hacc, hfinished⟩ := reads_bind.1 hbody
    exact ⟨acc, gives_foldMembers (gives_member maintains) ⟨_, _, hacc⟩ maintains.start,
      gives_finished ⟨_, _, hfinished⟩⟩
  split at hrest
  · obtain ⟨_, _, hbody⟩ := gives_bracketed ⟨_, _, hrest⟩
    obtain ⟨acc, _, hacc, hfinished⟩ := reads_bind.1 hbody
    exact ⟨acc, gives_places maintains.known ⟨_, _, hacc⟩ maintains.start,
      gives_finished ⟨_, _, hfinished⟩⟩
  · exact hmembers ⟨_, _, hrest⟩

end Records

/-- An optional value that is there is no null. -/
theorem gives_optional_json {found : Option Json}
    (h : Gives (optional (Source.json : TextReader Json)) found) :
    ∀ document ∈ found, document.Canonical ∧ document ≠ .null := by
  rintro document ⟨⟩
  obtain ⟨before, after, h⟩ := h
  obtain ⟨next, middle, hpeek, hrest⟩ := reads_bind.1 h
  split at hrest
  · obtain ⟨_, _, -, hrest⟩ := reads_bind.1 hrest
    obtain ⟨_, _, -, hpure⟩ := reads_bind.1 hrest
    cases (reads_pure.1 hpure).1
  · rename_i hnext
    obtain ⟨own, hown, hsame⟩ := reads_map.1 hrest
    cases hsame
    obtain ⟨sent, _, hvalue, hpure⟩ := reads_bind.1 hown
    obtain ⟨rfl, rfl⟩ := reads_pure.1 hpure
    -- a null would have been announced by its first character
    obtain ⟨c, _, htoken, hannounces, -⟩ := reads_value_token hvalue
    obtain ⟨rfl, -⟩ := (reads_peekToken?_again hpeek).unique htoken
    refine ⟨canonical_canonical sent, canonical_ne_null ?_⟩
    rintro rfl
    exact hnext (congrArg some hannounces)

/-! ## What readers answer where a value stands -/

theorem stands_text (s : String) : Stands (string "a string") (.string s) s := by
  intro before after h
  obtain ⟨middle, hpeek, hbody⟩ := reads_value_string h
  exact reads_bind.2 ⟨_, middle, hpeek, hbody⟩

theorem stands_optional {reader : TextReader α} {document : Json} {answer : α}
    (hnull : document ≠ .null) (h : Stands reader document answer) :
    Stands (optional reader) document (some answer) := by
  intro before after hvalue
  obtain ⟨c, middle, hpeek, hannounces, hagain⟩ := reads_value_token hvalue
  refine reads_bind.2 ⟨_, middle, hpeek, ?_⟩
  have hread : Reads (some <$> reader) middle (some answer) after :=
    reads_map.2 ⟨answer, h hagain, rfl⟩
  split
  · rename_i hc
    cases hc
    exact absurd (announces_null_iff.1 hannounces) hnull
  · exact hread

theorem steps_prepend {reader : TextReader α} {members : List (String × Json)}
    {found : List (String × α)}
    (h : List.Forall₂ (fun member entry => member.1 = entry.1 ∧ Stands reader member.2 entry.2)
      members found) (read : List (String × α)) :
    Steps (prepend reader) members read (found.reverse ++ read) := by
  induction h generalizing read with
  | nil =>
      exact .nil
  | @cons member entry _ found hfirst _ ih =>
      rcases member with ⟨name, document⟩
      rcases entry with ⟨own, answer⟩
      obtain ⟨rfl, hstands⟩ := hfirst
      have hlater := ih ((name, answer) :: read)
      rw [List.append_cons, ← List.reverse_cons] at hlater
      refine .cons (fun {before after} hvalue => ?_) hlater
      obtain ⟨_, middle, hcolon, hvalue⟩ := reads_bind.1 hvalue
      exact reads_bind.2 ⟨_, middle, hcolon, reads_bind.2 ⟨answer, after, hstands hvalue,
        reads_pure.2 ⟨rfl, rfl⟩⟩⟩

theorem stands_entries {reader : TextReader α} {members : List (String × Json)}
    {found : List (String × α)}
    (h : List.Forall₂ (fun member entry => member.1 = entry.1 ∧ Stands reader member.2 entry.2)
      members found) : Stands (entries reader) (.object members) found := by
  intro before after hvalue
  obtain ⟨inner, last, hmembers, hbracketed⟩ := reads_value_object hvalue
  have steps : Steps (prepend reader) members [] found.reverse := by
    have hall := steps_prepend h []
    rwa [List.append_nil] at hall
  exact hbracketed "a map" (reads_bind.2 ⟨_, last, reads_foldMembers steps hmembers,
    reads_pure.2 ⟨found.reverse_reverse, rfl⟩⟩)

theorem steps_of_gathers {r : Record TextReader σ α} {members : List (String × Json)}
    {acc final : σ} (gathers : r.Gathers members acc final) :
    Steps (member r) members acc final := by
  induction gathers with
  | nil =>
      exact .nil
  | known hfield hset hread _ ih =>
      refine .cons (fun {before after} h => ?_) ih
      obtain ⟨_, middle, hcolon, hvalue⟩ := reads_bind.1 h
      unfold member
      simp only [hfield, hset, Bool.false_eq_true, if_false]
      exact reads_bind.2 ⟨_, middle, hcolon, hread hvalue⟩
  | kept hfield hothers hread _ ih =>
      refine .cons (fun {before after} h => ?_) ih
      obtain ⟨_, middle, hcolon, hvalue⟩ := reads_bind.1 h
      unfold member
      simp only [hfield, hothers]
      exact reads_bind.2 ⟨_, middle, hcolon, hread hvalue⟩

theorem stands_record {r : Record TextReader σ α} {members : List (String × Json)} {acc : σ}
    {answer : α} (gathers : r.Gathers members r.start acc) (h : r.finish acc = .ok answer) :
    Stands (record r) (.object members) answer := by
  intro before after hvalue
  obtain ⟨c, middle, hpeek, rfl, hagain⟩ := reads_value_token hvalue
  obtain ⟨inner, last, hmembers, hbracketed⟩ := reads_value_object hagain
  have hbody : Reads (do finished r (← foldMembers (member r) r.start)) inner answer last := by
    refine reads_bind.2 ⟨acc, last, reads_foldMembers (steps_of_gathers gathers) hmembers, ?_⟩
    rw [finished, h]
    exact reads_pure.2 ⟨rfl, rfl⟩
  refine reads_bind.2 ⟨_, middle, hpeek, ?_⟩
  split
  · rename_i hbracket
    cases hbracket
  · exact hbracketed r.description hbody

instance : LawfulSource TextReader where
  gives_pure := by
    rintro α own answer ⟨before, after, h⟩
    exact (reads_pure.1 h).1
  gives_bind := by
    rintro α β reader next answer ⟨before, after, h⟩
    obtain ⟨own, middle, hown, hnext⟩ := reads_bind.1 h
    exact ⟨own, ⟨before, middle, hown⟩, ⟨middle, after, hnext⟩⟩
  gives_json := by
    rintro _ ⟨before, after, h⟩
    obtain ⟨sent, _, -, hpure⟩ := reads_bind.1 h
    exact (reads_pure.1 hpure).1 ▸ canonical_canonical sent
  gives_optional_json := gives_optional_json
  gives_entries := by
    intro α reader found h
    obtain ⟨_, _, hmembers⟩ := gives_bracketed h
    obtain ⟨read, _, hread, hpure⟩ := reads_bind.1 hmembers
    obtain ⟨rfl, rfl⟩ := reads_pure.1 hpure
    have hall : ∀ entry ∈ read, Gives reader entry.2 := by
      refine gives_foldMembers (P := fun read => ∀ entry ∈ read, Gives reader entry.2) ?_
        ⟨_, _, hread⟩ (by simp)
      rintro name read next hread ⟨_, _, hstep⟩
      obtain ⟨_, _, -, hstep⟩ := reads_bind.1 hstep
      obtain ⟨x, _, hx, hpure⟩ := reads_bind.1 hstep
      obtain ⟨rfl, rfl⟩ := reads_pure.1 hpure
      exact List.forall_mem_cons.2 ⟨⟨_, _, hx⟩, hread⟩
    exact fun entry hentry => hall entry (List.mem_reverse.1 hentry)
  gives_record := gives_record
  stands_map := by
    intro α β reader document answer f h before after hvalue
    exact reads_map.2 ⟨answer, h hvalue, rfl⟩
  stands_text := stands_text
  stands_json := by
    intro document before after hvalue
    exact reads_bind.2 ⟨document, after, hvalue, reads_pure.2 ⟨rfl, rfl⟩⟩
  stands_optional := stands_optional
  stands_entries := stands_entries
  stands_record := stands_record

end Json.TextReader
end EventRules
