import EventRules.Event.Decode
import EventRules.Proofs.Evaluation.Calls
import EventRules.Rule.Table

/-!
# Target — the entities that calls name

An action rule that fires calls for the entity of the action, which has a name: without one the rule
fails and nothing begins.  A property rule that fires calls for the entity whose properties changed,
whatever the name of that entity, and so for the empty name as well.

* `Table.filterMap_begun?_evaluate` — the calls that begin, for every log;
* `Table.begins_without_target_iff` — when a call begins that names no entity.
-/

namespace EventRules

/-! ## The calls that begin -/

section Begun

variable {σ : Type} (api : Api σ) (patience : Patience)

theorem filterMap_begun?_evaluate (prepared : List Prepared) (state : σ) :
    (evaluate api .steady patience prepared state).occurrences.filterMap Occurrence.begun? =
      (prepared.filterMap Prepared.firing?).map Prod.snd := by
  obtain ⟨segments, later, htrace, hbegins, hlater⟩ :=
    evaluate_segments api patience prepared state
  have hnone : later.filterMap Occurrence.begun? = [] := by
    rw [List.filterMap_eq_nil_iff]
    intro occurrence hoccurrence
    obtain ⟨firing, -, ending, hending⟩ := hlater occurrence hoccurrence
    have hclosing := filterMap_begun?_closing api.name firing.2 (some ending)
    exact List.filterMap_eq_nil_iff.1 hclosing occurrence hending
  rw [htrace, List.filterMap_append, hnone, List.append_nil,
    filterMap_flatten_of_begins api hbegins]

/-- With a steady log the calls of the rules that fire begin, and with no other log any call. -/
theorem Table.filterMap_begun?_evaluate (table : Table) (sink : LogSink) (event : HostEvent)
    (state : σ) :
    (table.evaluate api sink patience event state).occurrences.filterMap Occurrence.begun? =
      if sink = .steady then table.calls event else [] := by
  have steady : (table.evaluate api .steady patience event state).occurrences.filterMap
      Occurrence.begun? = table.calls event := by
    rw [Table.evaluate, EventRules.filterMap_begun?_evaluate, table.filterMap_firing?_prepare,
      table.map_snd_firings]
  cases sink with
  | steady =>
      rw [if_pos rfl, steady]
  | breaking text =>
      rw [if_neg (by simp)]
      cases fires : (table.prepare event).findSome? Prepared.firing? with
      | some firing =>
          rw [Table.evaluate, EventRules.evaluate_breaking api text patience fires]
          rfl
      | none =>
          -- no rule asks the log, so it is as good as a steady one, and there are no calls
          have silent : ∀ one ∈ table.prepare event, one.call? = none := by
            intro one hone
            simpa [Prepared.firing?] using List.findSome?_eq_none_iff.1 fires one hone
          have noCalls : table.calls event = [] := by
            rw [← table.filterMap_call?_prepare]
            exact List.filterMap_eq_nil_iff.2 silent
          rw [Table.evaluate, evaluate_of_silent api _ patience silent]
          exact steady.trans noCalls

end Begun

theorem Occurrence.begun?_eq_some_iff {occurrence : Occurrence} {call : Call} :
    occurrence.begun? = some call ↔ occurrence = .begun call := by
  cases occurrence <;> simp [begun?]

/-! ## The entity of a call -/

/-- The entity that a rule's call is for, if its event has one to name. -/
def HostEvent.Names (event : HostEvent) (target : String) : Prop :=
  match event with
  | .actionCreated event => event.action.thng = some target ∧ target ≠ ""
  | .thngPropertiesChanged event => target = event.thng

theorem Trial.names_of_fires {table : Table} {event : HostEvent} {trial : Trial} {call : Call}
    (htrial : trial ∈ table.trials event) (fires : trial.Fires call) : event.Names call.target := by
  obtain ⟨selects, -, -⟩ := fires
  cases event with
  | actionCreated event =>
      obtain ⟨rule, -, rfl⟩ := List.mem_map.1 htrial
      cases selects with
      | action whole holds thng named =>
          exact ⟨thng, named⟩
  | thngPropertiesChanged event =>
      obtain ⟨rule, -, rfl⟩ := List.mem_map.1 htrial
      cases selects with
      | property whole found =>
          rfl

theorem Table.names_of_mem_calls {table : Table} {event : HostEvent} {call : Call}
    (h : call ∈ table.calls event) : event.Names call.target := by
  obtain ⟨trial, htrial, hcall⟩ := List.mem_filterMap.1 h
  exact Trial.names_of_fires htrial (Trial.call?_eq_some_iff.1 hcall)

/-- A call names the entity of its event; it names none exactly if the event is about a property
change of an entity without a name to which some rule responds. -/
theorem Table.begins_without_target_iff {σ : Type} (api : Api σ) (sink : LogSink)
    (patience : Patience) (table : Table) (event : HostEvent) (state : σ) :
    let occurrences := (table.evaluate api sink patience event state).occurrences
    (∀ call, .begun call ∈ occurrences → event.Names call.target) ∧
      ((∃ call, .begun call ∈ occurrences ∧ call.target = "") ↔
        sink = .steady ∧ table.calls event ≠ [] ∧
          ∃ changes, event = .thngPropertiesChanged ⟨"", changes⟩) := by
  intro occurrences
  have begun (call : Call) :
      .begun call ∈ occurrences ↔ sink = .steady ∧ call ∈ table.calls event := by
    have calls := table.filterMap_begun?_evaluate api patience sink event state
    have member : .begun call ∈ occurrences ↔
        call ∈ occurrences.filterMap Occurrence.begun? := by
      simp only [List.mem_filterMap, Occurrence.begun?_eq_some_iff, exists_eq_right]
    rw [member, calls]
    split <;> simp [*]
  refine ⟨fun call h => names_of_mem_calls ((begun call).1 h).2, ?_, ?_⟩
  · rintro ⟨call, h, empty⟩
    obtain ⟨steady, hcall⟩ := (begun call).1 h
    have names := names_of_mem_calls hcall
    refine ⟨steady, List.ne_nil_of_mem hcall, ?_⟩
    cases event with
    | actionCreated event =>
        exact absurd empty names.2
    | thngPropertiesChanged event =>
        exact ⟨event.changes, by rw [← empty, (names : call.target = event.thng)]⟩
  · rintro ⟨steady, some, changes, rfl⟩
    obtain ⟨call, hcall⟩ := List.exists_mem_of_ne_nil _ some
    exact ⟨call, (begun call).2 ⟨steady, hcall⟩, names_of_mem_calls hcall⟩

/-- An event of an entity without a name is read, and a rule calls for that entity. -/
theorem Target.empty_name_is_called :
    ∃ event call,
      HostEvent.ofText ("\x7b\"event\":\"thngPropertiesChanged\",\"thng\":\x7b\"id\":\"\"\x7d," ++
        "\"changes\":\x7b\"temperature_celsius\":\x7b\"newValue\":200\x7d\x7d\x7d") = .ok event ∧
      .begun call ∈ (Table.embedded.evaluate (Scripted.api [] : Api Unit) .steady .unlimited
        event ()).occurrences ∧
      call.target = "" :=
  ⟨.thngPropertiesChanged ⟨"", .ofAssignments [("temperature_celsius", .ofNew (.ofNat 200))]⟩,
    ⟨"", .property ⟨"overheating", .bool true⟩⟩, by decide +kernel, by decide +kernel, rfl⟩

end EventRules
