import EventRules.Proofs.Evaluation.Isolation

/-!
# Calls — exactly those of the rules that fire

Whatever the service does with them, the calls that begin are those of the rules that fire, one for
each such rule, in the order of the table.  The log tells of each rule just before its call begins.

* `Table.firings` — the rules that fire, with their calls;
* `Api.Begins` — what can be seen as a rule begins its call;
* `Table.evaluate_calls` — the calls of an evaluation, and where they stand in its trace.
-/

namespace EventRules

/-- The rules that fire, by their names, each with its call. -/
def Table.firings (table : Table) (event : HostEvent) : List (String × Call) :=
  (table.trials event).filterMap fun trial => trial.call?.map fun call => (trial.rule, call)

/-- What can be seen of a rule as it begins its call; a call may end in the same round. -/
inductive Api.Begins {σ : Type} (api : Api σ) : String × Call → List Occurrence → Prop
  | going {rule : String} {call : Call} {state : σ} :
      Begins api (rule, call)
        (.logged (Branch.runningEntry rule call) :: (api.call call state).1.opening call)
  | ended {rule : String} {call : Call} {state : σ} {ending : Ending} :
      Begins api (rule, call)
        (.logged (Branch.runningEntry rule call) :: (api.call call state).1.opening call ++
          ending.closing api.name call)

/-- Whether an occurrence tells that a rule fires, or is the beginning of its call. -/
def Occurrence.opens : Occurrence → Bool
  | .logged entry => entry.source = .evaluation
  | .begun _ => true
  | _ => false

/-- What the service logs itself does not come from there. -/
def Api.NeverLogs {σ : Type} (api : Api σ) (source : LogSource) : Prop :=
  ∀ call state, ∀ entry ∈ (api.call call state).1.entries, entry.source ≠ source

/-! ## One rule -/

section Begins

variable {σ : Type} {api : Api σ}

theorem Api.begins_seenIn (api : Api σ) (rule : String) (call : Call) (state : σ) :
    api.Begins (rule, call)
      (Track.seenIn api.name 1 ⟨rule, .calling call (api.call call state).1⟩) := by
  have going : api.Begins (rule, call)
      (.logged (Branch.runningEntry rule call) :: (api.call call state).1.opening call) := .going
  rw [Track.seenIn_calling, if_pos rfl]
  cases hending : (api.call call state).1.ending with
  | none =>
      simpa using going
  | some ending =>
      -- a call without suspensions ends in the round in which it begins
      split
      · exact .ended
      · simpa using going

theorem Ending.filter_opens_closing (service : String) (call : Call) (ending : Ending) :
    (ending.closing service call).filter Occurrence.opens = [] := by
  cases ending <;> rfl

theorem Api.Begins.filterMap_begun? {firing : String × Call} {segment : List Occurrence}
    (begins : api.Begins firing segment) :
    segment.filterMap Occurrence.begun? = [firing.2] := by
  cases begins with
  | @going rule call state =>
      rw [List.filterMap_cons_none (Occurrence.begun?_logged _), filterMap_begun?_opening]
  | @ended rule call state ending =>
      have hclosing : (ending.closing api.name call).filterMap Occurrence.begun? = [] :=
        filterMap_begun?_closing api.name call (some ending)
      rw [List.cons_append, List.filterMap_cons_none (Occurrence.begun?_logged _),
        List.filterMap_append, filterMap_begun?_opening, hclosing, List.append_nil]

theorem Api.NeverLogs.filter_opens_opening (apart : api.NeverLogs .evaluation) (call : Call) (state : σ) :
    ((api.call call state).1.opening call).filter Occurrence.opens = [.begun call] := by
  have hentries : ((api.call call state).1.entries.map Occurrence.logged).filter
      Occurrence.opens = [] := by
    rw [List.filter_eq_nil_iff, List.forall_mem_map]
    intro entry hentry
    simpa [Occurrence.opens] using apart call state entry hentry
  rw [Conduct.opening, List.filter_cons_of_pos rfl, hentries]

theorem Api.Begins.filter_opens (apart : api.NeverLogs .evaluation) {firing : String × Call}
    {segment : List Occurrence} (begins : api.Begins firing segment) :
    segment.filter Occurrence.opens =
      [.logged (Branch.runningEntry firing.1 firing.2), .begun firing.2] := by
  cases begins with
  | @going rule call state =>
      have hrunning : Occurrence.opens (.logged (Branch.runningEntry rule call)) = true := rfl
      rw [List.filter_cons_of_pos hrunning, apart.filter_opens_opening]
  | @ended rule call state ending =>
      have hrunning : Occurrence.opens (.logged (Branch.runningEntry rule call)) = true := rfl
      rw [List.cons_append, List.filter_cons_of_pos hrunning, List.filter_append,
        apart.filter_opens_opening, Ending.filter_opens_closing, List.append_nil]

end Begins

/-! ## All rules -/

section Segments

variable {σ : Type} (api : Api σ)

/-- In the first round the rules that fire begin their calls, one after the other. -/
theorem exists_segments (prepared : List Prepared) (state : σ) :
    ∃ segments, (tracks api prepared state).flatMap (Track.seenIn api.name 1) =
        segments.flatten ∧
      List.Forall₂ api.Begins (prepared.filterMap Prepared.firing?) segments := by
  induction prepared generalizing state with
  | nil =>
      exact ⟨[], rfl, .nil⟩
  | cons first rest ih =>
      obtain ⟨segments, hflatten, hbegins⟩ := ih (first.stateAfter api state)
      rcases first with ⟨rule, fault | _ | call⟩
      · -- a rule that does not fire has no segment
        exact ⟨segments, hflatten, hbegins⟩
      · exact ⟨segments, hflatten, hbegins⟩
      · refine ⟨_ :: segments, ?_, .cons (api.begins_seenIn rule call state) hbegins⟩
        rw [tracks, List.flatMap_cons, hflatten, List.flatten_cons, Prepared.track_call]

/-- A track with a call is that of a rule that fires. -/
theorem firing_of_mem_tracks {prepared : List Prepared} {state : σ} {rule : String} {call : Call}
    {conduct : Conduct} (h : ⟨rule, .calling call conduct⟩ ∈ tracks api prepared state) :
    (rule, call) ∈ prepared.filterMap Prepared.firing? := by
  induction prepared generalizing state with
  | nil =>
      cases h
  | cons first rest ih =>
      rw [tracks, List.mem_cons] at h
      rcases h with hfirst | hrest
      · rcases first with ⟨name, fault | _ | own⟩
        · simp [Prepared.track] at hfirst
        · simp [Prepared.track] at hfirst
        · have hown : rule = name ∧ call = own := by
            simp only [Prepared.track_call, Track.mk.injEq, Course.calling.injEq] at hfirst
            exact ⟨hfirst.1, hfirst.2.1⟩
          rw [hown.1, hown.2]
          exact List.mem_filterMap.2 ⟨_, List.mem_cons_self, rfl⟩
      · obtain ⟨one, hone, hfiring⟩ := List.mem_filterMap.1 (ih hrest)
        exact List.mem_filterMap.2 ⟨one, List.mem_cons_of_mem _ hone, hfiring⟩

/-- After the first round calls only end. -/
theorem closing_of_mem_seenFrom {prepared : List Prepared} {state : σ} {count : Nat}
    {occurrence : Occurrence}
    (h : occurrence ∈ Track.seenFrom api.name 2 count (tracks api prepared state)) :
    ∃ firing ∈ prepared.filterMap Prepared.firing?, ∃ ending,
      occurrence ∈ Ending.closing api.name firing.2 ending := by
  obtain ⟨round, hround, hseen⟩ := List.mem_flatMap.1 h
  obtain ⟨⟨rule, course⟩, htrack, hown⟩ := List.mem_flatMap.1 hseen
  cases course with
  | faulted fault =>
      cases hown
  | idle =>
      cases hown
  | calling call conduct =>
      have hlater : round ≠ 1 := by
        have := (List.mem_range'_1.1 hround).1
        omega
      rw [Track.seenIn_calling, if_neg hlater, List.nil_append] at hown
      split at hown
      · cases hending : conduct.ending with
        | none =>
            simp [hending] at hown
        | some ending =>
            refine ⟨(rule, call), firing_of_mem_tracks api htrack, ending, ?_⟩
            simpa [hending] using hown
      · cases hown

theorem filterMap_flatten_of_begins {firings : List (String × Call)}
    {segments : List (List Occurrence)} (begins : List.Forall₂ api.Begins firings segments) :
    segments.flatten.filterMap Occurrence.begun? = firings.map Prod.snd := by
  induction begins with
  | nil =>
      rfl
  | cons hfirst _ ih =>
      simp [hfirst.filterMap_begun?, ih]

theorem filter_flatten_of_begins (apart : api.NeverLogs .evaluation) {firings : List (String × Call)}
    {segments : List (List Occurrence)} (begins : List.Forall₂ api.Begins firings segments) :
    segments.flatten.filter Occurrence.opens =
      firings.flatMap fun (rule, call) =>
        [.logged (Branch.runningEntry rule call), .begun call] := by
  induction begins with
  | nil =>
      rfl
  | cons hfirst _ ih =>
      simp [hfirst.filter_opens apart, ih]

/-- The trace of an evaluation: calls begin, and then they end. -/
theorem evaluate_segments (patience : Patience) (prepared : List Prepared) (state : σ) :
    ∃ segments later,
      (evaluate api .steady patience prepared state).occurrences = segments.flatten ++ later ∧
      List.Forall₂ api.Begins (prepared.filterMap Prepared.firing?) segments ∧
      ∀ occurrence ∈ later, ∃ firing ∈ prepared.filterMap Prepared.firing?, ∃ ending,
        occurrence ∈ Ending.closing api.name firing.2 ending := by
  obtain ⟨segments, hflatten, hbegins⟩ := exists_segments api prepared state
  let branches := tracks api prepared state
  let more := patience.afterFirst (branches.map (Track.branchAfter 1))
  refine ⟨segments, Track.seenFrom api.name 2 more branches, ?_, hbegins, fun occurrence h =>
    closing_of_mem_seenFrom api h⟩
  rw [evaluate_steady, ← hflatten]
  exact Track.seenFrom_succ api.name 1 more branches

end Segments

/-! ## The place of a rule -/

section Places

variable {σ : Type} (api : Api σ)

/-- A track is that of the rule in its place, met by some state of the service. -/
theorem exists_getElem?_tracks {prepared : List Prepared} {place : Nat} {one : Prepared}
    (hplace : prepared[place]? = some one) (state : σ) :
    ∃ before, (tracks api prepared state)[place]? =
      some (one.track fun call => (api.call call before).1) := by
  induction prepared generalizing place state with
  | nil =>
      simp at hplace
  | cons first rest ih =>
      cases place with
      | zero =>
          have hfirst : first = one := by simpa using hplace
          exact ⟨state, by rw [hfirst]; rfl⟩
      | succ place =>
          exact ih (by simpa using hplace) (first.stateAfter api state)

theorem Track.filterMap_begun?_traceWithin (service : String) (patience : Patience)
    (conduct : Call → Conduct) (one : Prepared) :
    ((one.track conduct).traceWithin service patience).filterMap (fun seen => seen.2.begun?) =
      one.call?.toList := by
  rcases one with ⟨rule, fault | _ | call⟩
  · rfl
  · rfl
  · have hopening := filterMap_begun?_opening call (conduct call)
    have hclosing := filterMap_begun?_closing service call (conduct call).ending
    have hpairs : ∀ (round : Nat) (found : List Occurrence),
        (found.map fun occurrence => (round, occurrence)).filterMap (fun seen => seen.2.begun?) =
          found.filterMap Occurrence.begun? := by
      intro round found
      rw [List.filterMap_map]
      rfl
    rw [Prepared.track_call, traceWithin, List.filterMap_append, hpairs,
      List.filterMap_cons_none (Occurrence.begun?_logged _), hopening]
    split
    · rw [hpairs, hclosing]
      rfl
    · rfl

/-- A rule that fires begins one call, and no other rule begins any. -/
theorem History.filterMap_begun?_traceOf (patience : Patience) {prepared : List Prepared}
    {place : Nat} {one : Prepared} (hplace : prepared[place]? = some one) (state : σ) :
    ((history api .steady patience prepared state).traceOf place).filterMap
      (fun seen => seen.2.begun?) = one.call?.toList := by
  obtain ⟨count, takes, hhistory⟩ := history_steady api patience prepared state
  obtain ⟨before, htrack⟩ := exists_getElem?_tracks api hplace state
  rw [hhistory, traceOf_historyFrom api.name count htrack,
    takes.flatMap_seenIn api.name (List.mem_of_getElem? htrack),
    Track.filterMap_begun?_traceWithin]

end Places

/-! ## A table and an event -/

theorem Table.filterMap_firing?_prepare (table : Table) (event : HostEvent) :
    (table.prepare event).filterMap Prepared.firing? = table.firings event := by
  rw [table.prepare_eq_trials, List.filterMap_map]
  rfl

theorem Table.map_snd_firings (table : Table) (event : HostEvent) :
    (table.firings event).map Prod.snd = table.calls event := by
  rw [firings, calls, List.map_filterMap]
  exact List.filterMap_congr fun trial _ => by cases trial.call? <;> rfl

/-- The calls that begin are exactly those of the rules that fire. -/
theorem Table.evaluate_calls {σ : Type} (api : Api σ) (patience : Patience) (table : Table)
    (event : HostEvent) (state : σ) :
    let evaluation := table.evaluate api .steady patience event state
    let history := table.history api .steady patience event state
    -- one call for each rule that fires, in the order of the table
    evaluation.occurrences.filterMap Occurrence.begun? = table.calls event ∧
    (∀ trial ∈ table.trials event, ∀ call, trial.call? = some call ↔ trial.Fires call) ∧
    -- a rule that fires begins its own call once, and no other rule begins any
    (evaluation.occurrences = history.occurrences ∧
      ∀ place trial, (table.trials event)[place]? = some trial →
        (history.traceOf place).filterMap (fun seen => seen.2.begun?) = trial.call?.toList) ∧
    -- an action is created, and a property updated
    (∀ call ∈ table.calls event, match call.payload with
      | .action _ => call.operation = .createAction
      | .property _ => call.operation = .updateProperty) ∧
    -- the trace: each call follows the entry that its rule fires; later there are only endings
    (∃ segments later, evaluation.occurrences = segments.flatten ++ later ∧
      List.Forall₂ api.Begins (table.firings event) segments ∧
      ∀ occurrence ∈ later, ∃ firing ∈ table.firings event, ∃ ending,
        occurrence ∈ Ending.closing api.name firing.2 ending) ∧
    -- so entry and call alternate, if the service itself does not make such entries
    (api.NeverLogs .evaluation → evaluation.occurrences.filter Occurrence.opens =
      (table.firings event).flatMap fun (rule, call) =>
        [.logged (Branch.runningEntry rule call), .begun call]) := by
  intro evaluation history
  obtain ⟨segments, later, htrace, hbegins, hlater⟩ :=
    evaluate_segments api patience (table.prepare event) state
  rw [table.filterMap_firing?_prepare event] at hbegins hlater
  refine ⟨?_, fun trial _ call => Trial.call?_eq_some_iff, ⟨?_, ?_⟩, ?_,
    ⟨segments, later, htrace, hbegins, hlater⟩, ?_⟩
  · have hnone : later.filterMap Occurrence.begun? = [] := by
      rw [List.filterMap_eq_nil_iff]
      intro occurrence hoccurrence
      obtain ⟨firing, -, ending, hending⟩ := hlater occurrence hoccurrence
      have := filterMap_begun?_closing api.name firing.2 (some ending)
      exact List.filterMap_eq_nil_iff.1 this occurrence hending
    have hoccurrences : evaluation.occurrences = segments.flatten ++ later := htrace
    rw [hoccurrences, List.filterMap_append, hnone, List.append_nil,
      filterMap_flatten_of_begins api hbegins, table.map_snd_firings]
  · exact evaluate_occurrences api .steady patience (table.prepare event) state
  · intro place trial hplace
    refine History.filterMap_begun?_traceOf api patience ?_ state
    rw [table.prepare_eq_trials, List.getElem?_map, hplace]
    rfl
  · rintro ⟨target, payload⟩ -
    cases payload <;> rfl
  · intro apart
    have hnone : later.filter Occurrence.opens = [] := by
      rw [List.filter_eq_nil_iff]
      intro occurrence hoccurrence
      obtain ⟨firing, -, ending, hending⟩ := hlater occurrence hoccurrence
      have := Ending.filter_opens_closing api.name firing.2 ending
      exact List.filter_eq_nil_iff.1 this occurrence hending
    have hoccurrences : evaluation.occurrences = segments.flatten ++ later := htrace
    rw [hoccurrences, List.filter_append, hnone, List.append_nil,
      filter_flatten_of_begins api apart hbegins]

open Isolation in
/-- Both calls begin, though the first never ends. -/
theorem Calls.both_begin :
    (Scripted.api script : Api Unit).NeverLogs .evaluation ∧
    (pair.evaluate (Scripted.api script) .steady (.rounds 100) scan ()).occurrences.filter
      Occurrence.opens =
      [.logged (Branch.runningEntry "left" leftCall), .begun leftCall,
        .logged (Branch.runningEntry "right" rightCall), .begun rightCall] := by
  have apart : (Scripted.api script : Api Unit).NeverLogs .evaluation := by
    intro call state entry hentry
    have hnone : (Scripted.conduct script call).entries = [] := by
      rw [Scripted.conduct]
      split <;> rfl
    have : entry ∈ (Scripted.conduct script call).entries := hentry
    simp [hnone] at this
  obtain ⟨-, -, -, -, -, halternate⟩ :=
    Table.evaluate_calls (Scripted.api script) (.rounds 100) pair scan ()
  have hfirings : pair.firings scan = [("left", leftCall), ("right", rightCall)] := by
    decide +kernel
  refine ⟨apart, (halternate apart).trans ?_⟩
  rw [hfirings]
  rfl

end EventRules
