import EventRules.Proofs.Evaluation.Conclusion
import EventRules.Remote.Scripted
import EventRules.Worker.Run

/-!
# Account — the worker accounts for every line

With a service that answers a call by that call alone, and all of whose calls end, no line stops the
worker.  A blank line leaves no trace, a line that holds no event is skipped with one warning, and any
other line is worked off as if it were the only one, before the next line is looked at.

* `Worker.Treats` — what a line comes to, and what can be seen of it;
* `Worker.workOff_treats` — one line; `Worker.workOffAll_treats` — one line after the other;
* `Worker.workOffText_accounts` — the counts, the warnings and the calls of a text.
-/

namespace EventRules

/-- An entry of the worker itself. -/
def Occurrence.workerEntry? : Occurrence → Option LogEntry
  | .logged entry => if entry.source = .worker then some entry else none
  | _ => none

theorem Api.Shows.workerEntry?_eq_none {σ : Type} {api : Api σ} {occurrence : Occurrence}
    (apart : api.NeverLogs .worker) (shows : api.Shows occurrence) :
    occurrence.workerEntry? = none := by
  cases shows with
  | running =>
      rfl
  | begun =>
      rfl
  | @own call state entry hentry =>
      simp [Occurrence.workerEntry?, apart call state entry hentry]
  | @closing call ending occurrence hclosing =>
      have hnone : (ending.closing api.name call).filterMap Occurrence.workerEntry? = [] := by
        cases ending <;> rfl
      exact List.filterMap_eq_nil_iff.1 hnone occurrence hclosing

theorem Table.Completes.filterMap_workerEntry? {σ : Type} {api : Api σ}
    {conduct : Call → Conduct} {table : Table} {event : HostEvent} {failures : List Failure}
    {report : List Occurrence} (completes : table.Completes api conduct event failures report)
    (apart : api.NeverLogs .worker) (start : σ) :
    report.filterMap Occurrence.workerEntry? = [] := by
  rw [← completes.occurrences start, table.filterMap_react event Occurrence.workerEntry?
    (fun entry hsource => by simp [Occurrence.workerEntry?, hsource]) (fun _ => rfl),
    List.filterMap_eq_nil_iff]
  intro occurrence h
  exact (evaluate_shows api .steady .unlimited _ start occurrence h).workerEntry?_eq_none apart

namespace Worker

/-! ## What a line holds -/

/-- The event of a line, if the line holds one. -/
def eventOf? (line : String) : Option HostEvent :=
  if isBlankLine line then none else (HostEvent.ofText line).toOption

/-- Why a line holds no event although it is not blank. -/
def faultOf? (line : String) : Option Json.Fault :=
  if isBlankLine line then none
  else
    match HostEvent.ofText line with
    | .error fault => some fault
    | .ok _ => none

/-- The calls of the events that lines hold, in their order. -/
def callsOf (table : Table) (lines : List String) : List Call :=
  (lines.filterMap eventOf?).flatMap table.calls

theorem callsOf_append (table : Table) (first second : List String) :
    callsOf table (first ++ second) = callsOf table first ++ callsOf table second := by
  simp [callsOf]

theorem callsOf_cons (table : Table) (line : String) (rest : List String) :
    callsOf table (line :: rest) = callsOf table [line] ++ callsOf table rest :=
  callsOf_append table [line] rest

theorem holds_of_isBlankLine {line : String} (hblank : isBlankLine line = true) :
    faultOf? line = none ∧ eventOf? line = none := by
  simp [faultOf?, eventOf?, hblank]

theorem faultOf?_eq_some_iff {line : String} {fault : Json.Fault} :
    faultOf? line = some fault ↔
      isBlankLine line = false ∧ HostEvent.ofText line = .error fault := by
  cases hblank : isBlankLine line <;> cases htext : HostEvent.ofText line <;>
    simp [faultOf?, hblank, htext]

theorem eventOf?_eq_some_iff {line : String} {event : HostEvent} :
    eventOf? line = some event ↔
      isBlankLine line = false ∧ HostEvent.ofText line = .ok event := by
  cases hblank : isBlankLine line <;> cases htext : HostEvent.ofText line <;>
    simp [eventOf?, hblank, htext, Except.toOption]

theorem eventOf?_of_faultOf? {line : String} {fault : Json.Fault}
    (hfault : faultOf? line = some fault) : eventOf? line = none := by
  obtain ⟨hblank, htext⟩ := faultOf?_eq_some_iff.1 hfault
  simp [eventOf?, hblank, htext, Except.toOption]

theorem faultOf?_of_eventOf? {line : String} {event : HostEvent}
    (hevent : eventOf? line = some event) : faultOf? line = none := by
  obtain ⟨hblank, htext⟩ := eventOf?_eq_some_iff.1 hevent
  simp [faultOf?, hblank, htext]

namespace Tally

@[simp] theorem succeeded_add (a b : Tally) : (a.add b).succeeded = a.succeeded + b.succeeded :=
  rfl

@[simp] theorem failed_add (a b : Tally) : (a.add b).failed = a.failed + b.failed :=
  rfl

@[simp] theorem skipped_add (a b : Tally) : (a.add b).skipped = a.skipped + b.skipped :=
  rfl

end Tally

/-! ## One line -/

section Lines

variable {σ : Type} (table : Table) (api : Api σ) (conduct : Call → Conduct)

/-- What a line with a number comes to, and what can be seen of it. -/
inductive Treats : String × Nat → Tally × List Occurrence → Prop
  | blank {line : String} {number : Nat} :
      isBlankLine line = true → Treats (line, number) (.zero, [])
  | skipped {line : String} {number : Nat} {fault : Json.Fault} :
      faultOf? line = some fault →
      Treats (line, number) (.oneSkipped, [.logged (skippedEntry number fault)])
  | worked {line : String} {number : Nat} {event : HostEvent} {failures : List Failure}
      {report : List Occurrence} :
      eventOf? line = some event → table.Completes api conduct event failures report →
      Treats (line, number) (.ofCompletion (Verdict.settled failures).completion?, report)

variable {api conduct}

/-- From whatever state, a line is treated in the same way, and does not stop the worker. -/
theorem workOff_treats (answers : api.AnswersBy conduct)
    (ends : ∀ call, (conduct call).ending ≠ none) (start : σ) (number : Nat) (line : String) :
    ∃ part, Treats table api conduct (line, number) part ∧ ∀ state,
      let progress := workOff table api number line state
      (progress.tally, progress.occurrences) = part ∧ progress.isStuck = false := by
  cases hblank : isBlankLine line with
  | true =>
      exact ⟨_, .blank hblank, fun state => by simp [workOff, hblank]⟩
  | false =>
      cases htext : HostEvent.ofText line with
      | error fault =>
          refine ⟨_, .skipped (faultOf?_eq_some_iff.2 ⟨hblank, htext⟩), fun state => ?_⟩
          simp [workOff, hblank, htext]
      | ok event =>
          obtain ⟨failures, report, completes⟩ := table.exists_completes event answers ends start
          refine ⟨_, .worked (eventOf?_eq_some_iff.2 ⟨hblank, htext⟩) completes, fun state => ?_⟩
          have verdict : (table.react api .steady .unlimited event state).verdict =
              .settled failures := completes.verdict state
          simp [workOff, hblank, htext, verdict, completes.occurrences state]

/-! ## One line after the other -/

/-- From whatever state, lines are treated in the same way, one after the other, up to the last. -/
theorem workOffAll_treats (answers : api.AnswersBy conduct)
    (ends : ∀ call, (conduct call).ending ≠ none) (start : σ) (number : Nat)
    (lines : List String) :
    ∃ parts, List.Forall₂ (Treats table api conduct) (lines.zipIdx number) parts ∧ ∀ state,
      let progress := workOffAll table api number lines state
      progress.tally = (parts.map Prod.fst).foldr Tally.add .zero ∧
        progress.occurrences = parts.flatMap Prod.snd ∧ progress.isStuck = false := by
  induction lines generalizing number with
  | nil =>
      exact ⟨[], .nil, fun state => ⟨rfl, rfl, rfl⟩⟩
  | cons line rest ih =>
      obtain ⟨part, treats, first⟩ := workOff_treats table answers ends start number line
      obtain ⟨parts, treatsRest, others⟩ := ih (number + 1)
      refine ⟨part :: parts, .cons treats treatsRest, fun state => ?_⟩
      obtain ⟨rfl, goesOn⟩ := first state
      obtain ⟨tally, occurrences, ending⟩ := others (workOff table api number line state).state
      simp [workOffAll, goesOn, tally, occurrences, ending]

end Lines

/-! ## What a line adds -/

namespace Treats

variable {σ : Type} {table : Table} {api : Api σ} {conduct : Call → Conduct} {line : String}
  {number : Nat} {part : Tally × List Occurrence}

theorem total (treats : Treats table api conduct (line, number) part) :
    part.1.succeeded + part.1.failed + part.1.skipped = if !isBlankLine line then 1 else 0 := by
  cases treats with
  | blank hblank =>
      simp [hblank, Tally.zero]
  | skipped hfault =>
      simp [(faultOf?_eq_some_iff.1 hfault).1, Tally.oneSkipped]
  | @worked _ _ _ failures _ hevent =>
      cases failures <;>
        simp [(eventOf?_eq_some_iff.1 hevent).1, Tally.ofCompletion, Verdict.completion?]

theorem skipped_eq (treats : Treats table api conduct (line, number) part) :
    part.1.skipped = if (faultOf? line).isSome then 1 else 0 := by
  cases treats with
  | blank hblank =>
      simp [(holds_of_isBlankLine hblank).1, Tally.zero]
  | skipped hfault =>
      simp [hfault, Tally.oneSkipped]
  | @worked _ _ _ failures _ hevent =>
      cases failures <;>
        simp [faultOf?_of_eventOf? hevent, Tally.ofCompletion, Verdict.completion?]

/-- An event is counted as a success if it is one when it is worked off alone. -/
theorem succeeded_eq (treats : Treats table api conduct (line, number) part) (alone : σ) :
    part.1.succeeded = if (eventOf? line).any fun event =>
      (table.evaluate api .steady .unlimited event alone).verdict == .settled [] then 1 else 0 := by
  cases treats with
  | blank hblank =>
      simp [(holds_of_isBlankLine hblank).2, Tally.zero]
  | skipped hfault =>
      simp [eventOf?_of_faultOf? hfault, Tally.oneSkipped]
  | @worked _ _ _ failures _ hevent completes =>
      cases failures <;>
        simp [hevent, completes.verdict alone, Tally.ofCompletion, Verdict.completion?]

theorem begun_eq (treats : Treats table api conduct (line, number) part) :
    part.2.filterMap Occurrence.begun? = callsOf table [line] := by
  cases treats with
  | blank hblank =>
      simp [callsOf, (holds_of_isBlankLine hblank).2]
  | skipped hfault =>
      simp [callsOf, eventOf?_of_faultOf? hfault, Occurrence.begun?]
  | worked hevent completes =>
      simp [callsOf, hevent, completes.begun]

theorem ended_perm (treats : Treats table api conduct (line, number) part) :
    (part.2.filterMap Occurrence.ended?).Perm
      ((callsOf table [line]).filterMap (Call.reply? conduct)) := by
  cases treats with
  | blank hblank =>
      simp [callsOf, (holds_of_isBlankLine hblank).2]
  | skipped hfault =>
      simp [callsOf, eventOf?_of_faultOf? hfault, Occurrence.ended?]
  | worked hevent completes =>
      simpa [callsOf, hevent] using completes.ended

/-- The worker warns of a line if there is a fault in it, and of no other. -/
theorem workerEntry?_eq (apart : api.NeverLogs .worker) (start : σ)
    (treats : Treats table api conduct (line, number) part) :
    part.2.filterMap Occurrence.workerEntry? =
      ((faultOf? line).map (skippedEntry number)).toList := by
  cases treats with
  | blank hblank =>
      simp [(holds_of_isBlankLine hblank).1]
  | skipped hfault =>
      simp [hfault, Occurrence.workerEntry?, skippedEntry]
  | worked hevent completes =>
      simp [faultOf?_of_eventOf? hevent, completes.filterMap_workerEntry? apart start]

end Treats

/-! ## Texts of events -/

section Texts

variable {σ : Type} {api : Api σ} {conduct : Call → Conduct} {table : Table}

theorem workOffAll_append (first second : List String) (number : Nat) (state : σ)
    (goesOn : (workOffAll table api number first state).isStuck = false) :
    let former := workOffAll table api number first state
    let latter := workOffAll table api (number + first.length) second former.state
    workOffAll table api number (first ++ second) state =
      ⟨former.tally.add latter.tally, former.occurrences ++ latter.occurrences, latter.state,
        latter.isStuck⟩ := by
  -- the number and the state with which the second lines begin are those behind the first
  induction first generalizing number state with
  | nil =>
      simp [workOffAll, Tally.add, Tally.zero]
  | cons line rest ih =>
      cases hstuck : (workOff table api number line state).isStuck with
      | true =>
          simp [workOffAll, hstuck] at goesOn
      | false =>
          have others := ih (number + 1) (workOff table api number line state).state
            (by simpa [workOffAll, hstuck] using goesOn)
          simp only [workOffAll, hstuck] at others ⊢
          simp [others, workOffAll, hstuck, Tally.add, Nat.add_assoc, Nat.add_comm 1]

section Runs

variable (answers : api.AnswersBy conduct) (ends : ∀ call, (conduct call).ending ≠ none)

include answers ends

/-- A count to which each line adds if it has a property is the number of lines that have it. -/
theorem workOffAll_count (count : Tally → Nat) (zero : count .zero = 0)
    (add : ∀ a b : Tally, count (a.add b) = count a + count b) {holds : String → Bool}
    (each : ∀ {line number part}, Treats table api conduct (line, number) part →
      count part.1 = if holds line then 1 else 0) (number : Nat) (lines : List String) (state : σ) :
    count (workOffAll table api number lines state).tally = lines.countP holds := by
  induction lines generalizing number state with
  | nil =>
      exact zero
  | cons line rest ih =>
      obtain ⟨part, treats, first⟩ := workOff_treats table answers ends state number line
      obtain ⟨rfl, goesOn⟩ := first state
      simp [workOffAll, goesOn, add, each treats, ih, List.countP_cons, Nat.add_comm]

/-- What is seen of lines is what is seen of each of them, in their order. -/
theorem workOffAll_filterMap {α : Type} {see : Occurrence → Option α}
    (expected : String × Nat → List α)
    (each : ∀ {line number part}, Treats table api conduct (line, number) part →
      part.2.filterMap see = expected (line, number)) (number : Nat) (lines : List String)
    (state : σ) :
    (workOffAll table api number lines state).occurrences.filterMap see =
      (lines.zipIdx number).flatMap expected := by
  induction lines generalizing number state with
  | nil =>
      rfl
  | cons line rest ih =>
      obtain ⟨part, treats, first⟩ := workOff_treats table answers ends state number line
      obtain ⟨rfl, goesOn⟩ := first state
      simp [workOffAll, goesOn, each treats, ih]

variable (table)

/-- No line stops the worker. -/
theorem workOffAll_isStuck (number : Nat) (lines : List String) (state : σ) :
    (workOffAll table api number lines state).isStuck = false := by
  obtain ⟨parts, -, run⟩ := workOffAll_treats table answers ends state number lines
  exact (run state).2.2

/-- Every line that is not blank is counted, and once. -/
theorem workOffAll_total (number : Nat) (lines : List String) (state : σ) :
    let tally := (workOffAll table api number lines state).tally
    tally.succeeded + tally.failed + tally.skipped = lines.countP fun line => !isBlankLine line :=
  workOffAll_count answers ends (fun tally => tally.succeeded + tally.failed + tally.skipped) rfl
    (fun a b => by simp only [Tally.succeeded_add, Tally.failed_add, Tally.skipped_add]; omega)
    Treats.total number lines state

theorem workOffAll_skipped (number : Nat) (lines : List String) (state : σ) :
    (workOffAll table api number lines state).tally.skipped =
      lines.countP fun line => (faultOf? line).isSome :=
  workOffAll_count answers ends Tally.skipped rfl Tally.skipped_add Treats.skipped_eq number lines
    state

theorem workOffAll_succeeded (number : Nat) (lines : List String) (state alone : σ) :
    (workOffAll table api number lines state).tally.succeeded =
      lines.countP fun line => (eventOf? line).any fun event =>
        (table.evaluate api .steady .unlimited event alone).verdict == .settled [] :=
  workOffAll_count answers ends Tally.succeeded rfl Tally.succeeded_add
    (fun treats => treats.succeeded_eq alone) number lines state

/-- The counts do not depend on the state, nor on how the lines are numbered. -/
theorem workOffAll_tally_eq (number other : Nat) (lines : List String) (state alone : σ) :
    (workOffAll table api number lines state).tally =
      (workOffAll table api other lines alone).tally := by
  have total := (workOffAll_total table answers ends number lines state).trans
    (workOffAll_total table answers ends other lines alone).symm
  have skipped := (workOffAll_skipped table answers ends number lines state).trans
    (workOffAll_skipped table answers ends other lines alone).symm
  have succeeded := (workOffAll_succeeded table answers ends number lines state alone).trans
    (workOffAll_succeeded table answers ends other lines alone alone).symm
  -- what is neither a success nor skipped has failed
  have failed : (workOffAll table api number lines state).tally.failed =
      (workOffAll table api other lines alone).tally.failed := by omega
  rw [Tally.mk.injEq]
  exact ⟨succeeded, failed, skipped⟩

theorem workOffAll_begun (number : Nat) (lines : List String) (state : σ) :
    (workOffAll table api number lines state).occurrences.filterMap Occurrence.begun? =
      callsOf table lines := by
  rw [workOffAll_filterMap answers ends (fun line => callsOf table [line.1])
    Treats.begun_eq, ← List.flatMap_map Prod.fst fun line => callsOf table [line],
    List.zipIdx_map_fst]
  induction lines with
  | nil =>
      rfl
  | cons line rest ih =>
      rw [List.flatMap_cons, ih, ← callsOf_cons]

/-- Each call that begins ends, once, unless it leaves no trace. -/
theorem workOffAll_ended (number : Nat) (lines : List String) (state : σ) :
    ((workOffAll table api number lines state).occurrences.filterMap Occurrence.ended?).Perm
      ((callsOf table lines).filterMap (Call.reply? conduct)) := by
  induction lines generalizing number state with
  | nil =>
      rfl
  | cons line rest ih =>
      obtain ⟨part, treats, first⟩ := workOff_treats table answers ends state number line
      obtain ⟨rfl, goesOn⟩ := first state
      rw [callsOf_cons]
      simpa [workOffAll, goesOn] using treats.ended_perm.append (ih (number + 1) _)

/-- The worker warns of each line in which there is a fault, by its number, and of nothing else. -/
theorem workOffAll_warnings (apart : api.NeverLogs .worker) (number : Nat) (lines : List String)
    (state : σ) :
    (workOffAll table api number lines state).occurrences.filterMap Occurrence.workerEntry? =
      (lines.zipIdx number).filterMap fun (line, number) =>
        (faultOf? line).map (skippedEntry number) := by
  refine Eq.trans ?_ (List.filterMap_eq_flatMap_toList _ _).symm
  exact workOffAll_filterMap answers ends
    (fun line => ((faultOf? line.1).map (skippedEntry line.2)).toList)
    (fun treats => treats.workerEntry?_eq apart state) number lines state

end Runs

/-- The worker accounts for every line of a text. -/
theorem workOffText_accounts (answers : api.AnswersBy conduct)
    (ends : ∀ call, (conduct call).ending ≠ none) (table : Table) (text : String) (state : σ) :
    let lines := textLines text
    let progress := workOffAll table api 1 lines state
    -- it comes to the end of the text, and says what it has counted
    workOffText table api text state =
        ⟨progress.occurrences ++ [.logged (finishedEntry progress.tally)], some 0, "",
          progress.state⟩ ∧
    -- the lines are treated in their order, and all that is seen is what is seen of one of them
    (∃ parts, List.Forall₂ (Treats table api conduct) (lines.zipIdx 1) parts ∧
      progress.tally = (parts.map Prod.fst).foldr Tally.add .zero ∧
      progress.occurrences = parts.flatMap Prod.snd) ∧
    -- every line that is not blank is counted
    progress.tally.succeeded + progress.tally.failed + progress.tally.skipped =
      lines.countP (fun line => !isBlankLine line) ∧
    -- a line is skipped if and only if it holds no event, with one warning that names its number
    progress.tally.skipped = lines.countP (fun line => (faultOf? line).isSome) ∧
    (api.NeverLogs .worker → progress.occurrences.filterMap Occurrence.workerEntry? =
      (lines.zipIdx 1).filterMap fun (line, number) =>
        (faultOf? line).map (skippedEntry number)) ∧
    -- an event succeeds if and only if it does so alone, from whatever state
    (∀ alone, progress.tally.succeeded = lines.countP fun line =>
      (eventOf? line).any fun event =>
        (table.evaluate api .steady .unlimited event alone).verdict == .settled []) ∧
    -- the calls are those of the events; those of some lines have ended before the next line
    (∀ former latter, lines = former ++ latter →
      let before := workOffAll table api 1 former state
      let after := workOffAll table api (1 + former.length) latter before.state
      progress.occurrences = before.occurrences ++ after.occurrences ∧
      before.occurrences.filterMap Occurrence.begun? = callsOf table former ∧
      (before.occurrences.filterMap Occurrence.ended?).Perm
        ((callsOf table former).filterMap (Call.reply? conduct)) ∧
      after.occurrences.filterMap Occurrence.begun? = callsOf table latter) ∧
    -- two lists of lines, one after the other, are worked off as each of them alone
    ∀ first second other,
      let whole := workOffAll table api 1 (first ++ second) state
      let one := workOffAll table api 1 first state
      let two := workOffAll table api 1 second other
      whole.occurrences.filterMap Occurrence.begun? =
        one.occurrences.filterMap Occurrence.begun? ++
          two.occurrences.filterMap Occurrence.begun? ∧
      whole.tally = one.tally.add two.tally := by
  intro lines progress
  have whole (first second : List String) := workOffAll_append first second 1 state
    (workOffAll_isStuck table answers ends 1 first state)
  have begun := workOffAll_begun table answers ends
  refine ⟨?_, ?_, workOffAll_total table answers ends 1 lines state,
    workOffAll_skipped table answers ends 1 lines state,
    fun apart => workOffAll_warnings table answers ends apart 1 lines state,
    workOffAll_succeeded table answers ends 1 lines state, ?_, ?_⟩
  · have goesOn : progress.isStuck = false := workOffAll_isStuck table answers ends 1 lines state
    simp only [workOffText]
    rw [show workOffAll table api 1 (textLines text) state = progress from rfl, goesOn]
    simp [Session.after, Session.afterEntries, Session.succeeded]
  · obtain ⟨parts, treats, run⟩ := workOffAll_treats table answers ends state 1 lines
    exact ⟨parts, treats, (run state).1, (run state).2.1⟩
  · intro former latter hlines before after
    refine ⟨?_, begun 1 former state, workOffAll_ended table answers ends 1 former state,
      begun (1 + former.length) latter before.state⟩
    rw [show progress = _ from congrArg (workOffAll table api 1 · state) hlines, whole]
  · intro first second other
    refine ⟨?_, ?_⟩
    · rw [begun, begun, begun, callsOf_append]
    · rw [whole, workOffAll_tally_eq table answers ends (1 + first.length) 1 second _ other]

end Texts

end Worker

namespace Account

/-- Two rules, and a service that breaks down over the second, after two suspensions. -/
def rules : Table :=
  ⟨[.of "calm" ⟨"scans"⟩ (Table.flag "calm"), .of "frail" ⟨"encodes"⟩ (Table.flag "frail")], []⟩

def script : List ScriptLine := [⟨"frail", 2, fun _ => some (.panicked none)⟩]

/-- An event, a blank line, a line that holds no event, and another event. -/
def text : String :=
  "\x7b\"event\":\"actionCreated\",\"action\":\x7b\"type\":\"encodes\",\"thng\":\"T1\"\x7d\x7d\n" ++
  " \n" ++
  "\x7b\r\n" ++
  "\x7b\"event\":\"actionCreated\",\"action\":\x7b\"type\":\"scans\",\"thng\":\"T2\"\x7d\x7d"

theorem conduct_of_script (call : Call) :
    (Scripted.conduct script call).ending ≠ none ∧ (Scripted.conduct script call).entries = [] := by
  rw [Scripted.conduct]
  cases h : script.find? fun line => line.subject == call.subject with
  | none =>
      simp [Conduct.immediate]
  | some line =>
      have hline : line = ⟨"frail", 2, fun _ => some (.panicked none)⟩ :=
        List.mem_singleton.1 (List.mem_of_find?_eq_some h)
      simp [hline]

end Account

open Worker Account in
/-- The first event breaks down, the third line is skipped, and the last event succeeds. -/
theorem Account.breakdown_is_counted :
    let service : Api Unit := Scripted.api script
    let progress := workOffAll rules service 1 (textLines text) ()
    (workOffText rules service text ()).status = some 0 ∧
    progress.tally.succeeded + progress.tally.failed + progress.tally.skipped = 3 ∧
    progress.tally.skipped = 1 ∧ progress.tally.succeeded = 1 ∧
    (progress.occurrences.filterMap Occurrence.workerEntry?).map LogEntry.line =
      [" WARN reactor_worker: skipping undecodable event line=3 error=EOF while parsing an " ++
        "object at line 1 column 1"] ∧
    progress.occurrences.filterMap Occurrence.begun? =
      [⟨"T1", .property ⟨"frail", .bool true⟩⟩, ⟨"T2", .property ⟨"calm", .bool true⟩⟩] := by
  intro service progress
  have apart : service.NeverLogs .worker := by
    intro call state entry hentry
    have : entry ∈ (Scripted.conduct script call).entries := hentry
    simp [(conduct_of_script call).2] at this
  have answers : service.AnswersBy (Scripted.conduct script) := fun _ _ => rfl
  obtain ⟨hsession, -, htotal, hskipped, hwarnings, hsucceeded, hsplit, -⟩ :=
    workOffText_accounts answers (fun call => (conduct_of_script call).1) rules text ()
  obtain ⟨-, hcalls, -⟩ := hsplit (textLines text) [] (List.append_nil _).symm
  rw [hsession, htotal, hskipped, hsucceeded (), hwarnings apart, hcalls]
  refine ⟨rfl, ?_⟩
  decide +kernel

end EventRules
