import EventRules.Evaluation.Reaction

/-!
# Unwinding — how work is left

Work comes back with a value, is unwound by a breakdown, or never comes back.  A breakdown passes
through all that would follow, up to the next guard.  What is done about an evaluation is written here
step by step, each of which may be left in any of these ways.

* `Work`, `Work.guarded` — a piece of work, and a guard around it;
* `LogSink.write` — one entry for a log that may break down;
* `handle` — all that is done about an evaluation;
* `handle_evaluation` — nothing unwinds out of it, and it is the reaction to an event.
-/

namespace EventRules

inductive Exit (α : Type) where
  | returned (value : α)
  /-- Something broke down, with a text. -/
  | unwound (text : String)
  | hung
  deriving DecidableEq

structure Work (α : Type) where
  exit : Exit α
  occurrences : List Occurrence

namespace Work

variable {α β : Type}

/-- The work that follows is only taken up if there is a value to go on with. -/
def andThen (work : Work α) (next : α → Work β) : Work β :=
  match work.exit with
  | .returned value => ⟨(next value).exit, work.occurrences ++ (next value).occurrences⟩
  | .unwound text => ⟨.unwound text, work.occurrences⟩
  | .hung => ⟨.hung, work.occurrences⟩

instance : Monad Work where
  pure value := ⟨.returned value, []⟩
  bind := andThen

/-- A guard turns a breakdown into a value. -/
def guarded (work : Work α) : Work (Except String α) :=
  match work.exit with
  | .returned value => ⟨.returned (.ok value), work.occurrences⟩
  | .unwound text => ⟨.returned (.error text), work.occurrences⟩
  | .hung => ⟨.hung, work.occurrences⟩

def signal (completion : Completion) : Work Unit := ⟨.returned (), [.signalled completion]⟩

@[simp]
theorem pure_eq (value : α) : (pure value : Work α) = ⟨.returned value, []⟩ :=
  rfl

@[simp]
theorem bind_returned (value : α) (occurrences : List Occurrence) (next : α → Work β) :
    ((⟨.returned value, occurrences⟩ : Work α) >>= next) =
      ⟨(next value).exit, occurrences ++ (next value).occurrences⟩ :=
  rfl

@[simp]
theorem bind_hung (occurrences : List Occurrence) (next : α → Work β) :
    ((⟨.hung, occurrences⟩ : Work α) >>= next) = ⟨.hung, occurrences⟩ :=
  rfl

end Work

/-! ## Steps -/

namespace LogSink

/-- A log that breaks down does so over the entries of the evaluation only. -/
def write (sink : LogSink) (entry : LogEntry) : Work Unit :=
  match sink with
  | .steady => ⟨.returned (), [.logged entry]⟩
  | .breaking text =>
      if entry.source = .evaluation then ⟨.unwound text, [.logged entry]⟩
      else ⟨.returned (), [.logged entry]⟩

def writeAll (sink : LogSink) : List LogEntry → Work Unit
  | [] => pure ()
  | entry :: rest => do
      sink.write entry
      sink.writeAll rest

theorem write_of_apart (sink : LogSink) {entry : LogEntry} (apart : entry.source ≠ .evaluation) :
    sink.write entry = ⟨.returned (), [.logged entry]⟩ := by
  cases sink with
  | steady =>
      rfl
  | breaking text =>
      simp [write, apart]

theorem writeAll_of_apart (sink : LogSink) {entries : List LogEntry}
    (apart : ∀ entry ∈ entries, entry.source ≠ .evaluation) :
    sink.writeAll entries = ⟨.returned (), entries.map .logged⟩ := by
  induction entries with
  | nil =>
      rfl
  | cons first rest ih =>
      have hrest := ih fun entry hentry => apart entry (List.mem_cons_of_mem first hentry)
      rw [writeAll, write_of_apart sink (apart first List.mem_cons_self)]
      simp [hrest]

end LogSink

/-- An evaluation as work: failures are values, and a breakdown of the log unwinds. -/
def Evaluation.work {σ : Type} (evaluation : Evaluation σ) : Work (List Failure) where
  exit :=
    match evaluation.verdict with
    | .settled failures => .returned failures
    | .unwound text => .unwound text
    | .hung => .hung
  occurrences := evaluation.occurrences

/-! ## What is done about an evaluation -/

/-- The log is told of failures, or of a breakdown. -/
def conclude (sink : LogSink) (event : String) : Except String (List Failure) → Work Completion
  | .ok [] => pure .succeeded
  | .ok (first :: rest) => do
      sink.write (evaluationEntry event (first :: rest))
      sink.writeAll ((first :: rest).map (failureEntry event))
      return .failed
  | .error text => do
      sink.write (breakdownEntry event text)
      return .failed

def handle (sink : LogSink) (event : String) (evaluation : Work (List Failure)) : Work Unit := do
  let result ← evaluation.guarded
  let completion ← conclude sink event result
  Work.signal completion

theorem conclude_failures (sink : LogSink) (event : String) (first : Failure)
    (rest : List Failure) :
    conclude sink event (.ok (first :: rest)) =
      ⟨.returned .failed,
        .logged (evaluationEntry event (first :: rest)) ::
          ((first :: rest).map (failureEntry event)).map .logged⟩ := by
  have hsummary : (evaluationEntry event (first :: rest)).source ≠ .evaluation := nofun
  have hfailures : ∀ entry ∈ (first :: rest).map (failureEntry event),
      entry.source ≠ .evaluation := by
    rw [List.forall_mem_map]
    intro failure _
    exact nofun
  rw [conclude, sink.write_of_apart hsummary, sink.writeAll_of_apart hfailures]
  simp

theorem conclude_breakdown (sink : LogSink) (event text : String) :
    conclude sink event (.error text) = ⟨.returned .failed, [.logged (breakdownEntry event text)]⟩ := by
  have hbreakdown : (breakdownEntry event text).source ≠ .evaluation := nofun
  rw [conclude, sink.write_of_apart hbreakdown]
  rfl

/-- All work about an evaluation comes back, unless the evaluation never does. -/
theorem handle_evaluation {σ : Type} (sink : LogSink) (event : String)
    (evaluation : Evaluation σ) :
    handle sink event evaluation.work =
      ⟨if evaluation.verdict = .hung then .hung else .returned (),
        evaluation.occurrences ++ (evaluation.verdict.entries event).map .logged ++
          evaluation.verdict.completion?.toList.map .signalled⟩ := by
  rcases evaluation with ⟨verdict, occurrences, state⟩
  cases verdict with
  | settled failures =>
      cases failures with
      | nil =>
          simp [handle, Work.guarded, Evaluation.work, conclude, Work.signal, Verdict.entries,
            Verdict.completion?]
      | cons first rest =>
          simp [handle, Work.guarded, Evaluation.work, conclude_failures, Work.signal,
            Verdict.entries, Verdict.completion?]
  | hung =>
      simp [handle, Work.guarded, Evaluation.work, Verdict.entries, Verdict.completion?]
  | unwound text =>
      simp [handle, Work.guarded, Evaluation.work, conclude_breakdown, Work.signal,
        Verdict.entries, Verdict.completion?]

end EventRules
