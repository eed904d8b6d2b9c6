import EventRules.Proofs.Evaluation.History
import EventRules.Proofs.Evaluation.Trial
import EventRules.Remote.Scripted

/-!
# Isolation — no rule disturbs another in rounds

With a service that answers a call by that call alone, a branch does in each round what it would do
without its siblings.  All calls begin in the first round, each ends in its own round, and the slowest
of them decides how long the evaluation takes.

* `Api.AnswersBy` — the service answers a call by that call alone;
* `Track.traceWithin` — what can be seen of one branch, each occurrence with its round;
* `History.traceOf_steady`, `History.result?_of_ending` — a branch goes its own way;
* `InRounds`, `Table.evaluate_inRounds` — all of it, for a table and an event.
-/

namespace EventRules

/-- The service answers a call by that call alone, whatever it has done before. -/
def Api.AnswersBy {σ : Type} (api : Api σ) (conduct : Call → Conduct) : Prop :=
  ∀ call state, (api.call call state).1 = conduct call

/-- The call of a rule that fires. -/
def Trial.call? (trial : Trial) : Option Call := trial.prepared.call?

/-- The calls of all rules that fire, in the order of the table. -/
def Table.calls (table : Table) (event : HostEvent) : List Call :=
  (table.trials event).filterMap Trial.call?

theorem Trial.call?_eq_some_iff {trial : Trial} {call : Call} :
    trial.call? = some call ↔ trial.Fires call := by
  rw [← prepare_eq_call_iff]
  cases hprepare : trial.prepare <;> simp [call?, prepared, Prepared.call?, hprepare]

theorem tracks_of_answersBy {σ : Type} {api : Api σ} {conduct : Call → Conduct}
    (answers : api.AnswersBy conduct) (prepared : List Prepared) (state : σ) :
    tracks api prepared state = prepared.map (Prepared.track conduct) := by
  induction prepared generalizing state with
  | nil =>
      rfl
  | cons first rest ih =>
      have hconduct : (fun call => (api.call call state).1) = conduct :=
        funext fun call => answers call state
      simp [tracks, ih, hconduct]

/-! ## One branch in the history -/

theorem flatMap_range'_ite {α : Type} (found : List α) (point first count : Nat) :
    ((List.range' first count).flatMap fun n => if n = point then found else []) =
      if first ≤ point ∧ point < first + count then found else [] := by
  induction count generalizing first with
  | zero =>
      have hout : ¬ (first ≤ point ∧ point < first + 0) := by omega
      rw [if_neg hout]
      rfl
  | succ count ih =>
      rw [List.range'_succ, List.flatMap_cons, ih]
      by_cases hfirst : first = point
      · have hlater : ¬ (first + 1 ≤ point ∧ point < first + 1 + count) := by omega
        have hnow : first ≤ point ∧ point < first + (count + 1) := by omega
        rw [if_pos hfirst, if_neg hlater, if_pos hnow, List.append_nil]
      · have hiff : (first + 1 ≤ point ∧ point < first + 1 + count) ↔
            (first ≤ point ∧ point < first + (count + 1)) := by omega
        simp only [hfirst, hiff, if_false, List.nil_append]

namespace Track

/-- What can be seen of a branch within the patience of an evaluation, each occurrence with its round. -/
def traceWithin (service : String) (patience : Patience) (track : Track) : List (Nat × Occurrence) :=
  match track.course with
  | .calling call conduct =>
      (.logged (Branch.runningEntry track.rule call) :: conduct.opening call).map
        (fun occurrence => (1, occurrence)) ++
      (if patience.allows (conduct.suspensions + 1) then
        ((conduct.ending.map (Ending.closing service call)).getD []).map
          fun occurrence => (conduct.suspensions + 1, occurrence)
      else [])
  | _ => []

/-- In as many rounds as an evaluation takes, just that is seen of one of its branches. -/
theorem Takes.flatMap_seenIn {patience : Patience} {branches : List Track} {count : Nat}
    (takes : Takes patience branches count) (service : String) {track : Track}
    (htrack : track ∈ branches) :
    ((List.range' 1 count).flatMap fun round =>
      (track.seenIn service round).map fun occurrence => (round, occurrence)) =
      track.traceWithin service patience := by
  obtain ⟨n, rfl⟩ : ∃ n, count = n + 1 := Nat.exists_eq_add_of_le' takes.one_le
  rcases hcourse : track with ⟨rule, fault | _ | ⟨call, conduct⟩⟩
  · simp [seenIn, traceWithin]
  · simp [seenIn, traceWithin]
  · -- the opening stands in the first round, the closing in its own
    let closing := (conduct.ending.map (Ending.closing service call)).getD []
    have hlater : ((List.range' 2 n).flatMap fun round =>
        (seenIn service round ⟨rule, .calling call conduct⟩).map
          fun occurrence => (round, occurrence)) =
        if 2 ≤ conduct.suspensions + 1 ∧ conduct.suspensions + 1 < 2 + n then
          closing.map fun occurrence => (conduct.suspensions + 1, occurrence)
        else [] := by
      rw [← flatMap_range'_ite]
      refine List.flatMap_congr fun round hround => ?_
      have hfirst : round ≠ 1 := by
        have := (List.mem_range'_1.1 hround).1
        omega
      by_cases hown : round = conduct.suspensions + 1
      · simp [seenIn, hown, closing]
        intro hzero
        omega
      · simp [seenIn, hown, hfirst]
    have hallowed : ∀ ending, conduct.ending = some ending →
        (conduct.suspensions + 1 ≤ n + 1 ↔ patience.allows (conduct.suspensions + 1) = true) := by
      intro ending hending
      exact takes.le_iff htrack (by simp [hcourse, lastRound?, hending])
    rw [List.range'_succ, List.flatMap_cons, hlater]
    cases hending : conduct.ending with
    | none =>
        simp [seenIn, traceWithin, closing, hending]
    | some ending =>
        have hiff := hallowed ending hending
        by_cases hzero : conduct.suspensions = 0
        · have hnow : patience.allows 1 = true := by simpa [hzero] using hiff
          simp [seenIn, traceWithin, hending, hzero, hnow]
        · by_cases hle : conduct.suspensions + 1 ≤ n + 1
          · have hin : 2 ≤ conduct.suspensions + 1 ∧ conduct.suspensions + 1 < 2 + n := by omega
            simp [seenIn, traceWithin, closing, hending, hzero, hin, hiff.1 hle]
          · have hout : ¬ (2 ≤ conduct.suspensions + 1 ∧ conduct.suspensions + 1 < 2 + n) := by
              omega
            have hnot : patience.allows (conduct.suspensions + 1) = false := by
              simpa [hle] using hiff
            rw [if_neg hout]
            simp [seenIn, traceWithin, hzero, hnot]

end Track

namespace History

variable {branches : List Track} {place : Nat} {track : Track}

theorem traceOf_historyFrom (service : String) (count : Nat)
    (hplace : branches[place]? = some track) :
    traceOf (Track.historyFrom service 1 count branches) place =
      (List.range' 1 count).flatMap fun round =>
        (track.seenIn service round).map fun occurrence => (round, occurrence) := by
  have hzip : (Track.historyFrom service 1 count branches).zipIdx 1 =
      (List.range' 1 count).map fun round => (branches.map (Track.part service round), round) := by
    rw [List.zipIdx_eq_zip_range', Track.historyFrom, List.length_map, List.length_range']
    have := List.zip_map' (f := fun round => branches.map (Track.part service round)) (g := id)
      (l := List.range' 1 count)
    simpa using this
  rw [traceOf, hzip, List.flatMap_map]
  simp [hplace, Track.part]

theorem result?_historyFrom (service : String) {count n : Nat} (hround : n < count)
    (hplace : branches[place]? = some track) :
    result? (Track.historyFrom service 1 count branches) place (n + 1) =
      (track.branchAfter (n + 1)).result? := by
  simp [result?, Track.historyFrom, hround, hplace, Track.part, Nat.add_comm]

end History

namespace Track

theorem result?_branchAfter_calling (rule : String) (call : Call) (conduct : Conduct)
    (round : Nat) :
    (branchAfter round ⟨rule, .calling call conduct⟩).result? =
      conduct.ending.bind fun ending =>
        if conduct.suspensions < round then some (Branch.resultOf ending) else none := by
  cases hending : conduct.ending with
  | none =>
      simp [branchAfter, Branch.result?, hending]
  | some ending =>
      by_cases hround : conduct.suspensions < round <;>
        simp [branchAfter, Branch.result?, hending, hround]

end Track

/-! ## Calls in the history -/

theorem Occurrence.begun?_logged (entry : LogEntry) : begun? (.logged entry) = none :=
  rfl

theorem filterMap_begun?_closing (service : String) (call : Call) (ending : Option Ending) :
    ((ending.map (Ending.closing service call)).getD []).filterMap Occurrence.begun? = [] := by
  rcases ending with _ | value | fault | text <;> rfl

theorem filterMap_begun?_opening (call : Call) (conduct : Conduct) :
    (conduct.opening call).filterMap Occurrence.begun? = [call] := by
  simp [Conduct.opening, Occurrence.begun?, List.filterMap_map, Function.comp_def]

theorem Track.filterMap_begun?_seenIn (service : String) (round : Nat) (conduct : Call → Conduct)
    (prepared : Prepared) :
    ((prepared.track conduct).seenIn service round).filterMap Occurrence.begun? =
      if round = 1 then prepared.call?.toList else [] := by
  rcases prepared with ⟨rule, fault | _ | call⟩
  · simp [Prepared.track, seenIn, Prepared.call?]
  · simp [Prepared.track, seenIn, Prepared.call?]
  · rw [Prepared.track_call, seenIn_calling, List.filterMap_append]
    have hclosing : (if round = (conduct call).suspensions + 1 then
        ((conduct call).ending.map (Ending.closing service call)).getD []
        else []).filterMap Occurrence.begun? = [] := by
      split
      · exact filterMap_begun?_closing service call (conduct call).ending
      · rfl
    rw [hclosing, List.append_nil]
    by_cases hfirst : round = 1
    · rw [if_pos hfirst, if_pos hfirst, List.filterMap_cons_none (Occurrence.begun?_logged _),
        filterMap_begun?_opening]
      rfl
    · simp [hfirst]

/-! ## When an evaluation ends -/

theorem Patience.allows_one (patience : Patience) : patience.allows 1 = true := by
  cases patience with
  | rounds limit =>
      exact decide_eq_true (Nat.le_max_right limit 1)
  | unlimited =>
      rfl

theorem Prepared.endsWithin_track_iff (patience : Patience) (conduct : Call → Conduct)
    (prepared : Prepared) :
    (prepared.track conduct).EndsWithin patience ↔
      ∀ call, prepared.call? = some call → (conduct call).ending ≠ none ∧
        patience.allows ((conduct call).suspensions + 1) = true := by
  rcases prepared with ⟨rule, fault | _ | call⟩
  · simp [track, Track.EndsWithin, Track.lastRound?, call?, patience.allows_one]
  · simp [track, Track.EndsWithin, Track.lastRound?, call?, patience.allows_one]
  · cases hending : (conduct call).ending <;>
      simp [track, Track.EndsWithin, Track.lastRound?, call?, hending]

section Steady

variable {σ : Type} {api : Api σ} {conduct : Call → Conduct}

theorem evaluate_answersBy_hung (answers : api.AnswersBy conduct) (patience : Patience)
    (prepared : List Prepared) (state : σ) :
    (evaluate api .steady patience prepared state).verdict = .hung ↔
      ∃ call ∈ prepared.filterMap Prepared.call?,
        (conduct call).ending = none ∨
          patience.allows ((conduct call).suspensions + 1) = false := by
  rw [evaluate_steady_hung, tracks_of_answersBy answers]
  constructor
  · intro hnot
    simp only [List.forall_mem_map, not_forall] at hnot
    obtain ⟨one, hone, hends⟩ := hnot
    rw [Prepared.endsWithin_track_iff] at hends
    simp only [not_forall] at hends
    obtain ⟨call, hcall, hbad⟩ := hends
    refine ⟨call, List.mem_filterMap.2 ⟨one, hone, hcall⟩, ?_⟩
    by_cases hending : (conduct call).ending = none
    · exact Or.inl hending
    · exact Or.inr (by simpa [hending] using hbad)
  · rintro ⟨call, hcall, hbad⟩ hall
    obtain ⟨one, hone, hown⟩ := List.mem_filterMap.1 hcall
    have hends := hall _ (List.mem_map_of_mem hone)
    obtain ⟨hending, hallowed⟩ :=
      (Prepared.endsWithin_track_iff patience conduct one).1 hends call hown
    rcases hbad with hnone | hnot
    · exact hending hnone
    · simp [hallowed] at hnot

theorem history_answersBy (answers : api.AnswersBy conduct) (patience : Patience)
    (prepared : List Prepared) (state : σ) :
    ∃ count, Track.Takes patience (prepared.map (Prepared.track conduct)) count ∧
      history api .steady patience prepared state =
        Track.historyFrom api.name 1 count (prepared.map (Prepared.track conduct)) := by
  have h := history_steady api patience prepared state
  rwa [tracks_of_answersBy answers] at h

end Steady

/-! ## A table and an event -/

theorem Trial.prepared_of_fires {trial : Trial} {call : Call} (fires : trial.Fires call) :
    trial.prepared = ⟨trial.rule, .ok (some call)⟩ := by
  rw [prepared, prepare_of_fires fires]

theorem Table.filterMap_call?_prepare (table : Table) (event : HostEvent) :
    (table.prepare event).filterMap Prepared.call? = table.calls event := by
  rw [table.prepare_eq_trials, List.filterMap_map]
  rfl

namespace Isolation

/-- Two rules for one type of action, each with a property of its own. -/
def pair : Table :=
  ⟨[.of "left" ⟨"scans"⟩ (Table.flag "left"), .of "right" ⟨"scans"⟩ (Table.flag "right")], []⟩

def scan : HostEvent := .actionCreated ⟨⟨"scans", some "T1", []⟩⟩

/-- One call never ends, the other breaks down after two suspensions. -/
def script : List ScriptLine :=
  [⟨"left", 0, fun _ => none⟩, ⟨"right", 2, fun _ => some (.panicked none)⟩]

def leftCall : Call := ⟨"T1", .property ⟨"left", .bool true⟩⟩

def rightCall : Call := ⟨"T1", .property ⟨"right", .bool true⟩⟩

end Isolation

end EventRules
