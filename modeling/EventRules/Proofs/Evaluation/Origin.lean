import Mathlib.Data.List.Forall2
import EventRules.Proofs.Evaluation.Aggregation
import EventRules.Proofs.Evaluation.Calls

/-!
# Origin — where the result of a branch comes from

A branch finishes with what its rule has prepared, or with what its call has come to.  This holds in
every round, whatever the service and the log do.

* `Prepared.Reaches` — the stands that the branch of a rule can come to;
* `reaches_round`, `Parts.reaches` — a round leads from such stands to such stands;
* `History.fault_of_result?` — a fault that is not that of a call was there before the first round.
-/

namespace EventRules

/-- The stands that the branch of a rule can come to. -/
inductive Prepared.Reaches (prepared : Prepared) : Branch → Prop
  | ready : Reaches prepared (Branch.ofPrepared prepared)
  | faulted {fault : RuleFault} : prepared.result = .error fault →
      Reaches prepared ⟨prepared.rule, .finished (.error fault)⟩
  | idle : prepared.result = .ok none → Reaches prepared ⟨prepared.rule, .finished (.ok ())⟩
  | waiting {call : Call} {ending : Ending} {left : Nat} : prepared.result = .ok (some call) →
      Reaches prepared ⟨prepared.rule, .waiting call ending left⟩
  | stuck {call : Call} : prepared.result = .ok (some call) →
      Reaches prepared ⟨prepared.rule, .stuck call⟩
  | ended {call : Call} {ending : Ending} : prepared.result = .ok (some call) →
      Reaches prepared ⟨prepared.rule, .finished (Branch.resultOf ending)⟩

/-- Each branch has come to a stand that its rule allows. -/
abbrev ReachesAll (prepared : List Prepared) (branches : List Branch) : Prop :=
  List.Forall₂ Prepared.Reaches prepared branches

/-- A fault with which a branch finishes was prepared by its rule, or its call has come to it. -/
theorem Prepared.Reaches.origin {prepared : Prepared} {branch : Branch} {fault : RuleFault}
    (reaches : prepared.Reaches branch) (hfault : branch.result? = some (.error fault)) :
    prepared.result = .error fault ∨ ∃ ending, Branch.resultOf ending = .error fault := by
  cases reaches with
  | faulted hresult =>
      have : (Except.error _ : Except RuleFault Unit) = .error fault := Option.some.inj hfault
      cases this
      exact Or.inl hresult
  | ended _ =>
      exact Or.inr ⟨_, Option.some.inj hfault⟩
  | _ =>
      cases hfault

/-- A call never comes to say that its rule is invalid. -/
theorem Branch.resultOf_ne_invalid (ending : Ending) (written : Json) (defect : Defect) :
    resultOf ending ≠ .error (.invalid written defect) := by
  cases ending <;> simp [resultOf, RuleFault.ofDispatch]

/-! ## One round -/

section Rounds

variable {σ : Type} (api : Api σ) (sink : LogSink)

theorem Prepared.Reaches.advance {prepared : Prepared} {branch next : Branch}
    (reaches : prepared.Reaches branch) {state : σ}
    (hnext : (branch.advance api sink state).next = .ok next) : prepared.Reaches next := by
  cases reaches with
  | ready =>
      rcases prepared with ⟨rule, fault | _ | call⟩
      · cases hnext
        exact .faulted rfl
      · cases hnext
        exact .idle rfl
      · cases sink with
        | breaking text =>
            cases hnext
        | steady =>
            have hbegun : (Branch.begin api rule call state).next = .ok next := hnext
            rw [Branch.begin] at hbegun
            rcases hcall : api.call call state with ⟨⟨entries, suspensions, ending⟩, after⟩
            rw [hcall] at hbegun
            cases ending with
            | none =>
                cases hbegun
                exact .stuck rfl
            | some ending =>
                cases suspensions with
                | zero =>
                    cases hbegun
                    exact .ended rfl
                | succ left =>
                    cases hbegun
                    exact .waiting rfl
  | faulted hresult =>
      cases hnext
      exact .faulted hresult
  | idle hresult =>
      cases hnext
      exact .idle hresult
  | @waiting call ending left hresult =>
      cases left with
      | zero =>
          cases hnext
          exact .ended hresult
      | succ left =>
          cases hnext
          exact .waiting hresult
  | stuck hresult =>
      cases hnext
      exact .stuck hresult
  | ended hresult =>
      cases hnext
      exact .ended hresult

theorem reaches_round {prepared : List Prepared} {branches next : List Branch}
    (reaches : ReachesAll prepared branches) {state : σ}
    (hnext : (round api sink branches state).next = .ok next) : ReachesAll prepared next := by
  induction reaches generalizing next state with
  | nil =>
      cases hnext
      exact .nil
  | @cons _ branch _ rest hfirst _ ih =>
      cases hadvance : (branch.advance api sink state).next with
      | error text =>
          simp [round, hadvance] at hnext
      | ok own =>
          cases hrest : (round api sink rest (branch.advance api sink state).state).next with
          | error text =>
              simp [round, hadvance, hrest, Except.map] at hnext
          | ok others =>
              have hcons : own :: others = next := by
                simpa [round, hadvance, hrest, Except.map] using hnext
              rw [← hcons]
              exact .cons (hfirst.advance api sink hadvance) (ih hrest)

/-- The part of a branch in a round leaves it in a stand that its rule allows. -/
theorem reaches_parts {prepared : List Prepared} {branches : List Branch}
    (reaches : ReachesAll prepared branches) {state : σ} {place : Nat} {part : Part} {next : Branch}
    (hpart : (parts api sink branches state)[place]? = some part) (hnext : part.next = .ok next) :
    ∃ one, prepared[place]? = some one ∧ one.Reaches next := by
  induction reaches generalizing state place with
  | nil =>
      simp [parts] at hpart
  | @cons one branch _ rest hfirst _ ih =>
      cases place with
      | zero =>
          have hown : part.next = (branch.advance api sink state).next := by
            simp only [parts, List.getElem?_cons_zero, Option.some.injEq] at hpart
            rw [← hpart]
          exact ⟨one, rfl, hfirst.advance api sink (hown.symm.trans hnext)⟩
      | succ place =>
          cases hadvance : (branch.advance api sink state).next with
          | error text =>
              simp [parts, hadvance] at hpart
          | ok own =>
              exact ih (by simpa [parts, hadvance] using hpart)

/-- A round that is not broken off has a part for every branch. -/
theorem parts_of_round {branches next : List Branch} {state : σ}
    (hnext : (round api sink branches state).next = .ok next) :
    (parts api sink branches state).map Part.next = next.map .ok := by
  induction branches generalizing next state with
  | nil =>
      cases hnext
      rfl
  | cons first rest ih =>
      cases hadvance : (first.advance api sink state).next with
      | error text =>
          simp [round, hadvance] at hnext
      | ok own =>
          cases hrest : (round api sink rest (first.advance api sink state).state).next with
          | error text =>
              simp [round, hadvance, hrest, Except.map] at hnext
          | ok others =>
              have hcons : own :: others = next := by
                simpa [round, hadvance, hrest, Except.map] using hnext
              simp [parts, hadvance, ih hrest, ← hcons]

end Rounds

/-! ## All rounds -/

section Runs

variable {σ : Type} (api : Api σ) (sink : LogSink) (patience : Patience)

theorem reaches_settleHistory {prepared : List Prepared} {branches : List Branch}
    (reaches : ReachesAll prepared branches) {rounds : Nat} {state : σ} {seen : List Part}
    (hseen : seen ∈ settleHistory api sink rounds branches state) {place : Nat} {part : Part}
    {next : Branch} (hpart : seen[place]? = some part) (hnext : part.next = .ok next) :
    ∃ one, prepared[place]? = some one ∧ one.Reaches next := by
  induction rounds generalizing branches state with
  | zero =>
      rw [settleHistory] at hseen
      split at hseen <;> cases hseen
  | succ left ih =>
      rw [settleHistory] at hseen
      split at hseen
      · cases hseen
      · rcases List.mem_cons.1 hseen with rfl | hlater
        · exact reaches_parts api sink reaches hpart hnext
        · cases hmade : (round api sink branches state).next with
          | error text =>
              simp [hmade] at hlater
          | ok made =>
              rw [hmade] at hlater
              exact ih (reaches_round api sink reaches hmade) hlater

theorem reaches_history {prepared : List Prepared} {state : σ} {seen : List Part}
    (hseen : seen ∈ history api sink patience prepared state) {place : Nat} {part : Part}
    {next : Branch} (hpart : seen[place]? = some part) (hnext : part.next = .ok next) :
    ∃ one, prepared[place]? = some one ∧ one.Reaches next := by
  have hstart : ReachesAll prepared (prepared.map Branch.ofPrepared) :=
    List.forall₂_map_right_iff.2 (List.forall₂_same.2 fun _ _ => .ready)
  rcases List.mem_cons.1 hseen with rfl | hlater
  · exact reaches_parts api sink hstart hpart hnext
  · cases hmade : (round api sink (prepared.map Branch.ofPrepared) state).next with
    | error text =>
        simp [hmade] at hlater
    | ok made =>
        simp only [hmade] at hlater
        exact reaches_settleHistory api sink (reaches_round api sink hstart hmade) hlater hpart
          hnext

/-- A rule that is found to be invalid was so before its branch began. -/
theorem History.fault_of_result? {prepared : List Prepared} {state : σ} {place round : Nat}
    {written : Json} {defect : Defect}
    (h : (history api sink patience prepared state).result? place round =
      some (.error (.invalid written defect))) :
    ∃ one, prepared[place]? = some one ∧ one.result = .error (.invalid written defect) := by
  cases round with
  | zero =>
      cases h
  | succ n =>
      simp only [result?, Option.bind_eq_bind, Option.bind_eq_some_iff] at h
      obtain ⟨seen, hseen, part, hpart, hresult⟩ := h
      cases hnext : part.next with
      | error text =>
          simp [hnext] at hresult
      | ok next =>
          simp only [hnext] at hresult
          obtain ⟨one, hone, reaches⟩ :=
            reaches_history api sink patience (List.mem_of_getElem? hseen) hpart hnext
          rcases reaches.origin hresult with hown | ⟨ending, hending⟩
          · exact ⟨one, hone, hown⟩
          · exact absurd hending (Branch.resultOf_ne_invalid ending written defect)

/-- A fault that is there before is the result of the first round, if the log stands that round. -/
theorem History.result?_of_faulted {prepared : List Prepared} (stands : sink.Stands prepared)
    {place : Nat} {one : Prepared} (hplace : prepared[place]? = some one) {fault : RuleFault}
    (hfault : one.result = .error fault) (state : σ) :
    (history api sink patience prepared state).result? place 1 = some (.error fault) := by
  have hround : round api sink (prepared.map Branch.ofPrepared) state =
      round api .steady (prepared.map Branch.ofPrepared) state := by
    rcases stands with rfl | silent
    · rfl
    · exact round_of_silent api sink silent state
  have hnext : (round api sink (prepared.map Branch.ofPrepared) state).next =
      .ok ((tracks api prepared state).map (Track.branchAfter 1)) := by
    rw [hround, round_ofPrepared]
  obtain ⟨before, htrack⟩ := exists_getElem?_tracks api hplace state
  have hmap := congrArg (·[place]?) (parts_of_round api sink hnext)
  simp only [List.getElem?_map, htrack, Option.map_some, Option.map_eq_some_iff] at hmap
  obtain ⟨part, hpart, hown⟩ := hmap
  simp [result?, history, hpart, hown, Prepared.track, hfault, Track.branchAfter, Branch.result?]

end Runs

end EventRules
