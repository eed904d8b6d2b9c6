import Mathlib.Data.List.Basic
import EventRules.Rule.Installed

/-!
# Threads — the table of a process that several threads ask for

Each thread has requests to make, one after the other, and the atomic steps of all threads on the one
cell of the process may come in any order.  A thread that asks for the table takes two steps if it
finds the cell empty, and another thread may fill the cell between them.

* `Process.step`, `Process.run` — one atomic step of a thread, and steps in the order of a schedule;
* `Consistent` — what the answers so far have in common with the cell, whatever the schedule;
* `Process.answered` — that no thread has to wait for another one;
* `Process.one_table` — all answers are one table, and the one that was installed if any was.
-/

namespace EventRules

/-! ## Requests -/

/-- A table as an object: tables that were made apart are different objects even if they are equal. -/
structure Made where
  place : Nat
  table : Table
  deriving DecidableEq

inductive Demand where
  /-- Asks for the table of the process. -/
  | current
  | install (table : Table)
  deriving DecidableEq

namespace Demand

/-- One atomic step of a request: its answer, unless it takes another step, and the cell behind it.
A request that has missed the table brings one of its own. -/
def act (demand : Demand) (missed : Bool) (place : Nat) (cell : Installed Made) :
    Option (Except TableFault Made) × Installed Made :=
  match demand, missed with
  | .install table, _ =>
      let (answer, cell) := cell.install ⟨place, table⟩
      (some answer, cell)
  | .current, false => (cell.look.map .ok, cell)
  | .current, true =>
      let (held, cell) := cell.settle ⟨place, .embedded⟩
      (some (.ok held), cell)

/-- What one step of a request can come to. -/
inductive Acts (place : Nat) : Demand → Bool → Installed Made → Option (Except TableFault Made) →
    Installed Made → Prop
  | installed {table : Table} {missed : Bool} {cell : Installed Made} :
      cell.held = none →
      Acts place (.install table) missed cell (some (.ok ⟨place, table⟩)) ⟨some ⟨place, table⟩⟩
  | refused {table : Table} {missed : Bool} {cell : Installed Made} {held : Made} :
      cell.held = some held →
      Acts place (.install table) missed cell (some (.error .alreadyInstalled)) cell
  | found {missed : Bool} {cell : Installed Made} {held : Made} :
      cell.held = some held → Acts place .current missed cell (some (.ok held)) cell
  | missed {cell : Installed Made} :
      cell.held = none → Acts place .current false cell none cell
  | settled {cell : Installed Made} :
      cell.held = none →
      Acts place .current true cell (some (.ok ⟨place, .embedded⟩)) ⟨some ⟨place, .embedded⟩⟩

theorem acts (demand : Demand) (missed : Bool) (place : Nat) (cell : Installed Made) :
    Acts place demand missed cell (demand.act missed place cell).1
      (demand.act missed place cell).2 := by
  cases hheld : cell.held with
  | none =>
      rcases cell with ⟨_⟩
      cases hheld
      cases demand with
      | current =>
          cases missed with
          | false =>
              exact .missed rfl
          | true =>
              exact .settled rfl
      | install table =>
          exact .installed rfl
  | some held =>
      rcases cell with ⟨_⟩
      cases hheld
      cases demand with
      | current =>
          cases missed with
          | false =>
              exact .found rfl
          | true =>
              exact .found rfl
      | install table =>
          exact .refused rfl

end Demand

/-! ## Threads -/

structure Thread where
  /-- The requests that are not answered yet. -/
  pending : List Demand
  /-- Whether the first of them has found the cell empty. -/
  missed : Bool
  deriving DecidableEq

/-- A request that was answered. -/
structure Reply where
  thread : Nat
  demand : Demand
  answer : Except TableFault Made

structure Process where
  cell : Installed Made
  threads : List Thread
  /-- How many steps there were, which tells tables apart that are made in different ones. -/
  steps : Nat
  /-- In the order in which the answers were given. -/
  replies : List Reply

/-- A table was installed for the request. -/
def Reply.hasInstalled (reply : Reply) : Bool :=
  match reply.demand, reply.answer with
  | .install _, .ok _ => true
  | _, _ => false

namespace Process

/-- A process whose threads are going to make some requests each. -/
def start (demands : List (List Demand)) : Process :=
  ⟨.unset, demands.map fun pending => ⟨pending, false⟩, 0, []⟩

/-- The process behind a step for a request, which is answered or has missed the table. -/
def move (process : Process) (i : Nat) (demand : Demand) (rest : List Demand) :
    Option (Except TableFault Made) × Installed Made → Process
  | (some answer, cell) =>
      ⟨cell, process.threads.set i ⟨rest, false⟩, process.steps + 1,
        process.replies ++ [⟨i, demand, answer⟩]⟩
  | (none, cell) =>
      ⟨cell, process.threads.set i ⟨demand :: rest, true⟩, process.steps + 1, process.replies⟩

/-- The next atomic step of a thread, if it has any request left. -/
def step (process : Process) (i : Nat) : Process :=
  match process.threads[i]? with
  | some ⟨demand :: rest, missed⟩ =>
      process.move i demand rest (demand.act missed process.steps process.cell)
  | _ => process

/-- Steps of threads, in the order of a schedule. -/
def run (process : Process) (schedule : List Nat) : Process := schedule.foldl step process

variable {process : Process} {i : Nat}

theorem step_of_thread {demand : Demand} {rest : List Demand} {missed : Bool}
    (hthread : process.threads[i]? = some ⟨demand :: rest, missed⟩) :
    process.step i =
      process.move i demand rest (demand.act missed process.steps process.cell) := by
  rw [step, hthread]

/-- What one step of a thread can come to. -/
theorem step_cases (process : Process) (i : Nat) :
    process.step i = process ∨
    ∃ demand rest missed answer cell,
      Demand.Acts process.steps demand missed process.cell answer cell ∧
      process.step i = process.move i demand rest (answer, cell) := by
  unfold step
  split
  · rename_i demand rest missed _
    exact Or.inr ⟨demand, rest, missed, _, _, demand.acts missed _ _, rfl⟩
  · exact Or.inl rfl

/-- A cell that is filled stays as it is. -/
theorem cell_step {made : Made} (hheld : process.cell.held = some made) (i : Nat) :
    (process.step i).cell = process.cell := by
  rcases process.step_cases i with hsame | ⟨demand, rest, missed, answer, cell, acts, hstep⟩
  · rw [hsame]
  · rw [hstep]
    cases acts with
    | installed hnone | missed hnone | settled hnone =>
        exact absurd (hheld.symm.trans hnone) (Option.some_ne_none made)
    | refused _ | found _ =>
        rfl

end Process

/-! ## What answers have in common -/

/-- The answers so far and the cell belong together. -/
structure Consistent (cell : Installed Made) (replies : List Reply) : Prop where
  /-- Nothing is answered as long as the cell is empty. -/
  unset : cell.held = none → replies = []
  held : ∀ reply ∈ replies, ∀ made, reply.answer = .ok made → cell.held = some made
  own : ∀ reply ∈ replies, ∀ table made, reply.demand = .install table → reply.answer = .ok made →
    made.table = table
  refused : ∀ reply ∈ replies, ∀ fault, reply.answer = .error fault →
    fault = .alreadyInstalled ∧ reply.demand ≠ .current
  once : replies.countP Reply.hasInstalled ≤ 1

namespace Consistent

theorem start : Consistent .unset [] where
  unset _ := rfl
  held _ hreply := absurd hreply List.not_mem_nil
  own _ hreply := absurd hreply List.not_mem_nil
  refused _ hreply := absurd hreply List.not_mem_nil
  once := Nat.zero_le 1

variable {cell : Installed Made} {replies : List Reply} {reply : Reply} {made : Made}

/-- The first answer brings the table that fills the cell. -/
theorem first (consistent : Consistent cell replies) (hcell : cell.held = none)
    (hanswer : reply.answer = .ok made)
    (hown : ∀ table, reply.demand = .install table → made.table = table) :
    Consistent ⟨some made⟩ (replies ++ [reply]) := by
  rw [consistent.unset hcell, List.nil_append]
  refine ⟨nofun, ?_, ?_, ?_, List.countP_le_length⟩
  · intro other hother own hown
    cases List.mem_singleton.1 hother
    rw [hanswer] at hown
    cases hown
    rfl
  · intro other hother table own hdemand hown'
    cases List.mem_singleton.1 hother
    rw [hanswer] at hown'
    cases hown'
    exact hown table hdemand
  · intro other hother fault hfault
    cases List.mem_singleton.1 hother
    rw [hanswer] at hfault
    cases hfault

/-- A later answer is the table in the cell, unless it refuses one to be installed. -/
theorem later (consistent : Consistent cell replies) (hcell : cell.held = some made)
    (hanswer : (reply.demand = .current ∧ reply.answer = .ok made) ∨
      ∃ table, reply.demand = .install table ∧ reply.answer = .error .alreadyInstalled) :
    Consistent cell (replies ++ [reply]) := by
  refine ⟨fun hnone => ?_, ?_, ?_, ?_, ?_⟩
  · rw [hcell] at hnone
    cases hnone
  · intro other hother own hown
    rcases List.mem_append.1 hother with hbefore | hnew
    · exact consistent.held other hbefore own hown
    · cases List.mem_singleton.1 hnew
      rcases hanswer with ⟨-, hok⟩ | ⟨table, -, herror⟩
      · rw [hok] at hown
        cases hown
        exact hcell
      · rw [herror] at hown
        cases hown
  · intro other hother table own hdemand hown
    rcases List.mem_append.1 hother with hbefore | hnew
    · exact consistent.own other hbefore table own hdemand hown
    · cases List.mem_singleton.1 hnew
      rcases hanswer with ⟨hcurrent, -⟩ | ⟨table, -, herror⟩
      · rw [hcurrent] at hdemand
        cases hdemand
      · rw [herror] at hown
        cases hown
  · intro other hother fault hfault
    rcases List.mem_append.1 hother with hbefore | hnew
    · exact consistent.refused other hbefore fault hfault
    · cases List.mem_singleton.1 hnew
      rcases hanswer with ⟨-, hok⟩ | ⟨table, hdemand, herror⟩
      · rw [hok] at hfault
        cases hfault
      · rw [herror] at hfault
        cases hfault
        exact ⟨rfl, fun hcurrent => Demand.noConfusion (hdemand.symm.trans hcurrent)⟩
  · have hnot : reply.hasInstalled = false := by
      rcases hanswer with ⟨hcurrent, -⟩ | ⟨table, hdemand, herror⟩
      · rw [Reply.hasInstalled, hcurrent]
      · rw [Reply.hasInstalled, hdemand, herror]
    rw [List.countP_append, List.countP_singleton, hnot]
    exact consistent.once

theorem acts {place : Nat} {demand : Demand} {missed : Bool} {answer : Except TableFault Made}
    {after : Installed Made} (consistent : Consistent cell replies)
    (acts : demand.Acts place missed cell (some answer) after) (i : Nat) :
    Consistent after (replies ++ [⟨i, demand, answer⟩]) := by
  cases acts with
  | installed hnone =>
      refine consistent.first hnone rfl fun table hdemand => ?_
      cases hdemand
      rfl
  | settled hnone =>
      exact consistent.first hnone rfl nofun
  | refused hheld =>
      exact consistent.later hheld (Or.inr ⟨_, rfl, rfl⟩)
  | found hheld =>
      exact consistent.later hheld (Or.inl ⟨rfl, rfl⟩)

end Consistent

namespace Process

variable {process : Process} {i : Nat}

theorem step_consistent (consistent : Consistent process.cell process.replies) (i : Nat) :
    Consistent (process.step i).cell (process.step i).replies := by
  rcases process.step_cases i with hsame | ⟨demand, rest, missed, answer, cell, acts, hstep⟩
  · rwa [hsame]
  · rw [hstep]
    cases answer with
    | some answer =>
        exact consistent.acts acts i
    | none =>
        -- only a request that finds the cell empty is not answered, and leaves it so
        cases acts with
        | missed _ =>
            exact consistent

theorem run_consistent (consistent : Consistent process.cell process.replies)
    (schedule : List Nat) :
    Consistent (process.run schedule).cell (process.run schedule).replies := by
  induction schedule generalizing process with
  | nil =>
      exact consistent
  | cons i rest ih =>
      exact ih (step_consistent consistent i)

/-- Whatever happens later, a cell that is filled stays as it is. -/
theorem cell_run {made : Made} (hheld : process.cell.held = some made) (schedule : List Nat) :
    (process.run schedule).cell = process.cell := by
  induction schedule generalizing process with
  | nil =>
      rfl
  | cons i rest ih =>
      have hstep := cell_step hheld i
      exact (ih (by rw [hstep]; exact hheld)).trans hstep

/-! ## Progress -/

theorem replies_step (process : Process) (i : Nat) :
    process.replies <+: (process.step i).replies := by
  rcases process.step_cases i with hsame | ⟨demand, rest, missed, answer, cell, -, hstep⟩
  · exact ⟨[], by rw [hsame, List.append_nil]⟩
  · rw [hstep]
    cases answer with
    | some answer =>
        exact List.prefix_append _ _
    | none =>
        exact List.prefix_rfl

theorem replies_run (process : Process) (schedule : List Nat) :
    process.replies <+: (process.run schedule).replies := by
  induction schedule generalizing process with
  | nil =>
      exact List.prefix_rfl
  | cons i rest ih =>
      exact (process.replies_step i).trans (ih (process.step i))

/-- No step changes what another thread is about to do. -/
theorem thread_step {j : Nat} (process : Process) (h : j ≠ i) :
    (process.step j).threads[i]? = process.threads[i]? := by
  rcases process.step_cases j with hsame | ⟨demand, rest, missed, answer, cell, -, hstep⟩
  · rw [hsame]
  · rw [hstep]
    cases answer <;> exact List.getElem?_set_ne h

theorem thread_run (process : Process) {schedule : List Nat} (h : i ∉ schedule) :
    (process.run schedule).threads[i]? = process.threads[i]? := by
  induction schedule generalizing process with
  | nil =>
      rfl
  | cons j rest ih =>
      obtain ⟨hne, hrest⟩ := not_or.1 (fun hmem => h (List.mem_cons.2 hmem))
      exact (ih (process.step j) hrest).trans (process.thread_step (Ne.symm hne))

/-- A request is answered in the first or the second step that its thread makes for it, whatever the
other threads do between the two. -/
theorem answered {demand : Demand} {rest : List Demand} {missed : Bool}
    (hthread : process.threads[i]? = some ⟨demand :: rest, missed⟩) {between : List Nat}
    (hbetween : i ∉ between) :
    ∃ answer, ⟨i, demand, answer⟩ ∈ (((process.step i).run between).step i).replies := by
  have hstep := step_of_thread hthread
  have hacts := demand.acts missed process.steps process.cell
  rcases hact : demand.act missed process.steps process.cell with ⟨answer, cell⟩
  rw [hact] at hstep hacts
  cases answer with
  | some answer =>
      have hmem : ⟨i, demand, answer⟩ ∈ (process.step i).replies := by
        rw [hstep]
        exact List.mem_append_right _ (List.mem_singleton_self _)
      exact ⟨answer, ((replies_run _ between).trans (replies_step _ i)).subset hmem⟩
  | none =>
      cases hacts
      -- the thread has missed the table, and still has when its turn comes again
      have hlen : i < process.threads.length := (List.getElem?_eq_some_iff.1 hthread).1
      have hagain : ((process.step i).run between).threads[i]? = some ⟨.current :: rest, true⟩ := by
        rw [thread_run _ hbetween, hstep]
        exact List.getElem?_set_self hlen
      let before := (process.step i).run between
      refine ⟨.ok (before.cell.settle ⟨before.steps, .embedded⟩).1, ?_⟩
      rw [step_of_thread hagain]
      exact List.mem_append_right _ (List.mem_singleton_self _)

/-- A request that is refused leaves the cell as it was. -/
theorem cell_of_refused {reply : Reply} (hgrown : (process.step i).replies = process.replies ++ [reply])
    (hrefused : reply.answer = .error .alreadyInstalled) :
    (process.step i).cell = process.cell := by
  rcases process.step_cases i with hsame | ⟨demand, rest, missed, answer, cell, acts, hstep⟩
  · rw [hsame]
  · rw [hstep] at hgrown ⊢
    cases answer with
    | some answer =>
        obtain rfl : ⟨i, demand, answer⟩ = reply := List.singleton_inj.1 (List.append_cancel_left hgrown)
        cases hrefused
        cases acts
        rfl
    | none =>
        cases acts
        rfl

/-! ## One table -/

/-- Whatever threads request in whatever order of their steps, they are all given one table. -/
theorem one_table (demands : List (List Demand)) (schedule : List Nat) :
    let process := (start demands).run schedule
    (∀ one ∈ process.replies, ∀ other ∈ process.replies, ∀ a b,
      one.answer = .ok a → other.answer = .ok b → a = b) ∧
    process.replies.countP Reply.hasInstalled ≤ 1 ∧
    -- a table that was installed is what all others get, before and after
    (∀ before reply after table made, process.replies = before ++ reply :: after →
      reply.demand = .install table → reply.answer = .ok made →
      made.table = table ∧ process.cell.held = some made ∧
      ∀ other ∈ before ++ after,
        (other.demand = .current → other.answer = .ok made) ∧
        ∀ refused, other.demand = .install refused → other.answer = .error .alreadyInstalled) ∧
    -- what the cell holds it keeps, so that a refusal leaves it as it was
    (∀ made later, process.cell.held = some made → (process.run later).cell = process.cell) ∧
    (∀ i reply, (process.step i).replies = process.replies ++ [reply] →
      reply.answer = .error .alreadyInstalled → (process.step i).cell = process.cell) ∧
    -- no request waits for another thread
    ∀ i demand rest missed between, process.threads[i]? = some ⟨demand :: rest, missed⟩ →
      i ∉ between →
      ∃ answer, ⟨i, demand, answer⟩ ∈ (((process.step i).run between).step i).replies := by
  intro process
  have consistent : Consistent process.cell process.replies :=
    run_consistent Consistent.start schedule
  refine ⟨?_, consistent.once, ?_, fun made later hheld => cell_run hheld later, ?_,
    fun i demand rest missed between hthread hbetween => answered hthread hbetween⟩
  · intro one hone other hother a b ha hb
    have hheld := consistent.held one hone a ha
    exact Option.some.inj (hheld.symm.trans (consistent.held other hother b hb))
  · intro before reply after table made hreplies hdemand hanswer
    have hmem : reply ∈ process.replies :=
      hreplies ▸ List.mem_append_right _ List.mem_cons_self
    have hheld := consistent.held reply hmem made hanswer
    refine ⟨consistent.own reply hmem table made hdemand hanswer, hheld, fun other hother => ?_⟩
    have hotherMem : other ∈ process.replies := by
      rw [hreplies]
      rcases List.mem_append.1 hother with hbefore | hafter
      · exact List.mem_append_left _ hbefore
      · exact List.mem_append_right _ (List.mem_cons_of_mem _ hafter)
    constructor
    · intro hcurrent
      cases hother' : other.answer with
      | ok own =>
          have hown := consistent.held other hotherMem own hother'
          exact congrArg Except.ok (Option.some.inj (hown.symm.trans hheld))
      | error fault =>
          exact absurd hcurrent (consistent.refused other hotherMem fault hother').2
    · intro refused hinstall
      cases hother' : other.answer with
      | ok own =>
          -- two tables would have been installed
          have hreply : reply.hasInstalled = true := by
            rw [Reply.hasInstalled, hdemand, hanswer]
          have hinstalled : other.hasInstalled = true := by
            rw [Reply.hasInstalled, hinstall, hother']
          have hpositive : 0 < (before ++ after).countP Reply.hasInstalled :=
            List.countP_pos_iff.2 ⟨other, hother, hinstalled⟩
          have honce := consistent.once
          rw [hreplies] at honce
          simp only [List.countP_append, List.countP_cons, hreply, if_true] at honce hpositive
          omega
      | error fault =>
          rw [(consistent.refused other hotherMem fault hother').1]
  · exact fun i reply hgrown hrefused => cell_of_refused hgrown hrefused

/-- A thread that has found the cell empty is given the table that another one installs meanwhile. -/
theorem late_request_gets_installed :
    let process := (start [[.current], [.install .empty]]).run [0, 1, 0]
    process.replies =
      [⟨1, .install .empty, .ok ⟨1, .empty⟩⟩, ⟨0, .current, .ok ⟨1, .empty⟩⟩] ∧
    ∀ later, (process.run later).cell.held = some ⟨1, .empty⟩ := by
  intro process
  obtain ⟨-, -, installed, stays, -, -⟩ := one_table [[.current], [.install .empty]] [0, 1, 0]
  obtain ⟨-, hheld, -⟩ := installed [] ⟨1, .install .empty, .ok ⟨1, .empty⟩⟩ _ .empty _ rfl rfl rfl
  refine ⟨rfl, fun later => ?_⟩
  rw [stays _ later hheld]
  exact hheld

end Process
end EventRules
