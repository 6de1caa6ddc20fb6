import Mathlib.Data.List.Basic
import PhpAudit.Audit.Run
import PhpAudit.Proofs.Filings

/-!
A run as the steps of its tasks. Completing a task is taking its steps one by one until nothing is
left of it, so that the files of a run, side by side or one after another, are always a pool that
follows some schedule to its end. What holds of a whole run is therefore proved of one step.
-/

namespace PhpAudit

open Audit (FileResult)

/-- Whatever the listener fails with has a text. -/
def Listener.Tells (listener : Option Listener) : Prop :=
  ∀ listen ∈ listener, ∀ progress f, listen progress = some f → f.HasText

theorem Listener.tells_none : Tells none := by
  rintro _ ⟨⟩

/-- What counting a unit does to a run. -/
structure Run.Advances (listener : Option Listener) (message : String) (run : Run)
    (told : Except Failure Unit) (next : Run) : Prop where
  session : ∃ journal, next.session = { run.session with journal := journal }
  completed : next.completed = run.completed + 1
  total : next.total = run.total
  heard : listener ≠ none →
    next.heard = run.heard ++ [⟨run.completed + 1, run.total, message⟩]
  /-- Only a failure of the listener that has no text is passed on. -/
  untold : ∀ f, told = .error f → ∃ listen g, listener = some listen ∧
    listen ⟨run.completed + 1, run.total, message⟩ = some g ∧ g.text = .error f

theorem Run.advance_advances (listener : Option Listener) (message : String) (run : Run) :
    Advances listener message run (run.advance listener message).1
      (run.advance listener message).2 := by
  unfold advance
  cases listener with
  | none => exact ⟨⟨_, rfl⟩, rfl, rfl, fun h => absurd rfl h, (by rintro _ ⟨⟩)⟩
  | some listen =>
      dsimp only
      cases hlisten : listen ⟨run.completed + 1, run.total, message⟩ with
      | none => exact ⟨⟨_, rfl⟩, rfl, rfl, fun _ => rfl, (by rintro _ ⟨⟩)⟩
      | some g =>
          cases htext : g.text with
          | ok text =>
              simp only [Option.map_some, htext]
              exact ⟨⟨_, rfl⟩, rfl, rfl, fun _ => rfl, (by rintro _ ⟨⟩)⟩
          | error f =>
              simp only [Option.map_some, htext]
              refine ⟨⟨_, rfl⟩, rfl, rfl, fun _ => rfl, fun e he => ?_⟩
              cases he
              exact ⟨listen, g, rfl, hlisten, htext⟩

theorem Run.advances_of_eq {listener : Option Listener} {message : String} {run next : Run}
    {told : Except Failure Unit} (h : run.advance listener message = (told, next)) :
    Advances listener message run told next := by
  have hadvances := run.advance_advances listener message
  rwa [h] at hadvances

/-- A listener whose failures have texts hears every unit. -/
theorem Run.Advances.told_of_tells {listener : Option Listener} {message : String} {run next : Run}
    {told : Except Failure Unit} (h : Advances listener message run told next)
    (htells : Listener.Tells listener) : told = .ok () := by
  cases told with
  | ok => rfl
  | error f =>
      obtain ⟨listen, g, rfl, hlisten, htext⟩ := h.untold f rfl
      obtain ⟨text, hok⟩ := htells listen rfl _ g hlisten
      cases htext.symm.trans hok

/-- A unit ends with the check of the file or, after it, with the count. -/
theorem Audit.runUnit_cases (ws : Workspace) (listener : Option Listener) (path : String)
    (rule : Rule) (run : Run) :
    (∃ f session, runRule ws rule path run.session = (.error f, session) ∧
      runUnit ws listener path rule run = (.error f, { run with session := session })) ∨
    ∃ found session told next, runRule ws rule path run.session = (.ok found, session) ∧
      Run.Advances listener (Run.checkedMessage path rule) { run with session := session } told next ∧
      runUnit ws listener path rule run = ((fun _ => found) <$> told, next) := by
  unfold runUnit
  cases hrule : runRule ws rule path run.session with
  | mk result session =>
      cases result with
      | error f => exact Or.inl ⟨f, session, rfl, rfl⟩
      | ok found =>
          exact Or.inr ⟨found, session, _, _, rfl, Run.advance_advances listener _ _, rfl⟩

section

variable {ws : Workspace} {listener : Option Listener} {path : String} {rule : Rule}
  {run next : Run}

theorem Audit.of_runUnit_ok {found : List Finding}
    (h : runUnit ws listener path rule run = (.ok found, next)) :
    ∃ session, runRule ws rule path run.session = (.ok found, session) ∧
      Run.Advances listener (Run.checkedMessage path rule) { run with session := session } (.ok ())
        next := by
  rcases runUnit_cases ws listener path rule run with
    ⟨f, session, _, hfailed⟩ | ⟨new, session, told, last, hrule, hadvances, hcounted⟩
  · cases hfailed.symm.trans h
  · rw [hcounted] at h
    cases told with
    | error f => cases h
    | ok =>
        cases h
        exact ⟨session, hrule, hadvances⟩

/-- What breaks a unit off is the failure of its rule, or that of the listener after it. -/
theorem Audit.of_runUnit_error {f : Failure}
    (h : runUnit ws listener path rule run = (.error f, next)) :
    (∃ session, runRule ws rule path run.session = (.error f, session) ∧
      next = { run with session := session }) ∨
    ∃ found session, runRule ws rule path run.session = (.ok found, session) ∧
      Run.Advances listener (Run.checkedMessage path rule) { run with session := session }
        (.error f) next := by
  rcases runUnit_cases ws listener path rule run with
    ⟨g, session, hrule, hfailed⟩ | ⟨found, session, told, last, hrule, hadvances, hcounted⟩
  · rw [hfailed] at h
    cases h
    exact Or.inl ⟨session, hrule, rfl⟩
  · rw [hcounted] at h
    cases told with
    | ok => cases h
    | error g =>
        cases h
        exact Or.inr ⟨found, session, hrule, hadvances⟩

end

namespace FileTask

section

variable (ws : Workspace) (listener : Option Listener) (rules : List Rule)

/-- Nothing is left to do. -/
def isSettled (task : FileTask) : Bool :=
  match task.stage with
  | .waiting => false
  | .checking _ _ _ rest => rest.isEmpty
  | .skipping _ _ rest => rest.isEmpty
  | .broken _ => true

/-- All that a step can do to a task and to the run. -/
inductive Steps (path : String) : TaskStage → Run → TaskStage → Run → Prop where
  | unsizable {run : Run} (h : Audit.isUnsizable run.session.settings.limits path = true) :
      Steps path .waiting run (.broken .notPath) run
  | oversize {run : Run} {ceiling : Int}
      (hsizable : Audit.isUnsizable run.session.settings.limits path = false)
      (h : Audit.exceededCeiling? run.session.settings.limits (ws.files.size path) = some ceiling) :
      Steps path .waiting run (.skipping [] true rules)
        (run.file (Audit.oversizeReport path (ws.files.size path) ceiling run.session.clock))
  | begun {run : Run} (hsizable : Audit.isUnsizable run.session.settings.limits path = false)
      (h : Audit.exceededCeiling? run.session.settings.limits (ws.files.size path) = none) :
      Steps path .waiting run (.checking run.session.clock true [] rules) run
  | overdue {run : Run} {start : Float} {found : List Finding} {rule : Rule} {rest : List Rule}
      (h : Audit.isOverdue run.session.settings.limits (run.session.clock - start) = true) :
      Steps path (.checking start false found (rule :: rest)) run
        (.skipping found false (rule :: rest))
        (run.file (Audit.overdueReport path (run.session.clock - start) (rest.length + 1)
          run.session.clock))
  | checked {run next : Run} {start : Float} {isFirst : Bool} {found new : List Finding}
      {rule : Rule} {rest : List Rule}
      (htime : (!isFirst && Audit.isOverdue run.session.settings.limits
        (run.session.clock - start)) = false)
      (h : Audit.runUnit ws listener path rule run = (.ok new, next)) :
      Steps path (.checking start isFirst found (rule :: rest)) run
        (.checking start false (found ++ new) rest) next
  | failed {run next : Run} {start : Float} {isFirst : Bool} {found : List Finding} {rule : Rule}
      {rest : List Rule} {f : Failure}
      (htime : (!isFirst && Audit.isOverdue run.session.settings.limits
        (run.session.clock - start)) = false)
      (h : Audit.runUnit ws listener path rule run = (.error f, next)) :
      Steps path (.checking start isFirst found (rule :: rest)) run (.broken f) next
  | skipped {run next : Run} {found : List Finding} {oversize : Bool} {rule : Rule}
      {rest : List Rule}
      (h : run.advance listener (Run.skippedMessage path rule) = (.ok (), next)) :
      Steps path (.skipping found oversize (rule :: rest)) run (.skipping found oversize rest) next
  | unheard {run next : Run} {found : List Finding} {oversize : Bool} {rule : Rule}
      {rest : List Rule} {f : Failure}
      (h : run.advance listener (Run.skippedMessage path rule) = (.error f, next)) :
      Steps path (.skipping found oversize (rule :: rest)) run (.broken f) next
  | settled {stage : TaskStage} {run : Run} (h : FileTask.isSettled ⟨path, stage⟩ = true) :
      Steps path stage run stage run

/-- A task stays on its path and does one of these things. -/
theorem step_cases (task : FileTask) (run : Run) :
    ∃ stage next, task.step ws listener rules run = (⟨task.path, stage⟩, next) ∧
      Steps ws listener rules task.path task.stage run stage next := by
  obtain ⟨path, stage⟩ := task
  cases stage with
  | waiting =>
      simp only [step]
      cases hsizable : Audit.isUnsizable run.session.settings.limits path with
      | true => exact ⟨_, _, rfl, .unsizable hsizable⟩
      | false =>
          simp only [Bool.false_eq_true, if_false]
          cases hceiling : Audit.exceededCeiling? run.session.settings.limits
              (ws.files.size path) with
          | some ceiling => exact ⟨_, _, rfl, .oversize hsizable hceiling⟩
          | none => exact ⟨_, _, rfl, .begun hsizable hceiling⟩
  | checking start isFirst found rest =>
      cases rest with
      | nil => exact ⟨_, _, rfl, .settled rfl⟩
      | cons rule rest =>
          simp only [step]
          cases htime : !isFirst && Audit.isOverdue run.session.settings.limits
              (run.session.clock - start) with
          | true =>
              obtain ⟨hfirst, hoverdue⟩ := Bool.and_eq_true_iff.mp htime
              cases isFirst with
              | true => cases hfirst
              | false => exact ⟨_, _, rfl, .overdue hoverdue⟩
          | false =>
              simp only [Bool.false_eq_true, if_false]
              cases hunit : Audit.runUnit ws listener path rule run with
              | mk result next =>
                  cases result with
                  | error f => exact ⟨_, _, rfl, .failed htime hunit⟩
                  | ok new => exact ⟨_, _, rfl, .checked htime hunit⟩
  | skipping found oversize rest =>
      cases rest with
      | nil => exact ⟨_, _, rfl, .settled rfl⟩
      | cons rule rest =>
          simp only [step]
          cases htold : run.advance listener (Run.skippedMessage path rule) with
          | mk told next =>
              cases told with
              | error f => exact ⟨_, _, rfl, .unheard htold⟩
              | ok => exact ⟨_, _, rfl, .skipped htold⟩
  | broken f => exact ⟨_, _, rfl, .settled rfl⟩

end

variable {ws : Workspace} {listener : Option Listener} {rules : List Rule}

/-- Completing a task begins with its next step. -/
theorem Steps.complete {path : String} {stage later : TaskStage} {run next : Run}
    (h : Steps ws listener rules path stage run later next) :
    complete ws listener rules ⟨path, later⟩ next = complete ws listener rules ⟨path, stage⟩ run := by
  cases h with
  | unsizable h => simp [FileTask.complete, Audit.processFile, h]
  | oversize hsizable h =>
      simp only [FileTask.complete, Audit.processFile, hsizable, h]
      rfl
  | begun hsizable h => simp [FileTask.complete, Audit.processFile, hsizable, h]
  | overdue h => simp [FileTask.complete, Audit.runRules, h]
  | checked htime h =>
      simp only [FileTask.complete, Audit.runRules, htime, h, Bool.false_eq_true, if_false]
      cases Audit.runRules ws listener path _ false _ next with
      | mk others last => cases others <;> simp
  | failed htime h => simp [FileTask.complete, Audit.runRules, htime, h]
  | skipped h => simp [FileTask.complete, Run.skip, h]
  | unheard h => simp [FileTask.complete, Run.skip, h]
  | settled h => rfl

/-- What a task has come to so far. -/
def result (task : FileTask) : Except Failure FileResult :=
  match task.stage with
  | .waiting => .ok ⟨[], false⟩
  | .checking _ _ found _ => .ok ⟨found, false⟩
  | .skipping found oversize _ => .ok ⟨found, oversize⟩
  | .broken f => .error f

theorem complete_of_isSettled {task : FileTask} (h : task.isSettled = true) (run : Run) :
    task.complete ws listener rules run = (task.result, run) := by
  obtain ⟨path, stage⟩ := task
  cases stage with
  | waiting => cases h
  | checking start isFirst found rest =>
      cases List.isEmpty_iff.mp h
      simp [complete, result, Audit.runRules]
  | skipping found oversize rest =>
      cases List.isEmpty_iff.mp h
      simp [complete, result, Run.skip]
  | broken f => rfl

/-- The rules whose units are still to be counted. -/
def rulesLeft (rules : List Rule) (task : FileTask) : List Rule :=
  match task.stage with
  | .waiting => rules
  | .checking _ _ _ rest => rest
  | .skipping _ _ rest => rest
  | .broken _ => []

/-- A bound on the steps that a task still takes: one for its size, one for each unit, and one to
note that its time is used up. -/
def stepsLeft (rules : List Rule) (task : FileTask) : Nat :=
  match task.stage with
  | .waiting => rules.length + 2
  | .checking _ _ _ rest => if rest.isEmpty then 0 else rest.length + 1
  | .skipping _ _ rest => rest.length
  | .broken _ => 0

theorem isSettled_iff (rules : List Rule) (task : FileTask) :
    task.isSettled = true ↔ task.stepsLeft rules = 0 := by
  obtain ⟨path, stage⟩ := task
  cases stage with
  | waiting => simp [isSettled, stepsLeft]
  | checking start isFirst found rest => cases rest <;> simp [isSettled, stepsLeft]
  | skipping found oversize rest => simp [isSettled, stepsLeft]
  | broken f => simp [isSettled, stepsLeft]

theorem Steps.stepsLeft_le {path : String} {stage later : TaskStage} {run next : Run}
    (h : Steps ws listener rules path stage run later next) :
    stepsLeft rules ⟨path, later⟩ ≤ stepsLeft rules ⟨path, stage⟩ - 1 := by
  cases h with
  | settled h => simp [(isSettled_iff rules _).mp h]
  | checked => simp only [stepsLeft]; split <;> simp
  | begun => simp only [stepsLeft]; split <;> simp
  | _ => simp [stepsLeft]

/-- What holds of a settled task, and of a task if it holds of it one step later, holds of every task
that is completed. -/
theorem complete_induction (ws : Workspace) (listener : Option Listener) (rules : List Rule)
    {motive : FileTask → Run → Except Failure FileResult × Run → Prop}
    (settled : ∀ task run, task.isSettled = true → motive task run (task.result, run))
    (step : ∀ path stage run later next out, Steps ws listener rules path stage run later next →
      motive ⟨path, later⟩ next out → motive ⟨path, stage⟩ run out) (task : FileTask) (run : Run) :
    motive task run (task.complete ws listener rules run) := by
  have hall (n : Nat) : ∀ task run, task.stepsLeft rules ≤ n →
      motive task run (task.complete ws listener rules run) := by
    induction n with
    | zero =>
        intro task run h
        have hsettled := (isSettled_iff rules task).mpr (Nat.le_zero.mp h)
        rw [complete_of_isSettled hsettled run]
        exact settled task run hsettled
    | succ n ih =>
        intro task run h
        obtain ⟨stage, next, _, hsteps⟩ := task.step_cases ws listener rules run
        have hless := hsteps.stepsLeft_le
        have hlater := ih ⟨task.path, stage⟩ next (by
          have hsame : stepsLeft rules ⟨task.path, task.stage⟩ = task.stepsLeft rules := rfl
          omega)
        rw [hsteps.complete] at hlater
        exact step _ _ _ _ _ _ hsteps hlater
  exact hall _ task run (Nat.le_refl _)

/-- So many steps of a task in a row. -/
def advance (ws : Workspace) (listener : Option Listener) (rules : List Rule) :
    Nat → FileTask → Run → FileTask × Run
  | 0, task, run => (task, run)
  | n + 1, task, run =>
      advance ws listener rules n (task.step ws listener rules run).1
        (task.step ws listener rules run).2

/-- Enough steps in a row settle a task, and come to the same as completing it. -/
theorem advance_complete (ws : Workspace) (listener : Option Listener) (task : FileTask) (run : Run)
    {n : Nat} (h : task.stepsLeft rules ≤ n) :
    let last := advance ws listener rules n task run
    last.1.isSettled = true ∧ task.complete ws listener rules run = (last.1.result, last.2) := by
  induction n generalizing task run with
  | zero =>
      have hsettled := (isSettled_iff rules task).mpr (Nat.le_zero.mp h)
      exact ⟨hsettled, complete_of_isSettled hsettled run⟩
  | succ n ih =>
      obtain ⟨stage, next, hstep, hsteps⟩ := task.step_cases ws listener rules run
      have hleft := hsteps.stepsLeft_le
      have hrest := ih ⟨task.path, stage⟩ next (by
        have : stepsLeft rules ⟨task.path, task.stage⟩ = task.stepsLeft rules := rfl
        omega)
      rw [hsteps.complete] at hrest
      simp only [advance, hstep]
      exact hrest

end FileTask

namespace Pool

variable (ws : Workspace) (listener : Option Listener) (rules : List Rule)

/-- A step is one of some task, and no other task changes. -/
theorem step_cases (pool : Pool) (place : Nat) :
    pool.step ws listener rules place = pool ∨
      ∃ before task after stage next, pool.tasks = before ++ task :: after ∧
        pool.step ws listener rules place = ⟨before ++ ⟨task.path, stage⟩ :: after, next⟩ ∧
        FileTask.Steps ws listener rules task.path task.stage pool.run stage next := by
  unfold step
  cases hplace : pool.tasks[place]? with
  | none => exact Or.inl rfl
  | some task =>
      obtain ⟨hlt, htask⟩ := List.getElem?_eq_some_iff.mp hplace
      obtain ⟨stage, next, hstep, hsteps⟩ := task.step_cases ws listener rules pool.run
      refine Or.inr ⟨pool.tasks.take place, task, pool.tasks.drop (place + 1), stage, next, ?_, ?_,
        hsteps⟩
      · rw [← htask, List.getElem_cons_drop, List.take_append_drop]
      · dsimp only
        rw [hstep, List.set_eq_take_append_cons_drop, if_pos hlt]

/-- What every step preserves holds after a schedule if it held before. -/
theorem follow_induction {motive : Pool → Prop}
    (hstep : ∀ pool place, motive pool → motive (pool.step ws listener rules place))
    (schedule : List Nat) {pool : Pool} (h : motive pool) :
    motive (pool.follow ws listener rules schedule) := by
  induction schedule generalizing pool with
  | nil => exact h
  | cons place rest ih => exact ih (hstep pool place h)

/-- Some task has broken off. -/
def IsBroken (pool : Pool) : Prop := ∃ task ∈ pool.tasks, ∃ f, task.stage = .broken f

theorem IsBroken.step {pool : Pool} (h : pool.IsBroken) (place : Nat) :
    (pool.step ws listener rules place).IsBroken := by
  rcases pool.step_cases ws listener rules place with
    hsame | ⟨before, task, after, stage, next, htasks, hstep, hsteps⟩
  · rwa [hsame]
  · obtain ⟨other, hother, f, hbroken⟩ := h
    rw [htasks, List.mem_append, List.mem_cons] at hother
    rw [hstep]
    rcases hother with hbefore | rfl | hafter
    · exact ⟨other, by simp [hbefore], f, hbroken⟩
    · rw [hbroken] at hsteps
      cases hsteps
      exact ⟨⟨other.path, .broken f⟩, by simp, f, rfl⟩
    · exact ⟨other, by simp [hafter], f, hbroken⟩

/-- Tasks stay in the order of their files. -/
theorem paths_follow (schedule : List Nat) (pool : Pool) :
    (pool.follow ws listener rules schedule).tasks.map (·.path) = pool.tasks.map (·.path) := by
  refine follow_induction ws listener rules
    (motive := fun later => later.tasks.map (·.path) = pool.tasks.map (·.path)) ?_ schedule rfl
  intro later place h
  rcases later.step_cases ws listener rules place with
    hsame | ⟨before, task, after, stage, next, htasks, hstep, _⟩
  · rw [hsame, h]
  · rw [hstep, ← h, htasks]
    simp

/-- No task needs more steps after a schedule than before. -/
theorem stepsLeft_follow (schedule : List Nat) {pool : Pool} {most : Nat}
    (h : ∀ task ∈ pool.tasks, task.stepsLeft rules ≤ most) :
    ∀ task ∈ (pool.follow ws listener rules schedule).tasks, task.stepsLeft rules ≤ most := by
  refine follow_induction ws listener rules
    (motive := fun later => ∀ task ∈ later.tasks, task.stepsLeft rules ≤ most) ?_ schedule h
  intro later place h
  rcases later.step_cases ws listener rules place with
    hsame | ⟨before, task, after, stage, next, htasks, hstep, hsteps⟩
  · rwa [hsame]
  · rw [htasks, List.forall_mem_append, List.forall_mem_cons] at h
    rw [hstep, List.forall_mem_append, List.forall_mem_cons]
    have hless := Nat.le_trans hsteps.stepsLeft_le (Nat.sub_le _ _)
    exact ⟨h.1, Nat.le_trans hless h.2.1, h.2.2⟩

theorem step_place (before after : List FileTask) (task : FileTask) (run : Run) :
    step ws listener rules ⟨before ++ task :: after, run⟩ before.length =
      ⟨before ++ (task.step ws listener rules run).1 :: after,
        (task.step ws listener rules run).2⟩ := by
  simp [step]

theorem follow_replicate (before after : List FileTask) (n : Nat) (task : FileTask) (run : Run) :
    follow ws listener rules (List.replicate n before.length) ⟨before ++ task :: after, run⟩ =
      ⟨before ++ (task.advance ws listener rules n run).1 :: after,
        (task.advance ws listener rules n run).2⟩ := by
  induction n generalizing task run with
  | zero => rfl
  | succ n ih =>
      rw [List.replicate_succ, follow, List.foldl_cons, step_place ws]
      exact ih _ _

/-- The schedule that takes the files one after another, from a place on, each to its end. -/
def oneByOne (rules : List Rule) (place count : Nat) : List Nat :=
  (List.range' place count).flatMap fun place => List.replicate (rules.length + 2) place

theorem oneByOne_succ (rules : List Rule) (place count : Nat) :
    oneByOne rules place (count + 1) =
      List.replicate (rules.length + 2) place ++ oneByOne rules (place + 1) count := by
  simp [oneByOne, List.range'_succ]

/-- Completing tasks in order is following that schedule. It settles all of them, and as far as the
first that breaks off the results are the same; if none does, so is what becomes of the run. -/
theorem follow_oneByOne (before tasks : List FileTask) (run : Run)
    (hleft : ∀ task ∈ tasks, task.stepsLeft rules ≤ rules.length + 2) :
    ∃ settled last, follow ws listener rules (oneByOne rules before.length tasks.length)
        ⟨before ++ tasks, run⟩ = ⟨before ++ settled, last⟩ ∧
      (∀ task ∈ settled, task.isSettled = true) ∧
      (FileTask.completeAll ws listener rules tasks run).1 = settled.mapM FileTask.result ∧
      ∀ results, (FileTask.completeAll ws listener rules tasks run).1 = .ok results →
        (FileTask.completeAll ws listener rules tasks run).2 = last := by
  induction tasks generalizing before run with
  | nil => exact ⟨[], run, rfl, by simp, rfl, fun _ _ => rfl⟩
  | cons task rest ih =>
      let next := task.advance ws listener rules (rules.length + 2) run
      obtain ⟨hsettled, hcomplete⟩ :=
        task.advance_complete ws listener run (hleft task List.mem_cons_self)
      obtain ⟨settled, last, hfollow, hall, hresults, hrun⟩ := ih (before ++ [next.1]) next.2
        fun later hlater => hleft later (List.mem_cons_of_mem task hlater)
      refine ⟨next.1 :: settled, last, ?_, List.forall_mem_cons.mpr ⟨hsettled, hall⟩, ?_, ?_⟩
      · have hfirst := follow_replicate ws listener rules before rest (rules.length + 2) task run
        rw [List.length_cons, oneByOne_succ, follow, List.foldl_append]
        unfold follow at hfirst hfollow
        rw [hfirst]
        simpa using hfollow
      · rw [List.mapM_cons, ← hresults]
        simp only [FileTask.completeAll, hcomplete, next]
        cases (task.advance ws listener rules (rules.length + 2) run).1.result with
        | error f => rfl
        | ok result =>
            dsimp only
            cases (FileTask.completeAll ws listener rules rest
              (task.advance ws listener rules (rules.length + 2) run).2).1 <;> rfl
      · intro results hok
        simp only [FileTask.completeAll, hcomplete] at hok ⊢
        cases hresult : (task.advance ws listener rules (rules.length + 2) run).1.result with
        | error f =>
            rw [hresult] at hok
            cases hok
        | ok result =>
            rw [hresult] at hok
            cases hothers : (FileTask.completeAll ws listener rules rest next.2).1 with
            | error f =>
                simp only [next] at hothers
                simp only [hothers] at hok
                cases hok
            | ok others => exact hrun others hothers

end Pool

namespace Audit

/-- The steps of a whole run: those of the schedule if files are checked side by side, and then all
that are left, file by file. -/
def wholeSchedule (settings : EngineSettings) (rules : List Rule) (schedule : List Nat)
    (paths : List String) : List Nat :=
  (if isParallel settings paths then schedule else []) ++ Pool.oneByOne rules 0 paths.length

/-- Checking files is following one schedule until all tasks are settled. What the tasks have come to
are the results, and if none has broken off, the run is the one they share. -/
theorem processFiles_eq_follow (ws : Workspace) (listener : Option Listener) (rules : List Rule)
    (schedule : List Nat) (paths : List String) (run : Run) :
    let pool := (Pool.start paths run).follow ws listener rules
      (wholeSchedule run.session.settings rules schedule paths)
    let processed := processFiles ws listener rules schedule paths run
    (∀ task ∈ pool.tasks, task.isSettled = true) ∧
      processed.1 = pool.tasks.mapM FileTask.result ∧
      ∀ results, processed.1 = .ok results → processed.2 = pool.run := by
  intro pool processed
  let begun := (Pool.start paths run).follow ws listener rules
    (if isParallel run.session.settings paths then schedule else [])
  have hprocessed : processed = FileTask.completeAll ws listener rules begun.tasks begun.run := by
    simp only [processed, processFiles, begun]
    cases isParallel run.session.settings paths <;> rfl
  have hpaths := Pool.paths_follow ws listener rules
    (if isParallel run.session.settings paths then schedule else []) (Pool.start paths run)
  have hlength : begun.tasks.length = paths.length := by
    have hlengths := congrArg List.length hpaths
    rwa [List.length_map, List.length_map, Pool.start, List.length_map] at hlengths
  have hleft : ∀ task ∈ begun.tasks, task.stepsLeft rules ≤ rules.length + 2 := by
    apply Pool.stepsLeft_follow
    simp [Pool.start, FileTask.stepsLeft]
  obtain ⟨settled, last, hfollow, hall, hresults, hrun⟩ :=
    Pool.follow_oneByOne ws listener rules [] begun.tasks begun.run hleft
  have hpool : pool = ⟨settled, last⟩ := by
    rw [hlength] at hfollow
    rw [← List.nil_append settled, ← hfollow]
    exact List.foldl_append
  rw [hpool, hprocessed]
  exact ⟨hall, hresults, hrun⟩

end Audit

end PhpAudit
