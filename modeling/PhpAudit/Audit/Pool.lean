import PhpAudit.Audit.Process

/-!
Files checked side by side. Every file is a task of its own: its size is asked for once, and then
its rules are run in their order, a unit at a time. A schedule names the task that takes the next
step, and all tasks share one run, so a schedule decides which trees the cache still holds, in which
order incidents are filed and which count belongs to which unit.

Where a schedule ends, the tasks are completed in the order of the files. Results are taken in this
order too: at the first task that has broken off the run fails, tasks that have not begun by then are
called off, and those that have begun come to their end.
-/

namespace PhpAudit

/-- How far a file has come. -/
inductive TaskStage where
  /-- Its size has not been asked for. -/
  | waiting
  /-- Begun at `start`; what has been found, and the rules that are left. -/
  | checking (start : Float) (isFirst : Bool) (found : List Finding) (rest : List Rule)
  /-- Its units are only counted, because the file is too large or has taken too long. -/
  | skipping (found : List Finding) (oversize : Bool) (rest : List Rule)
  | broken (f : Failure)

structure FileTask where
  path : String
  stage : TaskStage := .waiting

namespace FileTask

open Audit (FileResult)

/-- The next step of a task: the question for its size, the note that its time is used up, or one
unit. -/
def step (ws : Workspace) (listener : Option Listener) (rules : List Rule) (task : FileTask)
    (run : Run) : FileTask × Run :=
  match task.stage with
  | .waiting =>
      let limits := run.session.settings.limits
      if Audit.isUnsizable limits task.path then ({ task with stage := .broken .notPath }, run)
      else
        let size := ws.files.size task.path
        match Audit.exceededCeiling? limits size with
        | some ceiling =>
            ({ task with stage := .skipping [] true rules },
              run.file (Audit.oversizeReport task.path size ceiling run.session.clock))
        | none => ({ task with stage := .checking run.session.clock true [] rules }, run)
  | .checking start isFirst found (rule :: rest) =>
      let elapsed := run.session.clock - start
      if !isFirst && Audit.isOverdue run.session.settings.limits elapsed then
        ({ task with stage := .skipping found false (rule :: rest) },
          run.file (Audit.overdueReport task.path elapsed (rest.length + 1) run.session.clock))
      else
        match Audit.runUnit ws listener task.path rule run with
        | (.error f, run) => ({ task with stage := .broken f }, run)
        | (.ok new, run) => ({ task with stage := .checking start false (found ++ new) rest }, run)
  | .skipping found oversize (rule :: rest) =>
      match run.advance listener (Run.skippedMessage task.path rule) with
      | (.error f, run) => ({ task with stage := .broken f }, run)
      | (.ok (), run) => ({ task with stage := .skipping found oversize rest }, run)
  | .checking _ _ _ [] | .skipping _ _ [] | .broken _ => (task, run)

/-- Takes all the steps that are left. -/
def complete (ws : Workspace) (listener : Option Listener) (rules : List Rule) (task : FileTask)
    (run : Run) : Except Failure FileResult × Run :=
  match task.stage with
  | .waiting => Audit.processFile ws listener rules task.path run
  | .checking start isFirst found rest =>
      let (others, run) := Audit.runRules ws listener task.path start isFirst rest run
      ((fun others => ⟨found ++ others, false⟩) <$> others, run)
  | .skipping found oversize rest =>
      let (told, run) := run.skip listener task.path rest
      ((fun _ => ⟨found, oversize⟩) <$> told, run)
  | .broken f => (.error f, run)

def hasBegun (task : FileTask) : Bool :=
  match task.stage with
  | .waiting => false
  | _ => true

/-- Completes what has been begun, for nobody to see. -/
def completeBegun (ws : Workspace) (listener : Option Listener) (rules : List Rule) :
    List FileTask → Run → Run
  | [], run => run
  | task :: rest, run =>
      completeBegun ws listener rules rest
        (if task.hasBegun then (task.complete ws listener rules run).2 else run)

/-- Completes the tasks in order, up to one that breaks off. -/
def completeAll (ws : Workspace) (listener : Option Listener) (rules : List Rule) :
    List FileTask → Run → Except Failure (List FileResult) × Run
  | [], run => (.ok [], run)
  | task :: rest, run =>
      match task.complete ws listener rules run with
      | (.error f, run) => (.error f, completeBegun ws listener rules rest run)
      | (.ok result, run) =>
          let (others, run) := completeAll ws listener rules rest run
          ((result :: ·) <$> others, run)

end FileTask

/-- Files under way side by side, with the run they share. -/
structure Pool where
  tasks : List FileTask
  run : Run

namespace Pool

def start (paths : List String) (run : Run) : Pool := ⟨paths.map fun path => { path := path }, run⟩

/-- One task takes a step. -/
def step (ws : Workspace) (listener : Option Listener) (rules : List Rule) (pool : Pool) (i : Nat) :
    Pool :=
  match pool.tasks[i]? with
  | none => pool
  | some task =>
      let (task, run) := task.step ws listener rules pool.run
      ⟨pool.tasks.set i task, run⟩

def follow (ws : Workspace) (listener : Option Listener) (rules : List Rule) (schedule : List Nat)
    (pool : Pool) : Pool :=
  schedule.foldl (step ws listener rules) pool

end Pool

end PhpAudit
