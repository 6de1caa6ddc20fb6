import PhpAudit.Proofs.LoadFailures
import PhpAudit.Proofs.ReferenceRun

/-!
When a run fails. What is given in the place of files and is no list is refused before anything else
happens. Then rules may be left to load, and every file needs a text for its path. After that a run
is a sequence of steps, and it returns unless one of them is disturbed: by a text that is no path
where its size is asked for, or by a failure of a rule or of the listener that cannot be told. Any
other failure is absorbed, by an incident or by a line in the log.
-/

namespace PhpAudit

/-- What a listener fails with on hearing of a unit, if that cannot be noted. -/
def Listener.untold? (listener : Option Listener) (progress : Progress) : Option Failure :=
  listener.bind fun listen => (listen progress).bind fun f => Failure.of? f.text

theorem Listener.Tells.untold?_eq_none {listener : Option Listener} (h : Tells listener)
    (progress : Progress) : untold? listener progress = none := by
  cases listener with
  | none => rfl
  | some listen =>
      simp only [untold?, Option.bind_some]
      cases hlisten : listen progress with
      | none => rfl
      | some f =>
          exact (Failure.of?_eq_none_iff f.text).mpr (h listen rfl progress f hlisten)

theorem Run.of?_advance (listener : Option Listener) (message : String) (run : Run) :
    Failure.of? (run.advance listener message).1 =
      Listener.untold? listener ⟨run.completed + 1, run.total, message⟩ := by
  unfold advance Listener.untold?
  cases listener with
  | none => rfl
  | some listen =>
      simp only [Option.bind_some]
      cases listen ⟨run.completed + 1, run.total, message⟩ with
      | none => rfl
      | some f =>
          simp only [Option.map_some, Option.bind_some]
          cases f.text <;> rfl

theorem Run.Advances.settings {listener : Option Listener} {message : String}
    {told : Except Failure Unit} {run next : Run} (h : Advances listener message run told next) :
    next.session.settings = run.session.settings := by
  obtain ⟨journal, hsession⟩ := h.session
  rw [hsession]

theorem Session.of?_submit {α : Type} (s : Session) (report : Except Failure Report) (value : α) :
    Failure.of? (s.submit report value).1 = Failure.of? report := by
  cases report <;> rfl

namespace Audit

/-- What a rule fails with on a file, if that cannot be filed. -/
def untold? (ws : Workspace) (rule : Rule) (path : String) (s : Session) : Option Failure :=
  (Failure.of? (outcome ws rule path s).1).bind fun f => Failure.of? f.text

theorem of?_runRule (ws : Workspace) (rule : Rule) (path : String) (s : Session) :
    Failure.of? (runRule ws rule path s).1 = untold? ws rule path s := by
  rw [runRule_eq_outcome, untold?]
  cases outcome ws rule path s with
  | mk result t =>
      cases result with
      | ok findings => rfl
      | error f =>
          have hreport := (Report.tells_ruleProcessing (.text path) f (.text rule.typeName)
            "").of?_report t.clock
          have hneeds : [Need.text f, .value (.text path)].findSome? Need.obstacle? =
              Failure.of? f.text := by
            simp only [List.findSome?_cons, Need.obstacle?]
            cases f.text <;> rfl
          exact (t.of?_submit _ _).trans (hreport.trans hneeds)

theorem of?_runUnit (ws : Workspace) (listener : Option Listener) (path : String) (rule : Rule)
    (run : Run) :
    Failure.of? (runUnit ws listener path rule run).1 =
      (untold? ws rule path run.session).or
        (Listener.untold? listener ⟨run.completed + 1, run.total, Run.checkedMessage path rule⟩) := by
  rw [← of?_runRule, runUnit]
  cases runRule ws rule path run.session with
  | mk result session =>
      cases result with
      | error f => rfl
      | ok found =>
          rw [← Run.of?_advance listener _ { run with session := session }]
          exact Failure.of?_map _ _

theorem runUnit_settings (ws : Workspace) (listener : Option Listener) (path : String) (rule : Rule)
    (run : Run) : (runUnit ws listener path rule run).2.session.settings = run.session.settings := by
  have hrule := runRule_settings ws rule path run.session
  rcases runUnit_cases ws listener path rule run with
    ⟨f, session, hfailed, hrun⟩ | ⟨found, session, told, last, hfound, hadvances, hrun⟩
  · rw [hfailed] at hrule
    rw [hrun]
    exact hrule
  · rw [hfound] at hrule
    rw [hrun]
    exact hadvances.settings.trans hrule

end Audit

/-- What disturbs the next step of a task, if anything does. -/
def FileTask.trouble? (ws : Workspace) (listener : Option Listener) (task : FileTask) (run : Run) :
    Option Failure :=
  match task.stage with
  | .waiting =>
      if Audit.isUnsizable run.session.settings.limits task.path then some .notPath else none
  | .checking start isFirst _ (rule :: _) =>
      if !isFirst && Audit.isOverdue run.session.settings.limits (run.session.clock - start) then none
      else
        (Audit.untold? ws rule task.path run.session).or (Listener.untold? listener
          ⟨run.completed + 1, run.total, Run.checkedMessage task.path rule⟩)
  | .skipping _ _ (rule :: _) =>
      Listener.untold? listener
        ⟨run.completed + 1, run.total, Run.skippedMessage task.path rule⟩
  | .checking _ _ _ [] | .skipping _ _ [] | .broken _ => none

/-- Exactly such a step breaks a task off. -/
theorem FileTask.Steps.broken_iff {ws : Workspace} {listener : Option Listener} {rules : List Rule}
    {path : String} {stage later : TaskStage} {run next : Run}
    (h : Steps ws listener rules path stage run later next) :
    (∃ f, later = .broken f) ↔
      (∃ f, stage = .broken f) ∨ ∃ f, trouble? ws listener ⟨path, stage⟩ run = some f := by
  have hadvance (message : String) := run.of?_advance listener message
  cases h with
  | unsizable h => simp [trouble?, h]
  | oversize hsizable h => simp [trouble?, hsizable]
  | begun hsizable h => simp [trouble?, hsizable]
  | overdue h => simp [trouble?, h]
  | @checked _ _ _ _ _ _ rule _ htime h =>
      have hunit := Audit.of?_runUnit ws listener path rule run
      rw [h] at hunit
      simp [trouble?, htime, ← hunit, Failure.of?]
  | @failed _ _ _ _ _ rule _ f htime h =>
      have hunit := Audit.of?_runUnit ws listener path rule run
      rw [h] at hunit
      simp [trouble?, htime, ← hunit, Failure.of?]
  | @skipped _ _ _ _ rule _ h =>
      have htold := hadvance (Run.skippedMessage path rule)
      rw [h] at htold
      simp [trouble?, ← htold, Failure.of?]
  | @unheard _ _ _ _ rule _ f h =>
      have htold := hadvance (Run.skippedMessage path rule)
      rw [h] at htold
      simp [trouble?, ← htold, Failure.of?]
  | settled h =>
      have hquiet : trouble? ws listener ⟨path, stage⟩ run = none := by
        cases stage with
        | waiting => cases h
        | checking start isFirst found rest =>
            cases List.isEmpty_iff.mp h
            rfl
        | skipping found oversize rest =>
            cases List.isEmpty_iff.mp h
            rfl
        | broken f => rfl
      simp [hquiet]

theorem exists_mem_middle {α : Type} {P : α → Prop} {before after : List α} {x : α} :
    (∃ y ∈ before ++ x :: after, P y) ↔ P x ∨ ∃ y ∈ before ++ after, P y := by
  simp only [List.mem_append, List.mem_cons, or_and_right, exists_or, exists_eq_left]
  exact or_left_comm

namespace Pool

variable (ws : Workspace) (listener : Option Listener) (rules : List Rule)

theorem isBroken_step_iff (pool : Pool) (place : Nat) :
    (pool.step ws listener rules place).IsBroken ↔ pool.IsBroken ∨
      ∃ task f, pool.tasks[place]? = some task ∧
        task.trouble? ws listener pool.run = some f := by
  cases hplace : pool.tasks[place]? with
  | none => simp [step, hplace]
  | some task =>
      obtain ⟨hlt, htask⟩ := List.getElem?_eq_some_iff.mp hplace
      have htasks : pool.tasks = pool.tasks.take place ++ task :: pool.tasks.drop (place + 1) := by
        rw [← htask, List.getElem_cons_drop, List.take_append_drop]
      obtain ⟨stage, next, hstep, hsteps⟩ := task.step_cases ws listener rules pool.run
      have hafter : (pool.step ws listener rules place).tasks =
          pool.tasks.take place ++ ⟨task.path, stage⟩ :: pool.tasks.drop (place + 1) := by
        simp only [step, hplace, hstep]
        rw [List.set_eq_take_append_cons_drop, if_pos hlt]
      have hbroken := hsteps.broken_iff
      have hone : pool.IsBroken ↔ (∃ f, task.stage = .broken f) ∨
          ∃ other ∈ pool.tasks.take place ++ pool.tasks.drop (place + 1),
            ∃ f, other.stage = .broken f := by
        unfold IsBroken
        conv_lhs => rw [htasks]
        exact exists_mem_middle
      have hnow : (pool.step ws listener rules place).IsBroken ↔ (∃ f, stage = .broken f) ∨
          ∃ other ∈ pool.tasks.take place ++ pool.tasks.drop (place + 1),
            ∃ f, other.stage = .broken f := by
        unfold IsBroken
        rw [hafter]
        exact exists_mem_middle
      rw [hnow, hone, hsteps.broken_iff]
      simp only [Option.some.injEq, exists_and_left, exists_eq_left']
      exact or_right_comm

/-- A schedule is followed without trouble. -/
def Undisturbed (schedule : List Nat) (pool : Pool) : Prop :=
  ∀ before place after, schedule = before ++ place :: after → ∀ task,
    (pool.follow ws listener rules before).tasks[place]? = some task →
      task.trouble? ws listener (pool.follow ws listener rules before).run = none

theorem undisturbed_cons_iff (place : Nat) (rest : List Nat) (pool : Pool) :
    pool.Undisturbed ws listener rules (place :: rest) ↔
      (∀ task, pool.tasks[place]? = some task → task.trouble? ws listener pool.run = none) ∧
        (pool.step ws listener rules place).Undisturbed ws listener rules rest := by
  constructor
  · intro h
    refine ⟨h [] place rest rfl, fun before later after hrest => ?_⟩
    exact h (place :: before) later after (congrArg (place :: ·) hrest)
  · rintro ⟨hfirst, hrest⟩ before later after hschedule
    cases before with
    | nil =>
        cases hschedule
        exact hfirst
    | cons first before =>
        cases hschedule
        exact hrest before later after rfl

/-- No task breaks off exactly if none had and the schedule is followed without trouble. -/
theorem not_isBroken_follow_iff (schedule : List Nat) (pool : Pool) :
    ¬(pool.follow ws listener rules schedule).IsBroken ↔
      ¬pool.IsBroken ∧ pool.Undisturbed ws listener rules schedule := by
  induction schedule generalizing pool with
  | nil =>
      refine ⟨fun h => ⟨h, fun before place after hnil => ?_⟩, And.left⟩
      exact absurd hnil.symm (List.append_ne_nil_of_right_ne_nil before (List.cons_ne_nil place after))
  | cons place rest ih =>
      have hquiet : (¬∃ task f, pool.tasks[place]? = some task ∧
          task.trouble? ws listener pool.run = some f) ↔
            ∀ task, pool.tasks[place]? = some task → task.trouble? ws listener pool.run = none := by
        simp [Option.eq_none_iff_forall_ne_some]
      refine (ih (pool.step ws listener rules place)).trans ?_
      rw [isBroken_step_iff, undisturbed_cons_iff, not_or, hquiet, and_assoc]

end Pool

namespace Audit

variable (ws : Workspace) (listener : Option Listener)

/-- The results of files are there exactly if no step is disturbed. -/
theorem exists_processFiles_iff (rules : List Rule) (schedule : List Nat) (paths : List String)
    (run : Run) :
    (∃ results, (processFiles ws listener rules schedule paths run).1 = .ok results) ↔
      (Pool.start paths run).Undisturbed ws listener rules
        (wholeSchedule run.session.settings rules schedule paths) := by
  obtain ⟨_, hresults, _⟩ := processFiles_eq_follow ws listener rules schedule paths run
  have hstart : ¬(Pool.start paths run).IsBroken := by
    rintro ⟨task, htask, f, hbroken⟩
    obtain ⟨path, _, rfl⟩ := List.mem_map.mp htask
    cases hbroken
  have hresult (task : FileTask) :
      (∃ result, task.result = .ok result) ↔ ¬∃ f, task.stage = .broken f := by
    unfold FileTask.result
    cases task.stage <;> simp
  have hfollow := Pool.not_isBroken_follow_iff ws listener rules
    (wholeSchedule run.session.settings rules schedule paths) (Pool.start paths run)
  rw [and_iff_right hstart] at hfollow
  rw [hresults, exists_mapM_iff, ← hfollow]
  simp only [hresult, Pool.IsBroken, not_exists, not_and]

end Audit

namespace FileTask

variable {ws : Workspace} {listener : Option Listener} {rules : List Rule} {path : String}
  {stage later : TaskStage} {run next : Run}

theorem Steps.rulesLeft_subset (h : Steps ws listener rules path stage run later next) :
    rulesLeft rules ⟨path, later⟩ ⊆ rulesLeft rules ⟨path, stage⟩ := by
  cases h with
  | unsizable => exact List.nil_subset _
  | checked => exact List.subset_cons_self _ _
  | failed => exact List.nil_subset _
  | skipped => exact List.subset_cons_self _ _
  | unheard => exact List.nil_subset _
  | _ => exact List.Subset.refl _

/-- No step touches the settings. -/
theorem Steps.settings (h : Steps ws listener rules path stage run later next) :
    next.session.settings = run.session.settings := by
  have hunit (rule : Rule) := Audit.runUnit_settings ws listener path rule run
  cases h with
  | @checked _ _ _ _ _ _ rule _ _ h =>
      have hsettings := hunit rule
      rwa [h] at hsettings
  | @failed _ _ _ _ _ rule _ _ _ h =>
      have hsettings := hunit rule
      rwa [h] at hsettings
  | skipped h => exact (Run.advances_of_eq h).settings
  | unheard h => exact (Run.advances_of_eq h).settings
  | _ => rfl

end FileTask

namespace Pool

variable {ws : Workspace} {listener : Option Listener} {rules : List Rule} {paths : List String}
  {settings : EngineSettings} {pool : Pool}

/-- Tasks stay with their files and rules, and all of them with one set of settings. -/
structure Orderly (rules : List Rule) (paths : List String) (settings : EngineSettings)
    (pool : Pool) : Prop where
  settings : pool.run.session.settings = settings
  tasks : ∀ task ∈ pool.tasks, task.path ∈ paths ∧ task.rulesLeft rules ⊆ rules

theorem start_orderly (rules : List Rule) (paths : List String) (run : Run) :
    (start paths run).Orderly rules paths run.session.settings := by
  refine ⟨rfl, fun task htask => ?_⟩
  obtain ⟨path, hpath, rfl⟩ := List.mem_map.mp htask
  exact ⟨hpath, List.Subset.refl rules⟩

theorem Orderly.step (h : pool.Orderly rules paths settings) (place : Nat) :
    (pool.step ws listener rules place).Orderly rules paths settings := by
  rcases pool.step_cases ws listener rules place with
    hsame | ⟨before, task, after, stage, next, htasks, hstep, hsteps⟩
  · rwa [hsame]
  · have hall := h.tasks
    rw [htasks, List.forall_mem_append, List.forall_mem_cons] at hall
    obtain ⟨hbefore, ⟨hpath, hrules⟩, hafter⟩ := hall
    rw [hstep]
    refine ⟨hsteps.settings.trans h.settings, ?_⟩
    rw [List.forall_mem_append, List.forall_mem_cons]
    exact ⟨hbefore, ⟨hpath, List.Subset.trans hsteps.rulesLeft_subset hrules⟩, hafter⟩

/-- Nothing disturbs a run on paths that have sizes if all failures can be told. -/
theorem undisturbed_of_told {run : Run}
    (hsizable : ∀ path ∈ paths, Audit.isUnsizable run.session.settings.limits path = false)
    (hrules : ∀ rule ∈ rules, ∀ path ∈ paths, ∀ s, Audit.untold? ws rule path s = none)
    (htells : Listener.Tells listener) (schedule : List Nat) :
    (start paths run).Undisturbed ws listener rules schedule := by
  intro before place after _ task hplace
  obtain ⟨hsettings, htasks⟩ := follow_induction ws listener rules
    (fun _ place h => h.step place) before (start_orderly rules paths run)
  obtain ⟨hpath, hleft⟩ := htasks task (List.mem_of_getElem? hplace)
  have htold := htells.untold?_eq_none
  obtain ⟨path, stage⟩ := task
  cases stage with
  | waiting => simp [FileTask.trouble?, hsettings, hsizable path hpath]
  | checking start isFirst found rest =>
      cases rest with
      | nil => rfl
      | cons rule rest =>
          have huntold := hrules rule (hleft List.mem_cons_self) path hpath
          simp [FileTask.trouble?, huntold, htold]
  | skipping found oversize rest =>
      cases rest with
      | nil => rfl
      | cons rule rest => exact htold _
  | broken f => rfl

end Pool

namespace Audit

/-- What a run takes for files: a list, a tuple, or nothing, which stands for the audit's own. -/
inductive Lists (a : Audit) : Value → List Value → Prop where
  | own : a.Lists .null a.scanPaths
  | list (items : List Value) : a.Lists (.list items) items
  | tuple (items : List Value) : a.Lists (.tuple items) items

theorem pathsOf_eq_ok_iff (a : Audit) (files : Value) (values : List Value) :
    a.pathsOf files = .ok values ↔ a.Lists files values := by
  constructor
  · intro h
    cases files <;> cases h <;> constructor
  · rintro (_ | _ | _) <;> rfl

theorem pathsOf_error {a : Audit} {files : Value} {f : Failure} (h : a.pathsOf files = .error f) :
    f = .configuration ("Files must be a list of paths, got " ++ files.kindName) := by
  cases files <;> cases h <;> rfl

/-- Values are written as they are displayed, unless one of them cannot be. -/
theorem mapM_written (values : List Value) :
    values.mapM Value.written =
      Failure.barring (values.findSome? Value.unwritable?) (values.map Value.display) := by
  induction values with
  | nil => rfl
  | cons v rest ih =>
      rw [List.mapM_cons, ih, List.findSome?_cons, List.map_cons, Value.written]
      cases v.unwritable? with
      | some f => rfl
      | none => cases rest.findSome? Value.unwritable? <;> rfl

theorem mapM_written_of_forall {values : List Value} (h : ∀ v ∈ values, v.unwritable? = none) :
    values.mapM Value.written = .ok (values.map Value.display) := by
  rw [mapM_written, List.findSome?_eq_none_iff.mpr h, Failure.barring_none]

/-- Once rules are loaded and the paths are written, what is left are the steps of the run. -/
theorem exists_run_iff (ws : Workspace) (listener : Option Listener) (schedule : List Nat)
    {a ready : Audit} {files : Value} {values : List Value} {s begun : Session}
    {loaded : LoadedRules} (hlists : a.Lists files values)
    (hloaded : a.ensureLoaded s = (.ok loaded, ready, begun))
    (hwritten : ∀ v ∈ values, v.unwritable? = none) :
    let paths := firstOccurrences (values.map Value.display)
    (∃ outcome, (a.run ws listener schedule files s).1 = .ok outcome) ↔
      (Pool.start paths
        { session := begun, total := paths.length * loaded.rules.length }).Undisturbed ws listener
          loaded.rules (wholeSchedule s.settings loaded.rules schedule paths) := by
  intro paths
  have hsettings := (a.ensureLoaded_keeps s).1
  rw [hloaded] at hsettings
  rw [run_eq_scan listener schedule ((a.pathsOf_eq_ok_iff files values).mpr hlists) hloaded
      (mapM_written_of_forall hwritten),
    (scan_result ws listener schedule ready loaded _ begun).1, exists_ok_map_iff,
    exists_processFiles_iff, ← hsettings]

/-- When a run returns its findings. Files that are no list are a mistake of configuration, and leave
audit and session as they were. Listed files are checked if the rules can be loaded, every file has a
text for its path, and no step of the run is disturbed; the run fails in all other cases. No step is
disturbed if every path has a size, or sizes are not limited, and all that rules and the listener
fail with can be told. -/
theorem run_returns_iff (ws : Workspace) (listener : Option Listener) (schedule : List Nat)
    (a : Audit) (files : Value) (s : Session) (hvalid : ∀ c, a.criteria = some c → c.Valid) :
    ((¬∃ values, a.Lists files values) → a.run ws listener schedule files s =
      (.error (.configuration ("Files must be a list of paths, got " ++ files.kindName)), a, s)) ∧
    ∀ values, a.Lists files values →
      let paths := firstOccurrences (values.map Value.display)
      ((∃ outcome, (a.run ws listener schedule files s).1 = .ok outcome) ↔
        (a.loaded = none → a.Loadable) ∧ (∀ v ∈ values, v.unwritable? = none) ∧
          ∀ loaded ready begun, a.ensureLoaded s = (.ok loaded, ready, begun) →
            (Pool.start paths
              { session := begun, total := paths.length * loaded.rules.length }).Undisturbed ws
                listener loaded.rules (wholeSchedule s.settings loaded.rules schedule paths)) ∧
      ((a.loaded = none → a.Loadable) → (∀ v ∈ values, v.unwritable? = none) →
        (∀ path ∈ paths, isUnsizable s.settings.limits path = false) → Listener.Tells listener →
        (∀ loaded ready begun, a.ensureLoaded s = (.ok loaded, ready, begun) →
          ∀ rule ∈ loaded.rules, ∀ path ∈ paths, ∀ t, untold? ws rule path t = none) →
        ∃ outcome, (a.run ws listener schedule files s).1 = .ok outcome) := by
  constructor
  · intro hnot
    cases hfiles : a.pathsOf files with
    | ok values => exact absurd ⟨values, (a.pathsOf_eq_ok_iff files values).mp hfiles⟩ hnot
    | error f => simp only [run, hfiles, pathsOf_error hfiles]
  · intro values hlists paths
    have hfiles := (a.pathsOf_eq_ok_iff files values).mpr hlists
    have hloads := exists_ensureLoaded_iff hvalid s
    have hiff : (∃ outcome, (a.run ws listener schedule files s).1 = .ok outcome) ↔
        (a.loaded = none → a.Loadable) ∧ (∀ v ∈ values, v.unwritable? = none) ∧
          ∀ loaded ready begun, a.ensureLoaded s = (.ok loaded, ready, begun) →
            (Pool.start paths
              { session := begun, total := paths.length * loaded.rules.length }).Undisturbed ws
                listener loaded.rules (wholeSchedule s.settings loaded.rules schedule paths) := by
      rw [← hloads]
      cases hensured : a.ensureLoaded s with
      | mk result rest =>
          obtain ⟨ready, begun⟩ := rest
          cases result with
          | error f =>
              have hrun : (a.run ws listener schedule files s).1 = .error f := by
                simp only [run, hfiles, hensured]
              simp [hrun]
          | ok loaded =>
              cases hobstacle : values.findSome? Value.unwritable? with
              | some f =>
                  have hrun : (a.run ws listener schedule files s).1 = .error f := by
                    simp only [run, hfiles, hensured, mapM_written, hobstacle, Failure.barring_some]
                  rw [← List.findSome?_eq_none_iff, hobstacle]
                  simp [hrun]
              | none =>
                  have hwritten := List.findSome?_eq_none_iff.mp hobstacle
                  refine (exists_run_iff ws listener schedule hlists hensured hwritten).trans
                    ⟨?_, ?_⟩
                  · intro hundisturbed
                    refine ⟨⟨loaded, rfl⟩, hwritten, ?_⟩
                    rintro _ _ _ ⟨⟩
                    exact hundisturbed
                  · rintro ⟨_, _, hundisturbed⟩
                    exact hundisturbed loaded ready begun rfl
    refine ⟨hiff, fun hloadable hwritten hsizable htells hrules => ?_⟩
    refine hiff.mpr ⟨hloadable, hwritten, fun loaded ready begun hloaded => ?_⟩
    have hsettings := (a.ensureLoaded_keeps s).1
    rw [hloaded] at hsettings
    refine Pool.undisturbed_of_told ?_ (hrules loaded ready begun hloaded) htells _
    rw [hsettings]
    exact hsizable

/-- An audit of one rule whose severity is none. -/
def mislabelled : Audit where
  entries := [.rule { Rule.presence with severity := .text "bogus" }]
  criteria := some {}

theorem mislabelled_not_loadable : ¬mislabelled.Loadable := by
  intro hloadable
  refine hloadable.criteria _ rfl {} rfl { Rule.presence with severity := .text "bogus" }
    (List.mem_singleton_self _) (.undescribed ?_)
  rintro ⟨⟨text, htext, severity, hname⟩, _⟩
  cases htext
  have hread : Text.lower (Text.trim "bogus") = "bogus" := by decide +kernel
  rw [show (Value.text "bogus").display = "bogus" from rfl, hread] at hname
  cases severity <;> exact absurd hname (by decide)

/-- The same without criteria. -/
def unfiltered : Audit := { mislabelled with criteria := none }

theorem unfiltered_loadable : unfiltered.Loadable where
  defaults := by
    rintro ⟨⟩
  entries := by
    rintro _ ⟨⟩ entry hentry
    cases List.mem_singleton.mp hentry
    rfl
  criteria := by
    rintro _ ⟨⟩ c ⟨⟩

/-- Criteria that ask for nothing stop at such a rule, even where there is no file; without criteria
the run goes through. It does not if the path is a number of too many digits. -/
theorem mislabelled_run_fails :
    let wide : Value := .int (Nat.pow 10 Numeral.maxDecimalDigits)
    (¬∃ outcome, (mislabelled.run .cleanAndFaulty none [] (.list []) .cold).1 = .ok outcome) ∧
      (∃ outcome, (unfiltered.run .cleanAndFaulty none [] (.list []) .cold).1 = .ok outcome) ∧
      ¬∃ outcome, (unfiltered.run .cleanAndFaulty none [] (.list [wide]) .cold).1 =
        .ok outcome := by
  intro wide
  have hvalid : ∀ c, mislabelled.criteria = some c → c.Valid := by
    rintro _ ⟨⟩
    exact ⟨{}, rfl⟩
  have hunfiltered := run_returns_iff .cleanAndFaulty none [] unfiltered
  refine ⟨?_, ?_, ?_⟩
  · rw [((run_returns_iff .cleanAndFaulty none [] mislabelled (.list []) .cold hvalid).2 []
      (.list [])).1]
    exact fun h => mislabelled_not_loadable (h.1 rfl)
  · have hreturns := ((hunfiltered (.list []) .cold (by rintro _ ⟨⟩)).2 [] (.list [])).2
    exact hreturns (fun _ => unfiltered_loadable) (List.forall_mem_nil _) (List.forall_mem_nil _)
      Listener.tells_none fun _ _ _ _ _ _ => List.forall_mem_nil _
  · rw [((hunfiltered (.list [wide]) .cold (by rintro _ ⟨⟩)).2 [wide] (.list [wide])).1]
    rintro ⟨_, hwritten, _⟩
    have hfew := (Value.unwritable?_int_eq_none_iff _).mp (hwritten wide List.mem_cons_self)
    rw [Int.natAbs_natCast] at hfew
    exact Nat.lt_irrefl _ hfew

end Audit

end PhpAudit
