import Mathlib.Data.Finset.Card
import PhpAudit.Proofs.RunFailures
import PhpAudit.Proofs.Schedules
import PhpAudit.Proofs.TimeCeiling

/-!
Every pair of a file and a rule is counted exactly once, whether the rule is run on the file, the
file is too large or its time is up, and the listener hears of each count. A file is skipped exactly
if it is too large. What a run records about itself when it returns follows from this, in whatever
order the units are taken.
-/

namespace PhpAudit

open Audit (FileResult TooLarge isUnsizable untold?)

instance (limits : LimitSettings) (size : Nat) : Decidable (TooLarge limits size) :=
  decidable_of_iff ((Audit.exceededCeiling? limits size).isSome = true) (by
    rcases Audit.exceededCeiling?_cases limits size with ⟨hlarge, ceiling, h⟩ | ⟨hsmall, h⟩
    · simp [h, hlarge]
    · simp [h, hsmall])

namespace FileTask

variable {ws : Workspace} {listener : Option Listener} {rules : List Rule} {path : String}
  {stage later : TaskStage} {run next : Run}

/-- What the size of a file comes to: nothing but its own size has it skipped as too large, and a
text whose size cannot be asked for has the task broken off. -/
def Sized (ws : Workspace) (limits : LimitSettings) (task : FileTask) : Prop :=
  match task.stage with
  | .waiting => True
  | .checking .. => isUnsizable limits task.path = false ∧
      ¬TooLarge limits (ws.files.size task.path)
  | .skipping _ oversize _ => isUnsizable limits task.path = false ∧
      oversize = decide (TooLarge limits (ws.files.size task.path))
  | .broken f => isUnsizable limits task.path = true → f = .notPath

theorem Steps.sized (h : Steps ws listener rules path stage run later next)
    (hsized : Sized ws run.session.settings.limits ⟨path, stage⟩) :
    Sized ws run.session.settings.limits ⟨path, later⟩ := by
  have hceiling := Audit.exceededCeiling?_cases run.session.settings.limits (ws.files.size path)
  cases h with
  | unsizable => exact fun _ => rfl
  | oversize hsizable hlarge =>
      rcases hceiling with ⟨htooLarge, _⟩ | ⟨_, hnone⟩
      · exact ⟨hsizable, (decide_eq_true htooLarge).symm⟩
      · cases hlarge.symm.trans hnone
  | begun hsizable hsmall =>
      rcases hceiling with ⟨_, ceiling, hsome⟩ | ⟨hnot, _⟩
      · cases hsmall.symm.trans hsome
      · exact ⟨hsizable, hnot⟩
  | overdue => exact ⟨hsized.1, (decide_eq_false hsized.2).symm⟩
  | checked => exact hsized
  | failed => exact fun hunsizable => absurd (hsized.1.symm.trans hunsizable) Bool.false_ne_true
  | skipped => exact hsized
  | unheard => exact fun hunsizable => absurd (hsized.1.symm.trans hunsizable) Bool.false_ne_true
  | settled => exact hsized

/-- If all failures can be told, only the question for a size breaks a task off. -/
theorem Steps.broken_notPath (h : Steps ws listener rules path stage run later next)
    (htells : Listener.Tells listener)
    (htold : ∀ rule ∈ rulesLeft rules ⟨path, stage⟩, ∀ s, untold? ws rule path s = none)
    (hbefore : ∀ f, stage = .broken f → f = .notPath) :
    ∀ f, later = .broken f → f = .notPath := by
  have hquiet (f : Failure) (htrouble : trouble? ws listener ⟨path, stage⟩ run = some f) :
      stage = .waiting := by
    have hheard := htells.untold?_eq_none
    cases stage with
    | waiting => rfl
    | checking start isFirst found rest =>
        cases rest with
        | nil => cases htrouble
        | cons rule rest =>
            simp [trouble?, htold rule List.mem_cons_self, hheard] at htrouble
    | skipping found oversize rest =>
        cases rest with
        | nil => cases htrouble
        | cons rule rest => simp [trouble?, hheard] at htrouble
    | broken g => cases htrouble
  intro f hbroken
  rcases h.broken_iff.mp ⟨f, hbroken⟩ with ⟨g, rfl⟩ | ⟨g, htrouble⟩
  · cases h
    cases hbroken
    exact hbefore f rfl
  · cases hquiet g htrouble
    cases h with
    | unsizable =>
        cases hbroken
        rfl
    | oversize => cases hbroken
    | begun => cases hbroken
    | settled hsettled => cases hsettled

end FileTask

namespace Pool

variable {ws : Workspace} {listener : Option Listener} {rules : List Rule} {paths : List String}
  {settings : EngineSettings} {pool : Pool}

/-- What every step of a task preserves holds of all tasks after a schedule. -/
theorem forall_tasks_follow (ws : Workspace) (listener : Option Listener) {P : FileTask → Prop}
    (hsteps : ∀ path stage run later next, FileTask.Steps ws listener rules path stage run later next →
      run.session.settings = settings → path ∈ paths → FileTask.rulesLeft rules ⟨path, stage⟩ ⊆ rules →
        P ⟨path, stage⟩ → P ⟨path, later⟩)
    (schedule : List Nat) (horderly : pool.Orderly rules paths settings)
    (h : ∀ task ∈ pool.tasks, P task) :
    ∀ task ∈ (pool.follow ws listener rules schedule).tasks, P task := by
  refine (follow_induction ws listener rules (motive := fun later =>
    later.Orderly rules paths settings ∧ ∀ task ∈ later.tasks, P task) ?_ schedule
    ⟨horderly, h⟩).2
  rintro later place ⟨horderly, hall⟩
  refine ⟨horderly.step place, ?_⟩
  rcases later.step_cases ws listener rules place with
    hsame | ⟨before, task, after, stage, next, htasks, hstep, htaken⟩
  · rwa [hsame]
  · obtain ⟨hpath, hleft⟩ := horderly.tasks task (by rw [htasks]; simp)
    rw [htasks, List.forall_mem_append, List.forall_mem_cons] at hall
    rw [hstep, List.forall_mem_append, List.forall_mem_cons]
    exact ⟨hall.1, hsteps _ _ _ _ _ htaken horderly.settings hpath hleft hall.2.1, hall.2.2⟩

end Pool

/-- What a list of computations fails with, one of them fails with. -/
theorem exists_of_mapM_error {α β : Type} {f : α → Except Failure β} {xs : List α} {e : Failure}
    (h : xs.mapM f = .error e) : ∃ x ∈ xs, f x = .error e := by
  induction xs with
  | nil => cases h
  | cons x rest ih =>
      rw [List.mapM_cons] at h
      cases hfirst : f x with
      | error g =>
          rw [hfirst] at h
          cases h
          exact ⟨x, List.mem_cons_self, hfirst⟩
      | ok y =>
          rw [hfirst] at h
          cases hrest : rest.mapM f with
          | ok ys =>
              simp only [hrest] at h
              cases h
          | error g =>
              simp only [hrest] at h
              cases h
              obtain ⟨other, hother, hfails⟩ := ih hrest
              exact ⟨other, List.mem_cons_of_mem x hother, hfails⟩

theorem countP_of_mapM {α β : Type} {f : α → Except Failure β} {p : α → Bool} {q : β → Bool}
    {xs : List α} {ys : List β} (h : xs.mapM f = .ok ys)
    (hsame : ∀ x ∈ xs, ∀ y, f x = .ok y → q y = p x) : ys.countP q = xs.countP p := by
  induction xs generalizing ys with
  | nil =>
      cases h
      rfl
  | cons x rest ih =>
      rw [List.mapM_cons] at h
      obtain ⟨y, hy, h⟩ := exists_ok_of_bind h
      obtain ⟨others, hothers, h⟩ := exists_ok_of_bind h
      cases h
      obtain ⟨hfirst, hrest⟩ := List.forall_mem_cons.mp hsame
      rw [List.countP_cons, List.countP_cons, ih hothers hrest, hfirst y hy]

/-- What is filed of a file that is too large is the failure to keep the ceiling. -/
theorem Audit.ofFailure_oversize (path : String) (size : Nat) (ceiling : Int) (now : Float) :
    Report.ofFailure (.text path) (.resourceLimit (oversizeText size ceiling)) "" (.text "") now =
      .ok (oversizeReport path size ceiling now) := rfl

namespace Audit

variable {ws : Workspace} {listener : Option Listener} {rules : List Rule} {paths : List String}
  {run : Run}

/-- The tasks of a whole run, which are settled, and as sized as their files. -/
theorem sized_follow (schedule : List Nat) :
    ∀ task ∈ ((Pool.start paths run).follow ws listener rules
        (wholeSchedule run.session.settings rules schedule paths)).tasks,
      task.isSettled = true ∧ task.Sized ws run.session.settings.limits := by
  have hsized := Pool.forall_tasks_follow ws listener
    (P := FileTask.Sized ws run.session.settings.limits) (fun path stage run' later next hsteps
      hsettings _ _ hsized => by
        rw [← hsettings] at hsized ⊢
        exact hsteps.sized hsized)
    (wholeSchedule run.session.settings rules schedule paths) (Pool.start_orderly rules paths run)
    (by simp [Pool.start, FileTask.Sized])
  intro task htask
  exact ⟨(processFiles_eq_follow ws listener rules schedule paths run).1 task htask,
    hsized task htask⟩

/-- A text whose size cannot be asked for breaks the run off. -/
theorem processFiles_of_unsizable {path : String} (hpath : path ∈ paths)
    (hunsizable : isUnsizable run.session.settings.limits path = true) (schedule : List Nat) :
    ¬∃ results, (processFiles ws listener rules schedule paths run).1 = .ok results := by
  obtain ⟨_, hresults, _⟩ := processFiles_eq_follow ws listener rules schedule paths run
  have hpaths := Pool.paths_follow ws listener rules
    (wholeSchedule run.session.settings rules schedule paths) (Pool.start paths run)
  have hmem : path ∈ (Pool.start paths run).tasks.map (·.path) := by
    simpa [Pool.start, Function.comp_def] using hpath
  rw [← hpaths] at hmem
  obtain ⟨task, htask, rfl⟩ := List.mem_map.mp hmem
  obtain ⟨hsettled, hsized⟩ := sized_follow schedule task htask
  rw [hresults, exists_mapM_iff]
  intro hall
  obtain ⟨result, hresult⟩ := hall task htask
  obtain ⟨path, stage⟩ := task
  cases stage with
  | waiting => cases hsettled
  | checking => exact absurd (hsized.1.symm.trans hunsizable) Bool.false_ne_true
  | skipping => exact absurd (hsized.1.symm.trans hunsizable) Bool.false_ne_true
  | broken f => cases hresult

/-- If all failures can be told, nothing else does. -/
theorem processFiles_error_of_told (htells : Listener.Tells listener)
    (htold : ∀ rule ∈ rules, ∀ path ∈ paths, ∀ s, untold? ws rule path s = none)
    (schedule : List Nat) {f : Failure}
    (h : (processFiles ws listener rules schedule paths run).1 = .error f) : f = .notPath := by
  obtain ⟨_, hresults, _⟩ := processFiles_eq_follow ws listener rules schedule paths run
  rw [hresults] at h
  obtain ⟨task, htask, hfails⟩ := exists_of_mapM_error h
  have hbroken := Pool.forall_tasks_follow ws listener
    (P := fun task => ∀ f, task.stage = .broken f → f = .notPath)
    (fun path stage run' later next hsteps _ hpath hleft => hsteps.broken_notPath htells
      fun rule hrule => htold rule (hleft hrule) path hpath)
    (wholeSchedule run.session.settings rules schedule paths) (Pool.start_orderly rules paths run)
    (by simp [Pool.start]) task htask
  apply hbroken
  unfold FileTask.result at hfails
  split at hfails
  · cases hfails
  · cases hfails
  · cases hfails
  · next g hstage =>
      cases hfails
      exact hstage

/-- A file is skipped exactly if it is too large. -/
theorem countP_skipped {schedule : List Nat} {results : List FileResult}
    (h : (processFiles ws listener rules schedule paths run).1 = .ok results) :
    results.countP (·.skipped) = paths.countP fun path =>
      decide (TooLarge run.session.settings.limits (ws.files.size path)) := by
  obtain ⟨_, hresults, _⟩ := processFiles_eq_follow ws listener rules schedule paths run
  have hpaths := Pool.paths_follow ws listener rules
    (wholeSchedule run.session.settings rules schedule paths) (Pool.start paths run)
  have hstart : (Pool.start paths run).tasks.map (·.path) = paths := by
    simp [Pool.start, Function.comp_def]
  rw [hstart] at hpaths
  rw [hresults] at h
  refine (countP_of_mapM h (p := fun task => decide (TooLarge run.session.settings.limits
    (ws.files.size task.path))) ?_).trans ?_
  · intro task htask result hresult
    obtain ⟨hsettled, hsized⟩ := sized_follow schedule task htask
    obtain ⟨path, stage⟩ := task
    cases stage with
    | waiting => cases hsettled
    | checking =>
        cases hresult
        exact (decide_eq_false hsized.2).symm
    | skipping =>
        cases hresult
        exact hsized.2
    | broken f => cases hresult
  · conv_rhs => rw [← hpaths]
    rw [List.countP_map]
    rfl

theorem statistics_of_lastRun {a : Audit} {record : RunRecord} (h : a.lastRun = some record) :
    Mapping.get? a.statistics "units_processed" = some (.int record.unitsProcessed) ∧
      Mapping.get? a.statistics "files_scanned" = some (.int record.filesScanned) ∧
      Mapping.get? a.statistics "files_skipped" = some (.int record.filesSkipped) ∧
      Mapping.get? a.statistics "total_violations" = some (.int record.totalFindings) := by
  simp only [statistics, h]
  exact ⟨rfl, rfl, rfl, rfl⟩

theorem nodup_firstOccurrences (paths : List String) : (firstOccurrences paths).Nodup := by
  rw [firstOccurrences_eq_dedup, List.nodup_reverse]
  exact List.nodup_dedup _

theorem toFinset_firstOccurrences (paths : List String) :
    (firstOccurrences paths).toFinset = paths.toFinset := by
  ext path
  simp [firstOccurrences_eq_dedup]

/-- Counting first occurrences is counting different paths. -/
theorem countP_firstOccurrences (paths : List String) (P : String → Prop) [DecidablePred P] :
    ((firstOccurrences paths).countP fun path => decide (P path)) =
      (paths.toFinset.filter P).card := by
  rw [← toFinset_firstOccurrences, List.countP_eq_length_filter,
    ← List.toFinset_card_of_nodup ((nodup_firstOccurrences paths).filter _), List.toFinset_filter]
  simp

theorem length_firstOccurrences (paths : List String) :
    (firstOccurrences paths).length = paths.toFinset.card := by
  rw [← toFinset_firstOccurrences, List.toFinset_card_of_nodup (nodup_firstOccurrences paths)]

/-- What a scan that returns has told its listener, and the figures it leaves. -/
theorem scan_counts {schedule : List Nat} {a : Audit} {loaded : LoadedRules} {s : Session}
    {outcome : Outcome} (h : (a.scan ws listener schedule loaded paths s).1 = .ok outcome) :
    let units := paths.length * loaded.rules.length
    (listener ≠ none → outcome.heard.map (fun p => (p.completed, p.total)) =
      (List.range' 1 units).map fun count => (count, units)) ∧
    ∃ record, (a.scan ws listener schedule loaded paths s).2.1.lastRun = some record ∧
      record.unitsProcessed = units ∧ record.filesScanned = paths.length ∧
      record.filesSkipped =
        (paths.countP fun path => decide (TooLarge s.settings.limits (ws.files.size path))) ∧
      record.totalFindings = outcome.findings.length := by
  intro units
  simp only [scan] at h ⊢
  cases hout : processFiles ws listener loaded.rules schedule paths
      { session := s, total := paths.length * loaded.rules.length } with
  | mk results last =>
      rw [hout] at h
      cases results with
      | error f => cases h
      | ok results =>
          cases h
          obtain ⟨hcompleted, htotal, htold⟩ := processFiles_counts listener schedule hout
          refine ⟨fun hlistener => ?_, _, rfl, hcompleted, rfl,
            countP_skipped (congrArg Prod.fst hout), rfl⟩
          have hcounts := htold hlistener
          rwa [Run.Told, hcompleted, htotal] at hcounts

/-- Every unit is counted exactly once. A listener hears 1, 2 and so on up to the number of different
paths times the number of rules, with that product as the total each time. The run records the
product, the number of paths, how many of them are too large, and how many findings it gives. This
holds of every run that returns, whatever the order of its units. A run returns if every path can be
written, each of them has a size or sizes are not limited, and all that rules and the listener fail
with can be told; a text that is no path breaks it off where sizes are limited. -/
theorem every_unit_counted_once (ws : Workspace) (listener : Option Listener) (schedule : List Nat)
    (a : Audit) (files : Value) {ready : Audit} {s begun : Session} {values : List Value}
    {loaded : LoadedRules} (hfiles : a.pathsOf files = .ok values)
    (hloaded : a.ensureLoaded s = (.ok loaded, ready, begun)) :
    let limits := s.settings.limits
    let paths := (values.map Value.display).toFinset
    let units := paths.card * loaded.rules.length
    let tooLarge := paths.filter fun path => TooLarge limits (ws.files.size path)
    let result := a.run ws listener schedule files s
    ((∃ path ∈ paths, isUnsizable limits path = true) ∨ (∃ v ∈ values, v.unwritable? ≠ none) →
      ¬∃ outcome, result.1 = .ok outcome) ∧
    ((∀ v ∈ values, v.unwritable? = none) → Listener.Tells listener →
      (∀ rule ∈ loaded.rules, ∀ path ∈ paths, ∀ t, untold? ws rule path t = none) →
        ((∃ path ∈ paths, isUnsizable limits path = true) → result.1 = .error .notPath) ∧
        ((∀ path ∈ paths, isUnsizable limits path = false) → ∃ outcome, result.1 = .ok outcome)) ∧
    ∀ outcome, result.1 = .ok outcome →
      (listener ≠ none → outcome.heard.map (fun p => (p.completed, p.total)) =
        (List.range' 1 units).map fun count => (count, units)) ∧
      Mapping.get? result.2.1.statistics "units_processed" = some (.int units) ∧
      Mapping.get? result.2.1.statistics "files_scanned" = some (.int paths.card) ∧
      Mapping.get? result.2.1.statistics "files_skipped" = some (.int tooLarge.card) ∧
      Mapping.get? result.2.1.statistics "total_violations" =
        some (.int outcome.findings.length) := by
  intro limits paths units tooLarge result
  cases hobstacle : values.findSome? Value.unwritable? with
  | some f =>
      have hresult : result.1 = .error f := by
        simp only [result, run, hfiles, hloaded, mapM_written, hobstacle, Failure.barring_some]
      rw [hresult]
      refine ⟨fun _ => (by rintro ⟨_, ⟨⟩⟩), fun hwritten => ?_, (by rintro _ ⟨⟩)⟩
      cases hobstacle.symm.trans (List.findSome?_eq_none_iff.mpr hwritten)
  | none =>
      have hwritten := List.findSome?_eq_none_iff.mp hobstacle
      have hresult : result = _ :=
        run_eq_scan listener schedule hfiles hloaded (mapM_written_of_forall hwritten)
      have hsettings := (a.ensureLoaded_keeps s).1
      rw [hloaded] at hsettings
      have hscan := (scan_result ws listener schedule ready loaded
        (firstOccurrences (values.map Value.display)) begun).1
      have hmem (path : String) :
          path ∈ firstOccurrences (values.map Value.display) ↔ path ∈ paths := by
        rw [← List.mem_toFinset, toFinset_firstOccurrences]
      have hunsizable : (∃ path ∈ paths, isUnsizable limits path = true) →
          ¬∃ outcome, result.1 = .ok outcome := by
        rintro ⟨path, hpath, hunsizable⟩
        rw [hresult, hscan, exists_ok_map_iff]
        refine processFiles_of_unsizable ((hmem path).mpr hpath) ?_ schedule
        exact (congrArg (isUnsizable ·.limits path) hsettings).trans hunsizable
      refine ⟨?_, ?_, ?_⟩
      · rintro (hsome | ⟨v, hv, hsome⟩)
        · exact hunsizable hsome
        · exact absurd (hwritten v hv) hsome
      · intro _ htells htold
        constructor
        · intro hsome
          cases hfailed : result.1 with
          | ok outcome => exact absurd ⟨outcome, hfailed⟩ (hunsizable hsome)
          | error f =>
              have hfails : Failure.of? result.1 = some f := by rw [hfailed]; rfl
              rw [hresult, hscan, Failure.of?_map, Failure.of?_eq_some_iff] at hfails
              rw [processFiles_error_of_told htells (fun rule hrule path hpath =>
                htold rule hrule path ((hmem path).mp hpath)) schedule hfails]
        · intro hsizable
          rw [hresult, hscan, exists_ok_map_iff, exists_processFiles_iff]
          refine Pool.undisturbed_of_told ?_ (fun rule hrule path hpath =>
            htold rule hrule path ((hmem path).mp hpath)) htells _
          intro path hpath
          exact (congrArg (isUnsizable ·.limits path) hsettings).trans
            (hsizable path ((hmem path).mp hpath))
      · intro outcome houtcome
        rw [hresult] at houtcome ⊢
        obtain ⟨hheard, record, hrecord, hunits, hscanned, hskipped, hfindings⟩ :=
          scan_counts houtcome
        rw [length_firstOccurrences] at hheard hunits hscanned
        rw [countP_firstOccurrences, hsettings] at hskipped
        have hfigures := statistics_of_lastRun hrecord
        rw [hunits, hscanned, hskipped, hfindings] at hfigures
        exact ⟨hheard, hfigures⟩

/-- An audit whose first rule uses up the time of any file. -/
def slowFirst : Audit := { loaded := some ⟨[dawdling, .presence], 0, 0⟩ }

/-- A session that allows a file one byte and one second. -/
def strictSession : Session :=
  { Session.cold with
    settings := { limits := { maxFileBytes := some 1, maxFileSeconds := some 1 } } }

/-- A file that is too large, named twice, and one whose time is up after the first rule are two
files and four units, though the listener fails each time. A text that is no path breaks the run
off. -/
theorem strict_run_counts_four :
    let deaf : Option Listener := some fun _ => some (.wrongValue "deaf")
    (∃ outcome after ended,
      slowFirst.run .opening deaf [] (.texts ["a.php", "gone.php", "a.php"]) strictSession =
        (.ok outcome, after, ended) ∧
      outcome.heard.map (fun p => (p.completed, p.total)) = [(1, 4), (2, 4), (3, 4), (4, 4)] ∧
      Mapping.get? after.statistics "units_processed" = some (.int 4) ∧
      Mapping.get? after.statistics "files_scanned" = some (.int 2) ∧
      Mapping.get? after.statistics "files_skipped" = some (.int 1)) ∧
    (slowFirst.run .opening deaf [] (.texts ["a.php", "a\x00b.php"]) strictSession).1 =
      .error .notPath := by
  intro deaf
  have hloaded : slowFirst.ensureLoaded strictSession =
      (.ok ⟨[dawdling, .presence], 0, 0⟩, slowFirst, strictSession) := rfl
  have htells : Listener.Tells deaf := by
    rintro listen hlisten progress f hf
    obtain rfl : (fun _ => some (.wrongValue "deaf")) = listen := Option.some.inj hlisten
    cases hf
    exact ⟨"deaf", rfl⟩
  have htold : ∀ rule ∈ [dawdling, .presence], ∀ path t, untold? .opening rule path t = none := by
    simp only [List.forall_mem_cons, List.not_mem_nil, false_imp_iff, implies_true, and_true]
    exact ⟨untold?_dawdling _, untold?_presence _⟩
  constructor
  · obtain ⟨_, hreturns, hcounted⟩ := every_unit_counted_once .opening deaf [] slowFirst
      (.texts ["a.php", "gone.php", "a.php"]) rfl hloaded
    obtain ⟨outcome, houtcome⟩ := (hreturns (by decide) htells
      fun rule hrule path _ => htold rule hrule path).2 (by decide)
    obtain ⟨hheard, hunits, hscanned, hskipped, _⟩ := hcounted outcome houtcome
    exact ⟨outcome, _, _, Prod.ext houtcome rfl, hheard (Option.some_ne_none _), hunits, hscanned,
      hskipped⟩
  · obtain ⟨_, hreturns, _⟩ := every_unit_counted_once .opening deaf [] slowFirst
      (.texts ["a.php", "a\x00b.php"]) rfl hloaded
    exact (hreturns (by decide) htells fun rule hrule path _ => htold rule hrule path).1 (by decide)

end Audit

end PhpAudit
