import PhpAudit.Proofs.ReferenceRun

/-!
Files checked side by side or one after another. A schedule decides which trees the cache still
holds, in which order incidents are filed and which count belongs to which unit. What a run returns
does not depend on it, since with any number of workers it is what the reference gives; and the
counts that a listener hears are the same ones in the same order.
-/

namespace PhpAudit

namespace Run

/-- The counts a listener has heard are all the counts there were, each with the same total. -/
def Told (run : Run) : Prop :=
  run.heard.map (fun p => (p.completed, p.total)) =
    (List.range' 1 run.completed).map fun count => (count, run.total)

/-- Counting a unit tells the listener the next count. -/
theorem Advances.told_counts {listener : Option Listener} {message : String} {run next : Run}
    {told : Except Failure Unit} (h : Advances listener message run told next)
    (hlistener : listener ≠ none) (htold : run.Told) : next.Told := by
  unfold Told at htold ⊢
  rw [h.heard hlistener, h.completed, h.total, List.range'_1_concat, List.map_append,
    List.map_append, htold]
  simp [Nat.add_comm]

end Run

namespace FileTask

variable {ws : Workspace} {listener : Option Listener} {rules : List Rule}

/-- Units that are still to be counted. -/
def unitsLeft (rules : List Rule) (task : FileTask) : Nat := (task.rulesLeft rules).length

theorem unitsLeft_of_isSettled (rules : List Rule) {task : FileTask} (h : task.isSettled = true) :
    task.unitsLeft rules = 0 := by
  obtain ⟨path, stage⟩ := task
  cases stage with
  | waiting => cases h
  | checking start isFirst found rest => exact List.length_eq_zero_iff.mpr (List.isEmpty_iff.mp h)
  | skipping found oversize rest => exact List.length_eq_zero_iff.mpr (List.isEmpty_iff.mp h)
  | broken f => rfl

/-- A step counts the units it takes, unless it breaks off, and a listener hears of each. -/
theorem Steps.counts {path : String} {stage later : TaskStage} {run next : Run}
    (h : Steps ws listener rules path stage run later next) :
    next.total = run.total ∧ (listener ≠ none → run.Told → next.Told) ∧
      (next.completed + unitsLeft rules ⟨path, later⟩ =
        run.completed + unitsLeft rules ⟨path, stage⟩ ∨ ∃ f, later = .broken f) := by
  cases h with
  | unsizable => exact ⟨rfl, fun _ => id, Or.inr ⟨_, rfl⟩⟩
  | oversize => exact ⟨rfl, fun _ => id, Or.inl rfl⟩
  | begun => exact ⟨rfl, fun _ => id, Or.inl rfl⟩
  | overdue => exact ⟨rfl, fun _ => id, Or.inl rfl⟩
  | checked _ hunit =>
      obtain ⟨session, _, hadvances⟩ := Audit.of_runUnit_ok hunit
      refine ⟨hadvances.total, hadvances.told_counts, Or.inl ?_⟩
      rw [hadvances.completed]
      simp only [unitsLeft, rulesLeft, List.length_cons]
      omega
  | failed _ hunit =>
      rcases Audit.of_runUnit_error hunit with ⟨session, _, rfl⟩ | ⟨_, session, _, hadvances⟩
      · exact ⟨rfl, fun _ => id, Or.inr ⟨_, rfl⟩⟩
      · exact ⟨hadvances.total, hadvances.told_counts, Or.inr ⟨_, rfl⟩⟩
  | skipped htold =>
      have hadvances := Run.advances_of_eq htold
      refine ⟨hadvances.total, hadvances.told_counts, Or.inl ?_⟩
      rw [hadvances.completed]
      simp only [unitsLeft, rulesLeft, List.length_cons]
      omega
  | unheard htold =>
      have hadvances := Run.advances_of_eq htold
      exact ⟨hadvances.total, hadvances.told_counts, Or.inr ⟨_, rfl⟩⟩
  | settled => exact ⟨rfl, fun _ => id, Or.inl rfl⟩

end FileTask

namespace Pool

variable {ws : Workspace} {listener : Option Listener} {rules : List Rule} {pool : Pool}
  {units : Nat}

/-- What has been counted in a pool and what is left make up the given number of units. -/
structure Counts (listener : Option Listener) (rules : List Rule) (units : Nat) (pool : Pool) :
    Prop where
  counted : pool.run.completed + (pool.tasks.map (·.unitsLeft rules)).sum = units ∨ pool.IsBroken
  total : pool.run.total = units
  told : listener ≠ none → pool.run.Told

theorem Counts.step (h : Counts listener rules units pool) (place : Nat) :
    Counts listener rules units (pool.step ws listener rules place) := by
  rcases pool.step_cases ws listener rules place with
    hsame | ⟨before, task, after, stage, next, htasks, hstep, hsteps⟩
  · rwa [hsame]
  · have hbreaks : pool.IsBroken → (pool.step ws listener rules place).IsBroken :=
      fun hbroken => hbroken.step ws listener rules place
    obtain ⟨htotal, htold, hunits⟩ := hsteps.counts
    rw [hstep] at hbreaks ⊢
    refine ⟨?_, htotal.trans h.total, fun hlistener => htold hlistener (h.told hlistener)⟩
    rcases h.counted with hcounted | hbroken
    · rcases hunits with hunits | ⟨f, hbroken⟩
      · left
        rw [htasks] at hcounted
        rw [← hcounted]
        simp only [List.map_append, List.map_cons, List.sum_append, List.sum_cons]
        have hsame : FileTask.unitsLeft rules ⟨task.path, task.stage⟩ = task.unitsLeft rules := rfl
        omega
      · exact Or.inr ⟨⟨task.path, stage⟩, by simp, f, hbroken⟩
    · exact Or.inr (hbreaks hbroken)

end Pool

namespace Audit

variable {ws : Workspace} {known : Set Bytes}

/-- All units of files that have been checked are counted, and the listener has heard of each. -/
theorem processFiles_counts (listener : Option Listener) {rules : List Rule} (schedule : List Nat)
    {paths : List String} {s : Session} {results : List FileResult} {last : Run}
    (h : processFiles ws listener rules schedule paths
      { session := s, total := paths.length * rules.length } = (.ok results, last)) :
    last.completed = paths.length * rules.length ∧ last.total = paths.length * rules.length ∧
      (listener ≠ none → last.Told) := by
  let run : Run := { session := s, total := paths.length * rules.length }
  obtain ⟨hsettled, hresults, hlast⟩ :=
    processFiles_eq_follow ws listener rules schedule paths run
  rw [h] at hresults hlast
  have hcounts : ((Pool.start paths run).follow ws listener rules
      (wholeSchedule run.session.settings rules schedule paths)).Counts listener rules
        (paths.length * rules.length) := by
    refine Pool.follow_induction ws listener rules (fun _ place h => h.step place) _ ?_
    refine ⟨Or.inl ?_, rfl, fun _ => rfl⟩
    simp [Pool.start, FileTask.unitsLeft, FileTask.rulesLeft, Function.comp_def, run]
  have hend : last = _ := hlast results rfl
  rw [hend]
  refine ⟨?_, hcounts.total, hcounts.told⟩
  rcases hcounts.counted with hcounted | ⟨task, htask, f, hbroken⟩
  · rw [← hcounted, Nat.left_eq_add]
    apply List.sum_eq_zero_iff_forall_eq_nat.mpr
    intro left hleft
    obtain ⟨task, htask, rfl⟩ := List.mem_map.mp hleft
    exact task.unitsLeft_of_isSettled rules (hsettled task htask)
  · obtain ⟨result, hresult⟩ := (exists_mapM_iff _ _).mp ⟨_, hresults.symm⟩ task htask
    simp only [FileTask.result, hbroken] at hresult
    cases hresult

end Audit

/-- The same session with another number of workers. -/
def Session.withWorkers (s : Session) (count : Int) : Session :=
  { s with settings := { s.settings with maxWorkers := count } }

namespace Audit

variable {ws : Workspace} {known : Set Bytes}

/-- Rules are loaded without a thought for workers. -/
theorem buildEntries_withWorkers (a : Audit) (entries : List Entry) (s : Session) (count : Int) :
    a.buildEntries entries (s.withWorkers count) =
      ((a.buildEntries entries s).1, (a.buildEntries entries s).2.withWorkers count) := by
  induction entries generalizing s with
  | nil => rfl
  | cons entry rest ih =>
      simp only [buildEntries]
      cases a.buildEntry entry with
      | ok rule => simp only [ih]
      | error f =>
          have hclock : (s.withWorkers count).clock = s.clock := rfl
          simp only [hclock, Session.submit]
          cases entryReport entry f s.clock with
          | error g => rfl
          | ok r =>
              have hfiled : (s.withWorkers count).file r = (s.file r).withWorkers count := rfl
              simp only [hfiled, ih]

theorem gather_withWorkers (a : Audit) (entries : List Entry) (s : Session) (count : Int) :
    a.gather entries (s.withWorkers count) =
      ((a.gather entries s).1, (a.gather entries s).2.withWorkers count) := by
  simp only [gather, buildEntries_withWorkers]

theorem ensureLoaded_withWorkers (a : Audit) (s : Session) (count : Int) :
    a.ensureLoaded (s.withWorkers count) = ((a.ensureLoaded s).1, (a.ensureLoaded s).2.1,
      (a.ensureLoaded s).2.2.withWorkers count) := by
  unfold ensureLoaded
  cases a.loaded with
  | some loaded => rfl
  | none =>
      let loading : Audit := { a with state := .loading }
      have hlogged (lines : List LogLine) :
          (s.withWorkers count).logAll lines = (s.logAll lines).withWorkers count := rfl
      simp only [load, hlogged, gather_withWorkers]
      cases loading.effectiveEntries.1 with
      | error f => rfl
      | ok entries =>
          dsimp only
          cases loading.gather entries (s.logAll loading.effectiveEntries.2) with
          | mk result t => cases result <;> rfl

theorem dedup_of_nodup {paths : List String} (h : paths.Nodup) :
    paths.reverse.dedup.reverse = paths := by
  rw [(List.nodup_reverse.mpr h).dedup, List.reverse_reverse]

/-- A run on distinct files has counted each unit when it returns. -/
theorem run_counts (listener : Option Listener) (schedule : List Nat) {a ready : Audit}
    {paths : List String} {s begun : Session} {loaded : LoadedRules} {outcome : Outcome}
    (hdistinct : paths.Nodup) (hloaded : a.ensureLoaded s = (.ok loaded, ready, begun))
    (h : (a.run ws listener schedule (.texts paths) s).1 = .ok outcome)
    (hlistener : listener ≠ none) :
    outcome.heard.map (fun p => (p.completed, p.total)) =
      (List.range' 1 (paths.length * loaded.rules.length)).map
        fun count => (count, paths.length * loaded.rules.length) := by
  rw [run_eq_scan listener schedule rfl hloaded (mapM_map Value.written_text paths),
    firstOccurrences_eq_dedup, dedup_of_nodup hdistinct,
    (scan_result ws listener schedule _ loaded paths _).1] at h
  cases hout : processFiles ws listener loaded.rules schedule paths
      { session := begun, total := paths.length * loaded.rules.length } with
  | mk results last =>
      rw [hout] at h
      cases results with
      | error f => cases h
      | ok results =>
          cases h
          obtain ⟨hcompleted, htotal, htold⟩ := processFiles_counts listener schedule hout
          have hcounts := htold hlistener
          rwa [Run.Told, hcompleted, htotal] at hcounts

/-- With several workers or with one, the result is the same. For files without repetition and every
schedule of their units a run gives the findings of the run with one worker, or fails with the same
failure; it files the same incidents up to time and order; and a listener hears the counts from one
to the number of units, in this order. A run returns exactly if the reference does for each file: a
text whose size cannot be asked for breaks it off, and so does a failure that cannot be told. A
listener may break off any run by a failure without a text, but runs that return agree. -/
theorem any_schedule_eq_serial (listener : Option Listener) (a : Audit) (paths : List String)
    (schedule : List Nat) {ready : Audit} {s begun : Session} {loaded : LoadedRules}
    (hdistinct : paths.Nodup)
    (hloaded : a.ensureLoaded s = (.ok loaded, ready, begun))
    (htime : s.settings.limits.maxFileSeconds = none)
    (hsound : s.cache.Sound ws.grammar known) (hdigest : Set.InjOn Sha256.hexDigest known)
    (hreads : ws.ReadsFrom paths known) :
    let parallel := a.run ws listener schedule (.texts paths) s
    let serial := a.run ws listener [] (.texts paths) (s.withWorkers 1)
    let units := paths.length * loaded.rules.length
    (Listener.Tells listener → (·.findings) <$> parallel.1 = (·.findings) <$> serial.1 ∧
      ((∃ outcome, parallel.1 = .ok outcome) ↔ ∀ path ∈ paths, ∃ found,
        (referenceFile ws s.settings.limits loaded.rules path).result = .ok found)) ∧
    ∀ outcome, parallel.1 = .ok outcome →
      (listener ≠ none → outcome.heard.map (fun p => (p.completed, p.total)) =
        (List.range' 1 units).map fun count => (count, units)) ∧
      ∀ alone, serial.1 = .ok alone → outcome.findings = alone.findings ∧
        ∃ filed others, parallel.2.2.incidents = filed.foldl IncidentLog.add begun.incidents ∧
          serial.2.2.incidents = others.foldl IncidentLog.add begun.incidents ∧
          (Incident.timeless filed).Perm (Incident.timeless others) := by
  intro parallel serial units
  have hserial : a.ensureLoaded (s.withWorkers 1) = (.ok loaded, ready, begun.withWorkers 1) := by
    rw [ensureLoaded_withWorkers, hloaded]
  obtain ⟨htold, hreturned⟩ := run_eq_reference listener schedule a (.texts paths) rfl hloaded
    (mapM_map Value.written_text paths) htime hsound hdigest hreads
  obtain ⟨htoldAlone, hreturnedAlone⟩ := run_eq_reference listener [] a (.texts paths) rfl hserial
    (mapM_map Value.written_text paths) htime hsound hdigest hreads
  rw [dedup_of_nodup hdistinct] at htold hreturned htoldAlone hreturnedAlone
  constructor
  · intro htells
    refine ⟨(htold htells).trans (htoldAlone htells).symm, ?_⟩
    have hreference := Verdict.exists_result_inTurn_iff
      (paths.map (referenceFile ws s.settings.limits loaded.rules))
    rw [List.forall_mem_map] at hreference
    rw [← hreference, ← exists_ok_map_iff (·.findings)]
    simp only [parallel, htold htells, referenceRun]
  · intro outcome houtcome
    obtain ⟨hfound, incidents, ⟨filed, hfiled, htimeless⟩, hperm, _⟩ := hreturned outcome houtcome
    refine ⟨run_counts listener schedule hdistinct hloaded houtcome, ?_⟩
    intro alone halone
    obtain ⟨hfoundAlone, ordered, ⟨others, hothers, hsame⟩, hpermAlone, _⟩ :=
      hreturnedAlone alone halone
    refine ⟨Except.ok.inj (hfound.symm.trans hfoundAlone), filed, others, hfiled, hothers, ?_⟩
    rw [htimeless, hsame]
    exact Incident.timeless_perm (hperm.trans hpermAlone.symm)

/-- Two files of which one has a fault, taken in turns by two workers, and a text that is no path
beside a file. -/
theorem alternating_schedule_eq_serial :
    let pair := Session.cold.withWorkers 2
    let listener : Option Listener := some fun _ => none
    (∃ outcome alone,
      (presenceOnly.run .cleanAndFaulty listener [1, 0, 0, 1]
        (.texts ["faulty.php", "clean.php"]) pair).1 = .ok outcome ∧
      (presenceOnly.run .cleanAndFaulty listener []
        (.texts ["faulty.php", "clean.php"]) (pair.withWorkers 1)).1 = .ok alone ∧
      outcome.findings = alone.findings ∧
      outcome.heard.map (fun p => (p.completed, p.total)) = [(1, 2), (2, 2)]) ∧
    ∀ outcome, (presenceOnly.run .cleanAndFaulty listener [1, 0, 0, 1]
      (.texts ["clean.php", "a\x00b.php"]) pair).1 ≠ .ok outcome := by
  intro pair listener
  have htells : Listener.Tells listener := by
    rintro listen hlisten progress f hf
    obtain rfl : (fun _ => none) = listen := Option.some.inj hlisten
    cases hf
  constructor
  · obtain ⟨hagree, hreturned⟩ := presenceOnly.any_schedule_eq_serial listener
      ["faulty.php", "clean.php"] [1, 0, 0, 1] (s := pair) (by decide) rfl rfl Session.cold_sound
      Sha256.injOn_hexDigest_pair (Workspace.cleanAndFaulty_readsFrom (by decide))
    obtain ⟨hsame, hreturns⟩ := hagree htells
    obtain ⟨finding, incident, _, hclean, hfaulty⟩ := Rule.presence_reference
    have hverdicts : ∀ path ∈ ["faulty.php", "clean.php"], ∃ found,
        (referenceFile .cleanAndFaulty pair.settings.limits [.presence] path).result =
          .ok found := by
      have hunskipped : ["faulty.php", "clean.php"].map
          (referenceFile .cleanAndFaulty pair.settings.limits [.presence]) =
            ["faulty.php", "clean.php"].map
              fun path => .inTurn [Rule.presence.reference .cleanAndFaulty path] := rfl
      rw [← List.forall_mem_map (P := fun v : Verdict => ∃ found, v.result = .ok found), hunskipped]
      simp [hclean, hfaulty, Verdict.inTurn, Verdict.andThen]
    obtain ⟨outcome, houtcome⟩ := hreturns.mpr hverdicts
    obtain ⟨alone, halone⟩ := (exists_ok_map_iff Outcome.findings).mp
      ⟨outcome.findings, by rw [← hsame, houtcome]; rfl⟩
    obtain ⟨hheard, hfound⟩ := hreturned outcome houtcome
    exact ⟨outcome, alone, houtcome, halone, (hfound alone halone).1, hheard (by simp [listener])⟩
  · intro outcome houtcome
    have hreturns := ((presenceOnly.any_schedule_eq_serial listener
      ["clean.php", "a\x00b.php"] [1, 0, 0, 1] (s := pair) (by decide) rfl rfl Session.cold_sound
      Sha256.injOn_hexDigest_pair (Workspace.cleanAndFaulty_readsFrom (by decide))).1 htells).2
    obtain ⟨found, hfound⟩ := hreturns.mp ⟨outcome, houtcome⟩ "a\x00b.php" (by decide)
    cases hfound

end Audit

end PhpAudit
