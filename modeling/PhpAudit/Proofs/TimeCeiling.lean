import PhpAudit.Proofs.ParseSharing

/-!
How the time allowed for a file cuts the rules that are run on it. The rules before the cut are run
one after another as if there were no limit; those after it are only counted. There is one cut at
most, it never comes before the first rule, and it comes as soon as a rule leaves the file overdue.
-/

namespace PhpAudit

/-- Counting the units of rules that are not run leaves no trace but in the journal, where a
listener's failure is noted. -/
theorem Run.skip_session (listener : Option Listener) (path : String) (rules : List Rule)
    (run : Run) : ∃ journal,
      (run.skip listener path rules).2.session = { run.session with journal := journal } := by
  induction rules generalizing run with
  | nil => exact ⟨_, rfl⟩
  | cons rule rest ih =>
      obtain ⟨lines, hfirst⟩ := (run.advance_advances listener (skippedMessage path rule)).session
      rw [skip]
      cases hadvance : run.advance listener (skippedMessage path rule) with
      | mk told next =>
          rw [hadvance] at hfirst
          cases told with
          | error f => exact ⟨lines, hfirst⟩
          | ok =>
              obtain ⟨journal, hrest⟩ := ih next
              exact ⟨journal, by rw [hrest, hfirst]⟩

theorem Run.skip_of_tells {listener : Option Listener} (htells : Listener.Tells listener)
    (path : String) (rules : List Rule) (run : Run) : (run.skip listener path rules).1 = .ok () := by
  induction rules generalizing run with
  | nil => rfl
  | cons rule rest ih =>
      have htold := (run.advance_advances listener (skippedMessage path rule)).told_of_tells htells
      rw [skip]
      cases hadvance : run.advance listener (skippedMessage path rule) with
      | mk told next =>
          rw [hadvance] at htold
          cases htold
          exact ih next

namespace Audit

variable {ws : Workspace} {listener : Option Listener} {path : String}

/-- Runs rules on a file one after another, however long they take; what each finds. -/
def runEach (ws : Workspace) (listener : Option Listener) (path : String) :
    List Rule → Run → Except Failure (List (List Finding)) × Run
  | [], run => (.ok [], run)
  | rule :: rest, run =>
      match runUnit ws listener path rule run with
      | (.error f, next) => (.error f, next)
      | (.ok found, next) =>
          let others := runEach ws listener path rest next
          ((found :: ·) <$> others.1, others.2)

theorem runEach_cons {rule : Rule} {rest : List Rule} {run next : Run} {found : List Finding}
    (h : runUnit ws listener path rule run = (.ok found, next)) :
    runEach ws listener path (rule :: rest) run =
      ((found :: ·) <$> (runEach ws listener path rest next).1,
        (runEach ws listener path rest next).2) := by
  rw [runEach, h]

/-- The file is overdue once the given rules have been run on it. -/
def OverdueAfter (ws : Workspace) (listener : Option Listener) (path : String) (start : Float)
    (run : Run) (rules : List Rule) : Prop :=
  isOverdue run.session.settings.limits
    ((runEach ws listener path rules run).2.session.clock - start) = true

theorem overdueAfter_cons {start : Float} {run next : Run} {rule : Rule} {rules : List Rule}
    {found : List Finding} (h : runUnit ws listener path rule run = (.ok found, next)) :
    OverdueAfter ws listener path start run (rule :: rules) ↔
      OverdueAfter ws listener path start next rules := by
  have hsettings := runUnit_settings ws listener path rule run
  rw [h] at hsettings
  rw [OverdueAfter, OverdueAfter, hsettings, runEach_cons h]

/-- The rules of a file are cut in two: `ran` are run and `left` are only counted. -/
structure Cuts (ws : Workspace) (listener : Option Listener) (path : String) (start : Float)
    (run : Run) (ran left : List Rule) (found : List Finding) (after : Run) : Prop where
  findings : ∃ each, (runEach ws listener path ran run).1 = .ok each ∧ found = each.flatten
  whole : left = [] → after = (runEach ws listener path ran run).2
  stopped : left ≠ [] → OverdueAfter ws listener path start run ran ∧
    let reached := (runEach ws listener path ran run).2
    after = (Run.skip listener path left (reached.file (overdueReport path
      (reached.session.clock - start) left.length reached.session.clock))).2

/-- Running rules to the end of the file cuts them. It goes on until the file is overdue, and a first
rule is run in any case. -/
theorem runRules_cuts {start : Float} {isFirst : Bool} {rules : List Rule} {run after : Run}
    {found : List Finding}
    (h : runRules ws listener path start isFirst rules run = (.ok found, after)) :
    ∃ ran left, rules = ran ++ left ∧ (isFirst = true → rules ≠ [] → ran ≠ []) ∧
      (∀ before later, ran = before ++ later → later ≠ [] → (isFirst = true → before ≠ []) →
        ¬OverdueAfter ws listener path start run before) ∧
      Cuts ws listener path start run ran left found after := by
  induction rules generalizing run isFirst found with
  | nil =>
      cases h
      refine ⟨[], [], rfl, fun _ h => absurd rfl h, ?_, ⟨[], rfl, rfl⟩, fun _ => rfl,
        fun h => absurd rfl h⟩
      intro before later hnil hlater
      exact absurd (List.append_eq_nil_iff.mp hnil.symm).2 hlater
  | cons rule rest ih =>
      rw [runRules] at h
      by_cases hcut : (!isFirst && isOverdue run.session.settings.limits
          (run.session.clock - start)) = true
      · simp only [hcut, if_true] at h
        obtain ⟨hlater, hoverdue⟩ := Bool.and_eq_true_iff.mp hcut
        obtain ⟨hfound, hafter⟩ := Prod.mk.inj h
        obtain ⟨_, _, rfl⟩ := exists_ok_of_map hfound
        refine ⟨[], rule :: rest, rfl, ?_, ?_, ⟨[], rfl, rfl⟩, (by rintro ⟨⟩),
          fun _ => ⟨hoverdue, hafter.symm⟩⟩
        · rintro rfl
          cases hlater
        · intro before later hnil hsome
          exact absurd (List.append_eq_nil_iff.mp hnil.symm).2 hsome
      · simp only [if_neg hcut] at h
        cases hunit : runUnit ws listener path rule run with
        | mk result next =>
            rw [hunit] at h
            cases result with
            | error f => cases h
            | ok new =>
                obtain ⟨hfound, hafter⟩ := Prod.mk.inj h
                obtain ⟨more, hmore, rfl⟩ := exists_ok_of_map hfound
                obtain ⟨ran, left, rfl, _, hintime, hcuts⟩ := ih (Prod.ext hmore hafter)
                obtain ⟨each, heach, rfl⟩ := hcuts.findings
                refine ⟨rule :: ran, left, rfl, fun _ _ => List.cons_ne_nil _ _, ?_, ?_⟩
                · intro before later hsplit hsome hfirst
                  cases before with
                  | nil =>
                      -- the test before this rule was passed, since it is not the first one
                      have hnot : isFirst = false := by
                        cases isFirst with
                        | false => rfl
                        | true => exact absurd rfl (hfirst rfl)
                      intro hoverdue
                      exact hcut (Bool.and_eq_true_iff.mpr ⟨by rw [hnot]; rfl, hoverdue⟩)
                  | cons other before =>
                      obtain ⟨rfl, htails⟩ := List.cons.inj hsplit
                      rw [overdueAfter_cons hunit]
                      exact hintime before later htails hsome (by rintro ⟨⟩)
                · constructor
                  · exact ⟨new :: each, by rw [runEach_cons hunit, heach]; rfl, rfl⟩
                  · rw [runEach_cons hunit]
                    exact hcuts.whole
                  · rw [overdueAfter_cons hunit, runEach_cons hunit]
                    exact hcuts.stopped

theorem not_overdueAfter_of_unlimited {start : Float} {run : Run} {rules : List Rule}
    (h : run.session.settings.limits.maxFileSeconds = none) :
    ¬OverdueAfter ws listener path start run rules := by
  unfold OverdueAfter
  rw [isOverdue_of_unlimited h]
  exact Bool.false_ne_true

/-- Rules whose failures can be told are run to the end of the file. -/
theorem exists_runRules (htells : Listener.Tells listener) {rules : List Rule}
    (htold : ∀ rule ∈ rules, ∀ s, untold? ws rule path s = none) (start : Float) (isFirst : Bool)
    (run : Run) : ∃ found, (runRules ws listener path start isFirst rules run).1 = .ok found := by
  induction rules generalizing isFirst run with
  | nil => exact ⟨[], rfl⟩
  | cons rule rest ih =>
      obtain ⟨hrule, hrest⟩ := List.forall_mem_cons.mp htold
      have hunit := of?_runUnit ws listener path rule run
      rw [hrule, htells.untold?_eq_none, Option.none_or, Failure.of?_eq_none_iff] at hunit
      rw [runRules]
      dsimp only
      split
      · rw [exists_ok_map_iff]
        exact ⟨(), Run.skip_of_tells htells path (rule :: rest) _⟩
      · obtain ⟨found, hfound⟩ := hunit
        cases hrun : runUnit ws listener path rule run with
        | mk result next =>
            rw [hrun] at hfound
            cases hfound
            exact (exists_ok_map_iff _).mpr (ih hrest false next)

/-- What is filed of a file that has used up its time is the failure to keep the limit. -/
theorem ofFailure_overdue (path : String) (elapsed : Float) (remaining : Nat) (now : Float) :
    Report.ofFailure (.text path) (.timeLimit (overdueText path elapsed remaining)) "" (.text "")
      now = .ok (overdueReport path elapsed remaining now) := rfl

theorem message_overdueReport (path : String) (elapsed : Float) (remaining : Nat) (now : Float) :
    (overdueReport path elapsed remaining now).incident.message =
      "Performance warning: " ++ path ++ " took " ++ Number.fixedText 3 elapsed ++ "s, skipping " ++
        toString remaining ++ " remaining rule(s) (threshold 1s)" := by
  have hthreshold : Number.generalText 1 = "1" := by decide +kernel
  simp [overdueReport, overdueText, Report.performanceOf, Report.make, hthreshold,
    String.append_assoc]

/-- The time allowed for a file cuts its rules at one point. The rules before the cut, at least the
first, are run in order and give the findings of the file; without a limit these are all rules.
While they are run the file is not overdue, and if rules are left it is overdue then. In that case
one warning is filed that names no rule and tells how many are left, and the others leave no trace
in the session but in its journal. If none is left, nothing is filed beyond what the rules file. The
check of the file returns whenever its path is one, or no size is asked for, and the failures of the
rules and of the listener can be told. -/
theorem time_limit_cuts_once (ws : Workspace) (listener : Option Listener) (path : String)
    {rules : List Rule} (hrules : rules ≠ []) {run : Run}
    (hsize : ¬TooLarge run.session.settings.limits (ws.files.size path)) :
    let limits := run.session.settings.limits
    let start := run.session.clock
    let result := processFile ws listener rules path run
    (isUnsizable limits path = false → Listener.Tells listener →
      (∀ rule ∈ rules, ∀ s, untold? ws rule path s = none) → ∃ checked, result.1 = .ok checked) ∧
    ∀ checked, result.1 = .ok checked → ∃ ran left each, rules = ran ++ left ∧ ran ≠ [] ∧
      (limits.maxFileSeconds = none → left = []) ∧
      (∀ before later, ran = before ++ later → before ≠ [] → later ≠ [] →
        ¬OverdueAfter ws listener path start run before) ∧
      (runEach ws listener path ran run).1 = .ok each ∧
      let reached := (runEach ws listener path ran run).2
      let elapsed := reached.session.clock - start
      checked.skipped = false ∧ checked.findings = each.flatten ∧
      (left = [] → result.2 = reached) ∧
      (left ≠ [] → OverdueAfter ws listener path start run ran ∧
        ∃ i journal, result.2.session = { reached.session with
            incidents := reached.session.incidents.add i, journal := journal } ∧
          i.topic = .performance ∧ i.file = path ∧ i.rule = .text "" ∧
          i.message = "Performance warning: " ++ path ++ " took " ++ Number.fixedText 3 elapsed ++
            "s, skipping " ++ toString left.length ++ " remaining rule(s) (threshold 1s)") := by
  intro limits start result
  cases hsizable : isUnsizable limits path with
  | true =>
      have hunsizable : isUnsizable run.session.settings.limits path = true := hsizable
      have hresult : result.1 = .error .notPath := by
        simp only [result, processFile, hunsizable, if_true]
      rw [hresult]
      exact ⟨(by rintro ⟨⟩), (by rintro _ ⟨⟩)⟩
  | false =>
      have hresult : result = _ := processFile_eq_runRules listener rules hsizable hsize
      rw [hresult]
      constructor
      · intro _ htells htold
        exact (exists_ok_map_iff _).mpr (exists_runRules htells htold start true run)
      · intro checked hchecked
        obtain ⟨found, hfound, rfl⟩ := exists_ok_of_map hchecked
        obtain ⟨ran, left, hsplit, hnonempty, hintime, hcuts⟩ := runRules_cuts (Prod.ext hfound rfl)
        obtain ⟨each, heach, rfl⟩ := hcuts.findings
        refine ⟨ran, left, each, hsplit, hnonempty rfl hrules, ?_, ?_, heach, rfl, rfl, hcuts.whole,
          ?_⟩
        · intro hunlimited
          by_contra hleft
          exact not_overdueAfter_of_unlimited hunlimited (hcuts.stopped hleft).1
        · intro before later hran hbefore hlater
          exact hintime before later hran hlater fun _ => hbefore
        · intro hleft
          obtain ⟨hoverdue, hafter⟩ := hcuts.stopped hleft
          refine ⟨hoverdue, ?_⟩
          let reached := (runEach ws listener path ran run).2
          let report := overdueReport path (reached.session.clock - start) left.length
            reached.session.clock
          obtain ⟨journal, hskipped⟩ := Run.skip_session listener path left (reached.file report)
          have hsession := (congrArg Run.session hafter).trans hskipped
          exact ⟨report.incident, journal, hsession, rfl, rfl, rfl, message_overdueReport _ _ _ _⟩

/-- A rule that takes two seconds to find nothing. -/
def dawdling : Rule := { Rule.presence with body := .direct fun _ => { steps := [.wait 2] } }

/-- A run that allows one second for a file. -/
def hastyRun : Run where
  session := { Session.cold with settings := { limits := { maxFileSeconds := some 1 } } }
  total := 3

theorem untold?_dawdling (ws : Workspace) (path : String) (s : Session) :
    untold? ws dawdling path s = none := rfl

/-- A slow first rule is run, and the two after it are not. -/
theorem dawdling_cuts_two :
    let rules := [dawdling, .presence, .presence]
    let result := processFile .cleanAndFaulty none rules "clean.php" hastyRun
    rules ≠ [] ∧ ¬TooLarge hastyRun.session.settings.limits
      (Workspace.cleanAndFaulty.files.size "clean.php") ∧
      ∃ i, result.1 = .ok ⟨[], false⟩ ∧ result.2.session.incidents = ⟨[], [i]⟩ ∧
        i.topic = .performance ∧ i.rule = .text "" ∧
        i.message = "Performance warning: clean.php took 2.000s, skipping 2 remaining rule(s) " ++
          "(threshold 1s)" := by
  intro rules result
  have hrules : rules ≠ [] := List.cons_ne_nil _ _
  have hsize : ¬TooLarge hastyRun.session.settings.limits
      (Workspace.cleanAndFaulty.files.size "clean.php") := by
    rintro ⟨most, hmost, hlarge⟩
    cases hmost
    exact absurd hlarge (by decide)
  obtain ⟨hreturns, hcut⟩ := time_limit_cuts_once .cleanAndFaulty none "clean.php" hrules hsize
  have htold : ∀ rule ∈ rules, ∀ s, untold? .cleanAndFaulty rule "clean.php" s = none := by
    simp only [rules, List.forall_mem_cons, List.not_mem_nil, false_imp_iff, implies_true,
      and_true]
    exact ⟨untold?_dawdling _ _, untold?_presence _ _, untold?_presence _ _⟩
  obtain ⟨⟨findings, skipped⟩, hchecked⟩ := hreturns (by decide) Listener.tells_none htold
  obtain ⟨ran, left, each, hsplit, hran, _, hintime, heach, rfl, rfl, _, hstopped⟩ :=
    hcut _ hchecked
  have hslow : OverdueAfter .cleanAndFaulty none "clean.php" 1 hastyRun [dawdling] := by
    unfold OverdueAfter
    decide +kernel
  cases ran with
  | nil => exact absurd rfl hran
  | cons first rest =>
      obtain ⟨rfl, htails⟩ := List.cons.inj hsplit
      cases rest with
      | cons second rest =>
          exact absurd hslow (hintime [dawdling] (second :: rest) rfl (List.cons_ne_nil _ _)
            (List.cons_ne_nil _ _))
      | nil =>
          cases htails
          obtain ⟨_, i, journal, hsession, htopic, _, hrule, hmessage⟩ :=
            hstopped (List.cons_ne_nil _ _)
          cases heach
          refine ⟨hrules, hsize, i, hchecked, ?_, htopic, hrule, ?_⟩
          · have hadded : result.2.session.incidents = IncidentLog.add {} i := by rw [hsession]; rfl
            rw [hadded, IncidentLog.add, Incident.severity, htopic]
            rfl
          · rw [hmessage]
            decide +kernel

end Audit

end PhpAudit
