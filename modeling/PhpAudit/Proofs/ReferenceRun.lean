import PhpAudit.Proofs.Reference
import PhpAudit.Proofs.TaskSteps

/-!
An audit agrees with the reference, from the single step of a script up to a whole run. Each
function of a check gets one statement: what it returns is what its counterpart without a session
returns, and the session it leaves differs from the one it was given by the counterpart's incidents.
Only the fetch of a tree needs the cache to be sound.

From there on it is enough to look at one step of a task. What a task has found and what it has yet
to find are together what the reference finds in its file; likewise for the incidents filed and those
still due, up to their order where files are checked side by side.
-/

namespace PhpAudit

variable (g : Grammar) (known : Set Bytes)

open Session (Becomes)

namespace Rule

theorem wait_becomes (s : Session) (seconds : Float) : Becomes g known s (s.wait seconds) [] :=
  .of_eq rfl rfl rfl

theorem runSteps_eq_collect (steps : List Step) (s : Session) :
    (runSteps steps s).1 = collect steps ∧ Becomes g known s (runSteps steps s).2 [] := by
  induction steps generalizing s with
  | nil => exact ⟨rfl, .refl s⟩
  | cons step rest ih =>
      cases step with
      | wait seconds =>
          obtain ⟨hresult, hsession⟩ := ih (s.wait seconds)
          exact ⟨hresult, (wait_becomes g known s seconds).trans hsession⟩
      | fail f => exact ⟨rfl, .refl s⟩
      | emit item =>
          obtain ⟨hresult, hsession⟩ := ih s
          exact ⟨congrArg ((item :: ·) <$> ·) hresult, hsession⟩

theorem runScript_eq_answer (script : Script) (s : Session) :
    (runScript script s).1 = answer script ∧ Becomes g known s (runScript script s).2 [] := by
  obtain ⟨hresult, hsession⟩ := runSteps_eq_collect g known script.steps s
  unfold runScript answer
  cases script.reply with
  | streamed => exact ⟨rfl, .refl s⟩
  | lazy => exact ⟨rfl, .refl s⟩
  | collected => exact ⟨congrArg (Answer.items <$> ·) hresult, hsession⟩
  | fixed v => exact ⟨congrArg ((fun _ => Answer.value v) <$> ·) hresult, hsession⟩

theorem warn_becomes (rule : Rule) (path : String) (reason : Rejection) (s : Session) :
    Becomes g known s (rule.warn path reason s) [rule.warning path reason] :=
  .file s rfl

/-- Items are judged alike one by one; a rejected item is filed before the rest is judged. -/
theorem normaliseSteps_eq_judge (rule : Rule) (path : String) (steps : List Step) (s : Session) :
    (rule.normaliseSteps path steps s).1 = (rule.judge path steps).1 ∧
      Becomes g known s (rule.normaliseSteps path steps s).2 (rule.judge path steps).2 := by
  induction steps generalizing s with
  | nil => exact ⟨rfl, .refl s⟩
  | cons step rest ih =>
      cases step with
      | wait seconds =>
          obtain ⟨hresult, hsession⟩ := ih (s.wait seconds)
          exact ⟨hresult, (wait_becomes g known s seconds).trans hsession⟩
      | fail f => exact ⟨rfl, .refl s⟩
      | emit item =>
          simp only [normaliseSteps, judge]
          cases rule.normaliseItem path item with
          | error f => exact ⟨rfl, .refl s⟩
          | ok judged =>
              cases judged with
              | ok finding =>
                  obtain ⟨hresult, hsession⟩ := ih s
                  exact ⟨congrArg ((finding :: ·) <$> ·) hresult, hsession⟩
              | error rejection =>
                  obtain ⟨hresult, hsession⟩ := ih (rule.warn path rejection s)
                  exact ⟨hresult, (rule.warn_becomes g known path rejection s).trans hsession⟩

theorem normalise_eq_judgeAnswer (rule : Rule) (path : String) (answer : Answer) (s : Session) :
    (rule.normalise path answer s).1 = (rule.judgeAnswer path answer).1 ∧
      Becomes g known s (rule.normalise path answer s).2 (rule.judgeAnswer path answer).2 := by
  cases answer with
  | items xs => exact rule.normaliseSteps_eq_judge g known path _ s
  | stream steps => exact rule.normaliseSteps_eq_judge g known path steps s
  | value v =>
      cases v with
      | null => exact ⟨rfl, .refl s⟩
      | list items => exact rule.normaliseSteps_eq_judge g known path _ s
      | tuple items => exact rule.normaliseSteps_eq_judge g known path _ s
      | _ => exact ⟨rfl, rule.warn_becomes g known path _ s⟩

/-- A script is run, and what it answers is normalised. -/
def runNormalised (rule : Rule) (path : String) (script : Script) (s : Session) :
    Except Failure (List Finding) × Session :=
  match runScript script s with
  | (.error f, t) => (.error f, t)
  | (.ok answer, t) => rule.normalise path answer t

theorem perform_eq_runNormalised (rule : Rule) (path : String) (script : Script) (s : Session) :
    rule.perform path script s = rule.runNormalised path (eager script) s := by
  unfold perform eager
  rfl

theorem runNormalised_eq_judgeScript (rule : Rule) (path : String) (script : Script) (s : Session) :
    (rule.runNormalised path script s).1 = (rule.judgeScript path script).1 ∧
      Becomes g known s (rule.runNormalised path script s).2
        (rule.judgeScript path script).2 := by
  obtain ⟨hanswer, hsession⟩ := runScript_eq_answer g known script s
  rw [runNormalised, judgeScript, ← hanswer]
  cases hrun : runScript script s with
  | mk result t =>
      rw [hrun] at hsession
      cases result with
      | error f => exact ⟨rfl, hsession⟩
      | ok answer =>
          obtain ⟨hresult, hjudged⟩ := rule.normalise_eq_judgeAnswer g known path answer t
          exact ⟨hresult, hsession.trans hjudged⟩

theorem warnIfSlow_becomes (rule : Rule) (path : String) (seconds : Float) (s : Session) :
    Becomes g known s (rule.warnIfSlow path seconds s) [] := by
  simp only [warnIfSlow]
  split
  · exact .file_performance s rfl
  · exact .refl s

theorem time_becomes (s : Session) (rule : String) (phase : Phase) (seconds : Float) :
    Becomes g known s (s.time rule phase seconds) [] :=
  .of_eq rfl rfl rfl

/-- Submitting a report gives the verdict that it gives, whatever date it carries. -/
theorem submit_eq_verdict {needs : List Need} {topic : Topic}
    {report : Float → Except Failure Report} (h : Report.Tells needs topic report) (now : Float)
    (s : Session) :
    (s.submit (report now) []).1 = (Verdict.submit (report 0)).result ∧
      Becomes g known s (s.submit (report now) ([] : List Finding)).2
        (Verdict.submit (report 0)).incidents := by
  rcases h with ⟨f, _, hreport⟩ | ⟨_, _, _, _, _, _, _, _, hreport⟩
  · rw [hreport, hreport]
    exact ⟨rfl, .refl s⟩
  · rw [hreport, hreport]
    exact ⟨rfl, .file s rfl⟩

/-- What a rule fails with on a tree is filed under its own topic, unless it cannot be told. -/
theorem inspectTree_eq_settle (rule : Rule) (path : String) (script : Script) (s : Session) :
    let verdict := Verdict.settle (rule.judgeScript path (eager script))
      fun f => Report.ofFailure (.text path) f "" (.text rule.typeName) 0
    (rule.inspectTree path script s).1 = verdict.result ∧
      Becomes g known s (rule.inspectTree path script s).2 verdict.incidents := by
  obtain ⟨hresult, hsession⟩ := rule.runNormalised_eq_judgeScript g known path (eager script) s
  simp only [inspectTree, perform_eq_runNormalised, Verdict.settle, ← hresult]
  cases hperform : rule.runNormalised path (eager script) s with
  | mk result t =>
      rw [hperform] at hsession
      cases result with
      | error f =>
          obtain ⟨hsubmitted, hfiled⟩ := submit_eq_verdict g known
            (Filing.failure (.text path) f "" (.text rule.typeName)).report_tells t.clock t
          exact ⟨hsubmitted, (hsession.trans hfiled).then_of_eq rfl rfl rfl⟩
      | ok findings =>
          refine ⟨rfl, ?_⟩
          have htimed := time_becomes g known t rule.typeName .check (t.clock - s.clock)
          have hslow := rule.warnIfSlow_becomes g known path (t.clock - s.clock)
            (t.time rule.typeName .check (t.clock - s.clock))
          simpa using (hsession.trans htimed).trans hslow

end Rule

/-- From a sound cache a fetch gives what reading afresh gives, and leaves the cache sound. -/
theorem Session.fetch_eq_fresh {s : Session} (hsound : s.cache.Sound g known)
    (hdigest : Set.InjOn Sha256.hexDigest known) (path : String) {content : Bytes}
    (hcontent : content ∈ known) (mtime : Value) :
    (s.fetch g path content mtime).1 = g.fresh content ∧
      Becomes g known s (s.fetch g path content mtime).2 [] := by
  have hlookup := hsound.lookup (TreeCache.fingerprint content mtime) s.clock
  have hhit (tree : SyntaxTree)
      (h : (s.cache.lookup (TreeCache.fingerprint content mtime) s.clock).1 = some tree) :
      g.fresh content = .ok tree :=
    hsound.fresh_of_hit hdigest hcontent h
  simp only [Session.fetch, Session.fetchWith]
  cases hfound : s.cache.lookup (TreeCache.fingerprint content mtime) s.clock with
  | mk found cache =>
      rw [hfound] at hlookup
      cases found with
      | some tree =>
          -- only here does it matter that no other content is filed under this key
          have hfresh := hhit tree (by rw [hfound])
          exact ⟨hfresh.symm, rfl, fun _ => hlookup, [], rfl, rfl⟩
      | none =>
          obtain ⟨f, hfresh, hparse⟩ | ⟨tree, lines, hfresh, hparse⟩ :=
            Session.parseAndStore_cases g path (TreeCache.fingerprint content mtime) content
              { s with cache := cache }
          · simp only [hparse]
            exact ⟨hfresh.symm, rfl, fun _ => hlookup, [], rfl, rfl⟩
          · simp only [hparse]
            exact ⟨hfresh.symm, rfl, fun _ => hlookup.store hcontent mtime hfresh _, [], rfl, rfl⟩

namespace Session

theorem fetch_settings (s : Session) (path : String) (content : Bytes) (mtime : Value) :
    (s.fetch g path content mtime).2.settings = s.settings := by
  obtain ⟨clock, cache, journal, hfetch⟩ := s.exists_fetch_eq g path content mtime
  rw [hfetch]

theorem submit_settings {α : Type} (report : Except Failure Report) (value : α) (s : Session) :
    (s.submit report value).2.settings = s.settings := by
  cases report <;> rfl

end Session

namespace Rule

theorem checkFile_settings (ws : Workspace) (rule : Rule) (script : SyntaxTree → String → Script)
    (path : String) (s : Session) :
    (rule.checkFile ws script path s).2.settings = s.settings := by
  unfold checkFile
  cases ws.files.read path with
  | error f => exact s.submit_settings _ _
  | ok file =>
      obtain ⟨content, mtime⟩ := file
      dsimp only
      have hfetched := s.fetch_settings ws.grammar path content (.int mtime)
      cases hfetch : s.fetch ws.grammar path content (.int mtime) with
      | mk result t =>
          rw [hfetch] at hfetched
          cases result with
          | error f => exact (t.submit_settings _ _).trans hfetched
          | ok tree =>
              have hinspected := (rule.inspectTree_eq_settle ws.grammar ∅ path (script tree path)
                (t.time rule.typeName .parse (t.clock - s.clock))).2.settings
              exact hinspected.trans hfetched

/-- No check touches the settings. -/
theorem check_settings (ws : Workspace) (rule : Rule) (path : String) (s : Session) :
    (rule.check ws path s).2.settings = s.settings := by
  cases hbody : rule.body with
  | direct script =>
      simp only [check, hbody]
      exact (runScript_eq_answer ws.grammar ∅ (script path) s).2.settings
  | tree script =>
      have hchecked := rule.checkFile_settings ws script path s
      simp only [check, hbody, checkTree]
      cases rule.appliesTo path with
      | error f => rfl
      | ok applies =>
          dsimp only
          split
          · cases hcheck : rule.checkFile ws script path s with
            | mk result t =>
                rw [hcheck] at hchecked
                cases result <;> exact hchecked
          · rfl

end Rule

namespace Rule

variable {ws : Workspace} {known} {s : Session}

theorem checkFile_eq_reference (hsound : s.cache.Sound ws.grammar known)
    (hdigest : Set.InjOn Sha256.hexDigest known) (rule : Rule)
    (script : SyntaxTree → String → Script) {path : String}
    (hknown : ∀ content mtime, ws.files.read path = .ok (content, mtime) → content ∈ known) :
    (rule.checkFile ws script path s).1 = (rule.referenceOnFile ws script path).result ∧
      Becomes ws.grammar known s (rule.checkFile ws script path s).2
        (rule.referenceOnFile ws script path).incidents := by
  unfold checkFile referenceOnFile
  cases hread : ws.files.read path with
  | error f =>
      exact submit_eq_verdict ws.grammar known
        (Report.tells_fileAccess (.text path) f (.text rule.typeName)) s.clock s
  | ok file =>
      obtain ⟨content, mtime⟩ := file
      have hcontent := hknown content mtime hread
      obtain ⟨hfresh, hfetched⟩ :=
        Session.fetch_eq_fresh ws.grammar known hsound hdigest path hcontent (.int mtime)
      simp only [← hfresh]
      cases hfetch : s.fetch ws.grammar path content (.int mtime) with
      | mk result t =>
          rw [hfetch] at hfetched
          cases result with
          | error f =>
              obtain ⟨hsubmitted, hfiled⟩ := submit_eq_verdict ws.grammar known
                (Report.tells_parsing (.text path) f (.text rule.typeName)) t.clock t
              exact ⟨hsubmitted, (hfetched.trans hfiled).then_of_eq rfl rfl rfl⟩
          | ok tree =>
              have htimed := time_becomes ws.grammar known t rule.typeName .parse
                (t.clock - s.clock)
              obtain ⟨hfindings, hinspected⟩ := rule.inspectTree_eq_settle ws.grammar known path
                (script tree path) (t.time rule.typeName .parse (t.clock - s.clock))
              exact ⟨hfindings, (hfetched.trans htimed).trans hinspected⟩

/-- Findings of a tree rule are normalised a second time, which leaves them alone. -/
theorem judge_findings (rule : Rule) (path : String) (findings : List Finding) :
    rule.judge path ((findings.map Item.finding).map .emit) = (.ok findings, []) := by
  induction findings with
  | nil => rfl
  | cons finding rest ih =>
      simp only [List.map_cons, judge, normaliseItem, ih]
      rfl

/-- The same, from any session and without a trace in it. -/
theorem normaliseSteps_findings (rule : Rule) (path : String) (findings : List Finding)
    (s : Session) :
    rule.normaliseSteps path ((findings.map Item.finding).map .emit) s = (.ok findings, s) := by
  induction findings with
  | nil => rfl
  | cons finding rest ih =>
      simp only [List.map_cons, normaliseSteps, normaliseItem, ih]
      rfl

/-- A file that a tree rule has to look at. -/
theorem checkTree_eq_checkFile (rule : Rule) (script : SyntaxTree → String → Script) {path : String}
    (happlies : rule.appliesTo path = .ok true) (hreadable : ws.files.isReadable path = true) :
    (rule.checkTree ws script path s).1 = (rule.checkFile ws script path s).1 ∧
      Becomes ws.grammar known (rule.checkFile ws script path s).2
        (rule.checkTree ws script path s).2 [] := by
  simp only [checkTree, happlies, hreadable, Bool.and_self, if_true]
  cases rule.checkFile ws script path s with
  | mk result t =>
      cases result with
      | error f => exact ⟨rfl, .of_eq rfl rfl rfl⟩
      | ok findings => exact ⟨rfl, .of_eq rfl rfl rfl⟩

/-- Any other file is passed over. -/
theorem checkTree_of_passed (rule : Rule) (script : SyntaxTree → String → Script) {path : String}
    {applies : Bool} (happlies : rule.appliesTo path = .ok applies)
    (hpassed : (applies && ws.files.isReadable path) = false) :
    rule.checkTree ws script path s = (.ok [], s) := by
  simp [checkTree, happlies, hpassed]

end Rule

namespace Audit

variable {ws : Workspace} {known} {s : Session}

/-- A rule's answer on a file, normalised. -/
def outcome (ws : Workspace) (rule : Rule) (path : String) (s : Session) :
    Except Failure (List Finding) × Session :=
  match rule.check ws path s with
  | (.error f, t) => (.error f, t)
  | (.ok answer, t) => rule.normalise path answer t

/-- What comes out is taken as it is, and a failure is reported. -/
theorem runRule_eq_outcome (ws : Workspace) (rule : Rule) (path : String) (s : Session) :
    runRule ws rule path s = match outcome ws rule path s with
      | (.ok findings, t) => (.ok findings, t)
      | (.error f, t) =>
          t.submit (Report.ruleProcessing (.text path) f (.text rule.typeName) "" t.clock) [] := by
  unfold runRule outcome
  rfl

theorem runRule_eq_settle {rule : Rule} {path : String}
    (judged : Except Failure (List Finding) × List Incident)
    (hresult : (outcome ws rule path s).1 = judged.1)
    (hsession : Becomes ws.grammar known s (outcome ws rule path s).2 judged.2) :
    let verdict := Verdict.settle judged
      fun f => Report.ruleProcessing (.text path) f (.text rule.typeName) "" 0
    (runRule ws rule path s).1 = verdict.result ∧
      Becomes ws.grammar known s (runRule ws rule path s).2 verdict.incidents := by
  simp only [runRule_eq_outcome, Verdict.settle, ← hresult]
  cases houtcome : outcome ws rule path s with
  | mk result t =>
      rw [houtcome] at hsession
      cases result with
      | ok findings => exact ⟨rfl, hsession⟩
      | error f =>
          obtain ⟨hsubmitted, hfiled⟩ := Rule.submit_eq_verdict ws.grammar known
            (Report.tells_ruleProcessing (.text path) f (.text rule.typeName) "") t.clock t
          exact ⟨hsubmitted, hsession.trans hfiled⟩

theorem runRule_settings (ws : Workspace) (rule : Rule) (path : String) (s : Session) :
    (runRule ws rule path s).2.settings = s.settings := by
  have houtcome : (outcome ws rule path s).2.settings = s.settings := by
    have hcheck := rule.check_settings ws path s
    unfold outcome
    cases hchecked : rule.check ws path s with
    | mk answered t =>
        rw [hchecked] at hcheck
        cases answered with
        | error f => exact hcheck
        | ok answer =>
            exact (rule.normalise_eq_judgeAnswer ws.grammar ∅ path answer t).2.settings.trans hcheck
  rw [runRule_eq_outcome]
  cases hrun : outcome ws rule path s with
  | mk result t =>
      rw [hrun] at houtcome
      cases result with
      | ok findings => exact houtcome
      | error f => exact (t.submit_settings _ _).trans houtcome

theorem outcome_direct {rule : Rule} {script : String → Script}
    (hbody : rule.body = .direct script) (path : String) :
    outcome ws rule path s = rule.runNormalised path (script path) s := by
  simp only [outcome, Rule.check, hbody]
  rfl

/-- A tree rule's findings go through normalisation unchanged. -/
theorem outcome_tree (known : Set Bytes) {rule : Rule} {script : SyntaxTree → String → Script}
    (hbody : rule.body = .tree script) (path : String) :
    (outcome ws rule path s).1 = (rule.checkTree ws script path s).1 ∧
      Becomes ws.grammar known (rule.checkTree ws script path s).2
        (outcome ws rule path s).2 [] := by
  simp only [outcome, Rule.check, hbody]
  cases hcheck : rule.checkTree ws script path s with
  | mk result t =>
      cases result with
      | error f => exact ⟨rfl, .refl t⟩
      | ok findings =>
          obtain ⟨hresult, hsession⟩ := rule.normalise_eq_judgeAnswer ws.grammar known path
            (.items (findings.map .finding)) t
          rw [Rule.judgeAnswer, rule.judge_findings] at hresult hsession
          exact ⟨hresult, hsession⟩

/-- A fault is all that the reference reports of a file that a tree rule has to look at. -/
theorem reference_of_fault {rule : Rule} {script : SyntaxTree → String → Script} {path : String}
    {content : Bytes} {mtime : Int} {f : Failure} (hbody : rule.body = .tree script)
    (happlies : rule.appliesTo path = .ok true) (hreadable : ws.files.isReadable path = true)
    (hread : ws.files.read path = .ok (content, mtime)) (hfresh : ws.grammar.fresh content = .error f) :
    ∃ r, Report.parsing (.text path) f (.text rule.typeName) 0 = .ok r ∧
      rule.reference ws path = ⟨.ok [], [r.incident]⟩ := by
  obtain ⟨fault, rfl⟩ := Grammar.exists_fault hfresh
  obtain ⟨r, hreport⟩ :=
    Report.exists_parsing (.text rule.typeName) path fault.message fault.line 0
  refine ⟨r, hreport, ?_⟩
  have hreport' : Report.parsing (.text path) fault.toFailure (.text rule.typeName) 0 = .ok r :=
    hreport
  simp [Rule.reference, Rule.judgeFile, hbody, happlies, hreadable, Rule.referenceOnFile, hread,
    hfresh, hreport', Verdict.submit, Verdict.settle]

/-- Running a rule on a file gives the findings of the reference and files its incidents. -/
theorem runRule_eq_reference (hsound : s.cache.Sound ws.grammar known)
    (hdigest : Set.InjOn Sha256.hexDigest known) (rule : Rule) {path : String}
    (hknown : ∀ content mtime, ws.files.read path = .ok (content, mtime) → content ∈ known) :
    (runRule ws rule path s).1 = (rule.reference ws path).result ∧
      Becomes ws.grammar known s (runRule ws rule path s).2
        (rule.reference ws path).incidents := by
  have hjudged : (outcome ws rule path s).1 = (rule.judgeFile ws path).1 ∧
      Becomes ws.grammar known s (outcome ws rule path s).2 (rule.judgeFile ws path).2 := by
    unfold Rule.judgeFile
    cases hbody : rule.body with
    | direct script =>
        rw [outcome_direct hbody]
        exact rule.runNormalised_eq_judgeScript ws.grammar known path (script path) s
    | tree script =>
        obtain ⟨hresult, hsession⟩ := outcome_tree known hbody path
        cases happlies : rule.appliesTo path with
        | error f =>
            have hcheck : rule.checkTree ws script path s = (.error f, s) := by
              simp [Rule.checkTree, happlies]
            rw [hcheck] at hresult hsession
            exact ⟨hresult, hsession⟩
        | ok applies =>
            cases hlooked : applies && ws.files.isReadable path with
            | false =>
                rw [rule.checkTree_of_passed script happlies hlooked] at hresult hsession
                simp only [hlooked]
                exact ⟨hresult, hsession⟩
            | true =>
                obtain ⟨rfl, hreadable⟩ := Bool.and_eq_true_iff.mp hlooked
                obtain ⟨hchecked, hthen⟩ := rule.checkTree_eq_checkFile script happlies hreadable
                obtain ⟨hfile, hfiled⟩ :=
                  Rule.checkFile_eq_reference hsound hdigest rule script hknown
                have hall := (hfiled.trans hthen).trans hsession
                rw [List.append_nil, List.append_nil] at hall
                simp only [hlooked, if_true]
                exact ⟨hresult.trans (hchecked.trans hfile), hall⟩
  exact runRule_eq_settle _ hjudged.1 hjudged.2

end Audit

/-- Telling a listener leaves at most a line in the log. -/
theorem Run.Advances.becomes {listener : Option Listener} {message : String} {run next : Run}
    {told : Except Failure Unit} (h : Advances listener message run told next) :
    Becomes g known run.session next.session [] := by
  obtain ⟨journal, hsession⟩ := h.session
  rw [hsession]
  exact .of_eq rfl rfl rfl

theorem Audit.isOverdue_of_unlimited {limits : LimitSettings} (htime : limits.maxFileSeconds = none)
    (elapsed : Float) : isOverdue limits elapsed = false := by
  simp [isOverdue, htime]

namespace FileTask

/-- What the reference makes of a file as far as it has come: what has been found, and what is yet to
be found and to be filed. -/
def due (ws : Workspace) (limits : LimitSettings) (rules : List Rule) (task : FileTask) : Verdict :=
  match task.stage with
  | .waiting => Audit.referenceFile ws limits rules task.path
  | .checking _ _ found rest =>
      .andThen ⟨.ok found, []⟩ (.inTurn (rest.map fun rule => rule.reference ws task.path))
  | .skipping found _ _ => ⟨.ok found, []⟩
  | .broken f => ⟨.error f, []⟩

/-- Nothing but a result is due of a settled task. -/
theorem due_of_isSettled (ws : Workspace) (limits : LimitSettings) (rules : List Rule)
    {task : FileTask} (h : task.isSettled = true) :
    task.due ws limits rules = ⟨(·.findings) <$> task.result, []⟩ := by
  obtain ⟨path, stage⟩ := task
  cases stage with
  | waiting => cases h
  | checking start isFirst found rest =>
      cases List.isEmpty_iff.mp h
      simp [due, result, Verdict.andThen, Verdict.inTurn]
  | skipping found oversize rest => rfl
  | broken f => rfl

variable {ws : Workspace} {known} {listener : Option Listener} {rules : List Rule}

/-- Between two moments of a task nothing that was due is lost, unless the listener has failed
without a text and so broken the task off. -/
def Keeps (ws : Workspace) (known : Set Bytes) (limits : LimitSettings)
    (listener : Option Listener) (rules : List Rule) (task later : FileTask) (run next : Run) :
    Prop :=
  ∃ incidents, Becomes ws.grammar known run.session next.session incidents ∧
    ((later.due ws limits rules).result = (task.due ws limits rules).result ∧
      (task.due ws limits rules).incidents = incidents ++ (later.due ws limits rules).incidents ∨
    ¬Listener.Tells listener ∧ ∃ f, later.stage = .broken f)

/-- One step of a task, from any session with a sound cache. -/
theorem Steps.keeps {path : String} {stage later : TaskStage} {run next : Run}
    {limits : LimitSettings} (h : Steps ws listener rules path stage run later next)
    (hlimits : run.session.settings.limits = limits) (htime : limits.maxFileSeconds = none)
    (hsound : run.session.cache.Sound ws.grammar known)
    (hdigest : Set.InjOn Sha256.hexDigest known)
    (hknown : ∀ content mtime, ws.files.read path = .ok (content, mtime) → content ∈ known) :
    Keeps ws known limits listener rules ⟨path, stage⟩ ⟨path, later⟩ run next := by
  cases h with
  | unsizable hunsizable =>
      rw [hlimits] at hunsizable
      exact ⟨[], .refl run.session, Or.inl (by simp [due, Audit.referenceFile, hunsizable])⟩
  | @oversize _ ceiling hsizable hceiling =>
      rw [hlimits] at hsizable hceiling
      let size := ws.files.size path
      have hdue : due ws limits rules ⟨path, .waiting⟩ =
          ⟨.ok [], [(Audit.oversizeReport path size ceiling 0).incident]⟩ := by
        simp only [due, Audit.referenceFile, hsizable, hceiling]
        rfl
      exact ⟨[(Audit.oversizeReport path size ceiling 0).incident], .file run.session rfl,
        Or.inl (by rw [hdue]; exact ⟨rfl, rfl⟩)⟩
  | begun hsizable hceiling =>
      rw [hlimits] at hsizable hceiling
      refine ⟨[], .refl run.session, Or.inl ?_⟩
      simp [due, Audit.referenceFile, hsizable, hceiling, Verdict.andThen]
  | overdue hoverdue =>
      rw [hlimits, Audit.isOverdue_of_unlimited htime] at hoverdue
      cases hoverdue
  | @checked _ _ _ _ found new rule rest _ hunit =>
      obtain ⟨hresult, hruled⟩ := Audit.runRule_eq_reference hsound hdigest rule hknown
      obtain ⟨session, hrule, hadvances⟩ := Audit.of_runUnit_ok hunit
      rw [hrule] at hresult hruled
      have hboth := hruled.trans (hadvances.becomes ws.grammar known)
      rw [List.append_nil] at hboth
      refine ⟨_, hboth, Or.inl ?_⟩
      simp only [due, List.map_cons, Verdict.inTurn_cons_of_ok hresult.symm, Verdict.andThen]
      cases (Verdict.inTurn (rest.map fun rule => rule.reference ws path)).result <;> simp
  | @failed _ _ _ _ found rule rest f _ hunit =>
      obtain ⟨hresult, hruled⟩ := Audit.runRule_eq_reference hsound hdigest rule hknown
      rcases Audit.of_runUnit_error hunit with
        ⟨session, hrule, rfl⟩ | ⟨new, session, hrule, hadvances⟩
      · rw [hrule] at hresult hruled
        refine ⟨_, hruled, Or.inl ?_⟩
        simp [due, Verdict.inTurn_cons_of_error hresult.symm, Verdict.andThen]
      · -- the file was checked, and then the listener failed
        rw [hrule] at hruled
        refine ⟨_, hruled.trans (hadvances.becomes ws.grammar known),
          Or.inr ⟨fun htells => ?_, _, rfl⟩⟩
        cases hadvances.told_of_tells htells
  | skipped htold =>
      have hadvances := Run.advances_of_eq htold
      exact ⟨[], hadvances.becomes ws.grammar known, Or.inl ⟨rfl, rfl⟩⟩
  | unheard htold =>
      have hadvances := Run.advances_of_eq htold
      refine ⟨[], hadvances.becomes ws.grammar known, Or.inr ⟨fun htells => ?_, _, rfl⟩⟩
      cases hadvances.told_of_tells htells
  | settled _ => exact ⟨[], .refl run.session, Or.inl ⟨rfl, rfl⟩⟩

section

variable {limits : LimitSettings} (htime : limits.maxFileSeconds = none)
  (hdigest : Set.InjOn Sha256.hexDigest known)

include htime hdigest

/-- Completing a task gives what is due, unless the listener breaks it off. -/
theorem complete_eq_due (listener : Option Listener) (rules : List Rule) (task : FileTask)
    {run : Run}
    (hlimits : run.session.settings.limits = limits)
    (hsound : run.session.cache.Sound ws.grammar known)
    (hknown : ∀ content mtime,
      ws.files.read task.path = .ok (content, mtime) → content ∈ known) :
    let out := task.complete ws listener rules run
    ((·.findings) <$> out.1 = (task.due ws limits rules).result ∧
      Becomes ws.grammar known run.session out.2.session (task.due ws limits rules).incidents) ∨
    ¬Listener.Tells listener ∧ ∃ f, out.1 = .error f := by
  refine complete_induction ws listener rules
    (motive := fun task run out => run.session.settings.limits = limits →
      run.session.cache.Sound ws.grammar known →
      (∀ content mtime, ws.files.read task.path = .ok (content, mtime) → content ∈ known) →
      ((·.findings) <$> out.1 = (task.due ws limits rules).result ∧
        Becomes ws.grammar known run.session out.2.session (task.due ws limits rules).incidents) ∨
      ¬Listener.Tells listener ∧ ∃ f, out.1 = .error f) ?_ ?_ task run hlimits hsound hknown
  · intro task run hsettled _ _ _
    rw [due_of_isSettled ws limits rules hsettled]
    exact Or.inl ⟨rfl, .refl run.session⟩
  · intro path stage run later next out hsteps ih hlimits hsound hknown
    obtain ⟨incidents, hbecomes, hkept⟩ := hsteps.keeps hlimits htime hsound hdigest hknown
    have hthen := ih (by rw [hbecomes.settings, hlimits]) (hbecomes.sound hsound) hknown
    rcases hkept with ⟨hresult, hfiled⟩ | ⟨hsilent, f, hbroken⟩
    · rcases hthen with ⟨hfound, hbecomes'⟩ | hbroken
      · rw [hresult] at hfound
        rw [hfiled]
        exact Or.inl ⟨hfound, hbecomes.trans hbecomes'⟩
      · exact Or.inr hbroken
    · refine Or.inr ⟨hsilent, ?_⟩
      rcases hthen with ⟨hfound, _⟩ | ⟨_, hfailed⟩
      · cases hbroken
        cases hout : out.1 with
        | error g => exact ⟨g, rfl⟩
        | ok result =>
            rw [hout] at hfound
            cases hfound
      · exact hfailed

/-- Completing tasks one after another gives what is due of them, one after another. -/
theorem completeAll_eq_due (listener : Option Listener) (rules : List Rule) (tasks : List FileTask)
    {run : Run}
    (hlimits : run.session.settings.limits = limits)
    (hsound : run.session.cache.Sound ws.grammar known)
    (hreads : ws.ReadsFrom (tasks.map (·.path)) known) :
    let out := completeAll ws listener rules tasks run
    let verdict := Verdict.inTurn (tasks.map (·.due ws limits rules))
    (Listener.Tells listener → List.flatMap (·.findings) <$> out.1 = verdict.result) ∧
      ∀ results, out.1 = .ok results → verdict.result = .ok (results.flatMap (·.findings)) ∧
        Becomes ws.grammar known run.session out.2.session verdict.incidents := by
  induction tasks generalizing run with
  | nil =>
      refine ⟨fun _ => rfl, fun results hok => ?_⟩
      cases hok
      exact ⟨rfl, .refl run.session⟩
  | cons task rest ih =>
      have hfirst := complete_eq_due htime hdigest listener rules task hlimits hsound
        (hreads task.path (by simp))
      simp only [completeAll, List.map_cons]
      cases hcomplete : task.complete ws listener rules run with
      | mk result next =>
          rw [hcomplete] at hfirst
          cases result with
          | error f =>
              dsimp only
              refine ⟨fun htells => ?_, (by rintro _ ⟨⟩)⟩
              rcases hfirst with ⟨hfound, _⟩ | ⟨hsilent, _⟩
              · rw [Verdict.inTurn_cons_of_error hfound.symm]
                rfl
              · exact absurd htells hsilent
          | ok result =>
              dsimp only
              rcases hfirst with ⟨hfound, hbecomes⟩ | ⟨_, f, hfailed⟩
              · obtain ⟨htold, hok⟩ := ih (by rw [hbecomes.settings, hlimits])
                  (hbecomes.sound hsound)
                  fun path hpath => hreads path (List.mem_cons_of_mem task.path hpath)
                rw [Verdict.inTurn_cons_of_ok hfound.symm]
                cases hothers : (completeAll ws listener rules rest next).1 with
                | error f =>
                    refine ⟨fun htells => ?_, (by rintro _ ⟨⟩)⟩
                    have hrest := htold htells
                    rw [hothers] at hrest
                    rw [← hrest]
                    rfl
                | ok others =>
                    obtain ⟨hrest, hbecomes'⟩ := hok others hothers
                    rw [hrest]
                    refine ⟨fun _ => by simp, fun results hresults => ?_⟩
                    cases hresults
                    exact ⟨by simp, hbecomes.trans hbecomes'⟩
              · cases hfailed

end

end FileTask

namespace Pool

variable {ws : Workspace} {known} {limits : LimitSettings} {listener : Option Listener}
  {rules : List Rule} {paths : List String} {s : Session} {pool : Pool}

/-- The account of a pool: what has been found and filed, with what is due, makes up what the
reference gives for all files. Findings stay with their files; the order in which incidents are filed
is free. A listener that fails without a text leaves a broken task in place of the account. -/
structure Accounted (ws : Workspace) (known : Set Bytes) (limits : LimitSettings)
    (listener : Option Listener) (rules : List Rule) (paths : List String) (s : Session)
    (pool : Pool) : Prop where
  named : pool.tasks.map (·.path) = paths
  filed : ∃ incidents, Becomes ws.grammar known s pool.run.session incidents ∧
    (pool.tasks.map (fun task => (task.due ws limits rules).result) =
        paths.map (fun path => (Audit.referenceFile ws limits rules path).result) ∧
      (incidents ++ pool.tasks.flatMap fun task => (task.due ws limits rules).incidents).Perm
        (paths.flatMap fun path => (Audit.referenceFile ws limits rules path).incidents) ∨
    ¬Listener.Tells listener ∧ pool.IsBroken)

theorem start_accounted (paths : List String) (run : Run) :
    Accounted ws known limits listener rules paths run.session (start paths run) where
  named := by simp [start, Function.comp_def]
  filed := ⟨[], .refl run.session, Or.inl
    ⟨by simp [start, FileTask.due, Function.comp_def],
      by simp [start, FileTask.due, List.flatMap_map]⟩⟩

/-- A step keeps the account. -/
theorem Accounted.step (h : Accounted ws known limits listener rules paths s pool)
    (hlimits : s.settings.limits = limits) (htime : limits.maxFileSeconds = none)
    (hsound : s.cache.Sound ws.grammar known) (hdigest : Set.InjOn Sha256.hexDigest known)
    (hreads : ws.ReadsFrom paths known) (place : Nat) :
    Accounted ws known limits listener rules paths s (pool.step ws listener rules place) := by
  rcases pool.step_cases ws listener rules place with
    hsame | ⟨before, task, after, stage, next, htasks, hstep, hsteps⟩
  · rwa [hsame]
  · have hbreaks : pool.IsBroken → (pool.step ws listener rules place).IsBroken :=
      fun hbroken => hbroken.step ws listener rules place
    obtain ⟨incidents, hbecomes, haccount⟩ := h.filed
    have hnamed : task.path ∈ paths := by
      rw [← h.named, htasks]
      simp
    obtain ⟨more, hmore, hkept⟩ := hsteps.keeps (by rw [hbecomes.settings, hlimits]) htime
      (hbecomes.sound hsound) hdigest (hreads task.path hnamed)
    rw [htasks] at haccount
    rw [hstep] at hbreaks ⊢
    refine ⟨by rw [← h.named, htasks]; simp, incidents ++ more, hbecomes.trans hmore, ?_⟩
    rcases haccount with ⟨hresults, hperm⟩ | ⟨hsilent, hbroken⟩
    · rcases hkept with ⟨hresult, hfiled⟩ | ⟨hsilent, f, hbroken⟩
      · refine Or.inl ⟨?_, ?_⟩
        · rw [← hresults]
          simp [hresult]
        · -- what the step files was due at its place and now ends what has been filed
          refine List.Perm.trans ?_ hperm
          have hdue : (FileTask.due ws limits rules task).incidents = _ := hfiled
          simp only [List.flatMap_append, List.flatMap_cons, hdue, List.append_assoc]
          exact (List.perm_append_comm_assoc more _ _).append_left incidents
      · exact Or.inr ⟨hsilent, ⟨task.path, stage⟩, by simp, f, hbroken⟩
    · exact Or.inr ⟨hsilent, hbreaks hbroken⟩

end Pool

namespace Audit

variable {ws : Workspace} {known}

/-- Checking files gives what the reference gives for them one after another. Incidents are filed in
the order of the reference, unless files are checked side by side. -/
theorem processFiles_eq_reference (listener : Option Listener) (rules : List Rule)
    (schedule : List Nat) {paths : List String} (run : Run) {limits : LimitSettings}
    (hlimits : run.session.settings.limits = limits) (htime : limits.maxFileSeconds = none)
    (hsound : run.session.cache.Sound ws.grammar known)
    (hdigest : Set.InjOn Sha256.hexDigest known) (hreads : ws.ReadsFrom paths known) :
    let out := processFiles ws listener rules schedule paths run
    let verdict := referenceRun ws limits rules paths
    (Listener.Tells listener → List.flatMap (·.findings) <$> out.1 = verdict.result) ∧
      ∀ results, out.1 = .ok results → verdict.result = .ok (results.flatMap (·.findings)) ∧
        ∃ incidents, Becomes ws.grammar known run.session out.2.session incidents ∧
          incidents.Perm verdict.incidents ∧
          (isParallel run.session.settings paths = false → incidents = verdict.incidents) := by
  intro out verdict
  have hstart : verdict =
      .inTurn ((Pool.start paths run).tasks.map (·.due ws limits rules)) := by
    simp only [verdict, referenceRun, Pool.start, List.map_map]
    rfl
  cases hparallel : isParallel run.session.settings paths with
  | false =>
      have hout : out = FileTask.completeAll ws listener rules (Pool.start paths run).tasks run := by
        simp only [out, processFiles, hparallel]
        rfl
      obtain ⟨htold, hok⟩ := FileTask.completeAll_eq_due htime hdigest listener rules
        (Pool.start paths run).tasks hlimits hsound
        (by simpa [Pool.start, Function.comp_def] using hreads)
      rw [hout, hstart]
      refine ⟨htold, fun results hresults => ?_⟩
      obtain ⟨hfound, hbecomes⟩ := hok results hresults
      exact ⟨hfound, _, hbecomes, .refl _, fun _ => rfl⟩
  | true =>
      let pool := (Pool.start paths run).follow ws listener rules schedule
      have hout : out = FileTask.completeAll ws listener rules pool.tasks pool.run := by
        simp only [out, processFiles, hparallel]
        rfl
      have haccount : Pool.Accounted ws known limits listener rules paths run.session pool :=
        Pool.follow_induction ws listener rules
          (fun later place h => h.step hlimits htime hsound hdigest hreads place) schedule
          (Pool.start_accounted paths run)
      obtain ⟨filed, hbecomes, hparts⟩ := haccount.filed
      obtain ⟨htold, hok⟩ := FileTask.completeAll_eq_due htime hdigest listener rules pool.tasks
        (by rw [hbecomes.settings, hlimits]) (hbecomes.sound hsound)
        (by rw [haccount.named]; exact hreads)
      rw [hout]
      rcases hparts with ⟨hresults, hperm⟩ | ⟨hsilent, task, htask, f, hbroken⟩
      · have hresult : verdict.result =
            (Verdict.inTurn (pool.tasks.map (·.due ws limits rules))).result := by
          simp only [verdict, referenceRun, Verdict.result_inTurn, List.map_map]
          exact congrArg (fun results => List.flatten <$> results.mapM id) hresults.symm
        refine ⟨fun htells => (htold htells).trans hresult.symm, fun results hcomplete => ?_⟩
        obtain ⟨hfound, hthen⟩ := hok results hcomplete
        refine ⟨hresult.trans hfound, _, hbecomes.trans hthen, ?_, (by rintro ⟨⟩)⟩
        have hverdict : verdict.incidents = _ := Verdict.incidents_inTurn (hresult.trans hfound)
        rw [Verdict.incidents_inTurn hfound, hverdict, List.flatMap_map, List.flatMap_map]
        exact hperm
      · refine ⟨fun htells => absurd htells hsilent, fun results hcomplete => ?_⟩
        have hfound := (hok results hcomplete).1
        obtain ⟨own, hown⟩ := (Verdict.exists_result_inTurn_iff _).mp ⟨_, hfound⟩ _
          (List.mem_map_of_mem htask)
        simp only [FileTask.due, hbroken] at hown
        cases hown

/-- Loading files reports and writes log lines; it does nothing else to a session. -/
theorem buildEntries_keeps (a : Audit) (entries : List Entry) (s : Session) :
    (a.buildEntries entries s).2.settings = s.settings ∧
      (a.buildEntries entries s).2.cache = s.cache := by
  induction entries generalizing s with
  | nil => exact ⟨rfl, rfl⟩
  | cons entry rest ih =>
      simp only [buildEntries]
      cases a.buildEntry entry with
      | ok rule => exact ih s
      | error f =>
          dsimp only
          cases entryReport entry f s.clock with
          | error g => exact ⟨rfl, rfl⟩
          | ok r => exact ih (s.file r)

theorem gather_keeps (a : Audit) (entries : List Entry) (s : Session) :
    (a.gather entries s).2.settings = s.settings ∧ (a.gather entries s).2.cache = s.cache :=
  a.buildEntries_keeps entries s

theorem load_keeps (a : Audit) (s : Session) :
    (a.load s).2.2.settings = s.settings ∧ (a.load s).2.2.cache = s.cache := by
  unfold load
  dsimp only
  split
  · exact ⟨rfl, rfl⟩
  · next entries _ =>
      have hgathered := gather_keeps { a with state := .loading } entries
        (s.logAll (effectiveEntries { a with state := .loading }).2)
      split
      · next hgather =>
          rw [hgather] at hgathered
          exact hgathered
      · next hgather =>
          rw [hgather] at hgathered
          exact hgathered

theorem ensureLoaded_keeps (a : Audit) (s : Session) :
    (a.ensureLoaded s).2.2.settings = s.settings ∧ (a.ensureLoaded s).2.2.cache = s.cache := by
  unfold ensureLoaded
  cases a.loaded with
  | some loaded => exact ⟨rfl, rfl⟩
  | none => exact a.load_keeps s

/-- Once rules are loaded and the files have names, a run is a scan. -/
theorem run_eq_scan (listener : Option Listener) (schedule : List Nat) {a ready : Audit}
    {files : Value} {s begun : Session} {values : List Value} {texts : List String}
    {loaded : LoadedRules} (hfiles : a.pathsOf files = .ok values)
    (hloaded : a.ensureLoaded s = (.ok loaded, ready, begun))
    (htexts : values.mapM Value.written = .ok texts) :
    a.run ws listener schedule files s =
      ready.scan ws listener schedule loaded (firstOccurrences texts) begun := by
  simp only [run, hfiles, hloaded, htexts]

/-- What a scan returns was found in the files, and its session is that of the files but for a line
in the log. -/
theorem scan_result (ws : Workspace) (listener : Option Listener) (schedule : List Nat) (a : Audit)
    (loaded : LoadedRules) (paths : List String) (s : Session) :
    let out := processFiles ws listener loaded.rules schedule paths
      { session := s, total := paths.length * loaded.rules.length }
    let result := a.scan ws listener schedule loaded paths s
    result.1 = (fun results => ⟨results.flatMap (·.findings), out.2.heard⟩) <$> out.1 ∧
      result.2.2.incidents = out.2.session.incidents := by
  simp only [scan]
  cases processFiles ws listener loaded.rules schedule paths
    { session := s, total := paths.length * loaded.rules.length } with
  | mk results run =>
      cases results with
      | error f => exact ⟨rfl, rfl⟩
      | ok results => exact ⟨rfl, rfl⟩

/-- Without a limit on time, a run gives file by file what the reference gives, in the order in
which the files are first named, from any session with a sound cache, whatever that cache and the log
hold, with any number of workers and in any interleaving of their units. It fails where the
reference fails, and with the same failure: where the size of something that is no path is asked for,
and where what a rule fails with cannot be told. It files the incidents of the reference, in the same
order unless files are checked side by side. A listener can break a run off by a failure that has no
text, but it does not change what a run returns. -/
theorem run_eq_reference (listener : Option Listener) (schedule : List Nat) (a : Audit)
    (files : Value) {ready : Audit} {s begun : Session} {values : List Value} {texts : List String}
    {loaded : LoadedRules} (hfiles : a.pathsOf files = .ok values)
    (hloaded : a.ensureLoaded s = (.ok loaded, ready, begun))
    (htexts : values.mapM Value.written = .ok texts)
    (htime : s.settings.limits.maxFileSeconds = none)
    (hsound : s.cache.Sound ws.grammar known) (hdigest : Set.InjOn Sha256.hexDigest known)
    (hreads : ws.ReadsFrom texts known) :
    let paths := texts.reverse.dedup.reverse
    let verdict := referenceRun ws s.settings.limits loaded.rules paths
    let result := a.run ws listener schedule files s
    (Listener.Tells listener → (·.findings) <$> result.1 = verdict.result) ∧
      ∀ outcome, result.1 = .ok outcome → verdict.result = .ok outcome.findings ∧
        ∃ incidents, begun.incidents.Extends result.2.2.incidents incidents ∧
          incidents.Perm verdict.incidents ∧
          (isParallel s.settings paths = false → incidents = verdict.incidents) := by
  intro paths verdict result
  obtain ⟨hsettings, hcache⟩ := a.ensureLoaded_keeps s
  rw [hloaded] at hsettings hcache
  have hread : ws.ReadsFrom paths known := by
    intro path hpath
    have hmem : path ∈ texts := by simpa [paths] using hpath
    exact hreads path hmem
  obtain ⟨htold, hok⟩ := processFiles_eq_reference listener loaded.rules schedule
    { session := begun, total := paths.length * loaded.rules.length }
    (by rw [hsettings]) htime (by rw [hcache]; exact hsound) hdigest hread
  have hrun : result = ready.scan ws listener schedule loaded paths begun := by
    simp only [result, run_eq_scan listener schedule hfiles hloaded htexts]
    rw [firstOccurrences_eq_dedup]
  obtain ⟨hresult, hincidents⟩ := scan_result ws listener schedule ready loaded paths begun
  rw [hrun, hresult, hincidents]
  rw [hsettings] at hok
  constructor
  · intro htells
    rw [← htold htells]
    cases (processFiles ws listener loaded.rules schedule paths
      { session := begun, total := paths.length * loaded.rules.length }).1 <;> rfl
  · intro outcome houtcome
    cases hresults : (processFiles ws listener loaded.rules schedule paths
        { session := begun, total := paths.length * loaded.rules.length }).1 with
    | error f =>
        rw [hresults] at houtcome
        cases houtcome
    | ok results =>
        rw [hresults] at houtcome
        cases houtcome
        obtain ⟨hfound, incidents, hbecomes, hperm, hordered⟩ := hok results hresults
        exact ⟨hfound, incidents, hbecomes.filed, hperm, hordered⟩

end Audit

/-- Two files, of which the blank grammar finds only the first clean. -/
def Workspace.cleanAndFaulty : Workspace where
  files := Files.write (Files.write {} "clean.php" (.regular [] 5 true true)) "faulty.php"
    (.regular [0] 5 true true)
  grammar := .blank

theorem Workspace.cleanAndFaulty_readsFrom {paths : List String}
    (h : paths ⊆ ["clean.php", "faulty.php", "a\x00b.php"]) :
    cleanAndFaulty.ReadsFrom paths {[], [0]} := by
  have hclean : cleanAndFaulty.files.read "clean.php" = .ok ([], 5) := rfl
  have hfaulty : cleanAndFaulty.files.read "faulty.php" = .ok ([0], 5) := rfl
  have habsent : cleanAndFaulty.files.read "a\x00b.php" = .error (.missingFile "a\x00b.php") := rfl
  intro path hpath content mtime hread
  have hnamed := h hpath
  simp only [List.mem_cons, List.not_mem_nil, or_false] at hnamed
  rcases hnamed with rfl | rfl | rfl
  · rw [hclean] at hread
    cases hread
    exact Or.inl rfl
  · rw [hfaulty] at hread
    cases hread
    exact Or.inr rfl
  · rw [habsent] at hread
    cases hread

/-- A node on the first line, and its children with their fields. -/
def Node.onFirstLine (kind : String) (start stop : Nat) (children : List (Node × Option String)) :
    Node :=
  ⟨kind, start, stop, 1, 1, children.map (·.1), children.map (·.2), false, false⟩

def Utf8.ofAscii (text : String) : Bytes := text.toList.map Char.toUInt8

/-- A grammar that takes every content for one numeral. -/
def Grammar.numeral : Grammar where
  read content :=
    ⟨⟨Kind.integer, none, 0, content.length, 0, 0, true, false, false, []⟩, false⟩
  seconds _ := 0.5

def Grammar.numeralTree (content : Bytes) : SyntaxTree :=
  ⟨⟨Kind.integer, 0, content.length, 1, 1, [], [], false, false⟩, content⟩

theorem Grammar.fresh_numeral (content : Bytes) :
    numeral.fresh content = .ok (numeralTree content) := by
  simp [fresh, numeral, Reading.parse, RawNode.convert, RawNode.descend, RawNode.climb,
    Cursor.firstChild?, Cursor.onRoot, Frame.finish, numeralTree, Except.mapError]

/-- A rule with a finding for every file that has a tree. -/
def Rule.presence : Rule where
  typeName := "PresenceRule"
  classPath := "PresenceRule"
  name := "Presence"
  description := Rule.defaultDescription
  category := .text "style"
  severity := .text "info"
  tags := .tuple []
  enabledByDefault := .bool true
  version := Rule.defaultVersion
  author := .text Rule.defaultAuthor
  declared := []
  chosen := []
  appliesTo _ := .ok true
  body := .tree fun _ path => {
    steps := [.emit (.finding {
      file := path
      line := 1
      message := .text "present"
      badCode := Finding.notAvailable
      suggestedFix := Finding.notAvailable
      severity := .info
      category := "style"
      rule := .text "PresenceRule"
      tags := []
      metadata := [] })] }

/-- The rule finds something in the one file and reports the fault of the other. -/
theorem Rule.presence_reference : ∃ finding incident, finding.file = "clean.php" ∧
    presence.reference .cleanAndFaulty "clean.php" = ⟨.ok [finding], []⟩ ∧
    presence.reference .cleanAndFaulty "faulty.php" = ⟨.ok [], [incident]⟩ := by
  have hread : Workspace.cleanAndFaulty.files.read "faulty.php" = .ok ([0], 5) := rfl
  have hfault : ∃ f, Workspace.cleanAndFaulty.grammar.fresh [0] = .error f := ⟨_, rfl⟩
  obtain ⟨f, hfresh⟩ := hfault
  obtain ⟨r, _, hfaulty⟩ := Audit.reference_of_fault (show presence.body = .tree _ from rfl) rfl rfl
    hread hfresh
  refine ⟨_, r.incident, ?_, rfl, hfaulty⟩
  rfl

namespace Session

/-- A session with room for one tree and none in its cache. -/
def cold : Session where
  clock := 1
  settings := {}
  cache := { capacity := 1, ttl := .int 60 }

theorem cold_sound : cold.cache.Sound .blank {[], [0]} := by
  intro entry hentry
  cases hentry

/-- The same session once it has seen the clean file. -/
def warm : Session := (cold.fetch .blank "clean.php" [] (.int 5)).2

theorem cold_becomes_warm : Becomes .blank {[], [0]} cold warm [] := by
  have hfetch := fetch_eq_fresh .blank {[], [0]} cold_sound Sha256.injOn_hexDigest_pair
    "clean.php" (Or.inl rfl) (.int 5)
  exact hfetch.2

end Session

namespace Audit

/-- An audit that has loaded one rule. -/
def presenceOnly : Audit := { loaded := some ⟨[.presence], 0, 0⟩ }

/-- From a warm cache, the tree of one file is found and the fault of the other is reported once,
though the file is named twice. A text that is no path breaks the run off. -/
theorem warm_run_eq_reference :
    (∃ outcome after ended,
      presenceOnly.run .cleanAndFaulty none []
        (.texts ["faulty.php", "clean.php", "faulty.php"]) .warm = (.ok outcome, after, ended) ∧
      outcome.findings.map (·.file) = ["clean.php"] ∧
      Session.warm.incidents.Extends ended.incidents
        (Rule.presence.reference .cleanAndFaulty "faulty.php").incidents) ∧
    (presenceOnly.run .cleanAndFaulty none [] (.texts ["clean.php", "a\x00b.php"]) .warm).1 =
      .error .notPath := by
  have hbecomes := Session.cold_becomes_warm
  have hsettings : Session.warm.settings = {} := by
    rw [hbecomes.settings]
    rfl
  have htime : Session.warm.settings.limits.maxFileSeconds = none := by
    rw [hsettings]
  have hsound := hbecomes.sound Session.cold_sound
  constructor
  · obtain ⟨hreturns, hok⟩ := presenceOnly.run_eq_reference none []
      (.texts ["faulty.php", "clean.php", "faulty.php"]) rfl rfl rfl htime hsound
      Sha256.injOn_hexDigest_pair (Workspace.cleanAndFaulty_readsFrom (by decide))
    have hpaths : [(Value.text "faulty.php").display, (Value.text "clean.php").display,
        (Value.text "faulty.php").display].reverse.reverse.dedup.reverse =
          ["faulty.php", "clean.php"] := by decide
    rw [hsettings, hpaths] at hreturns hok
    obtain ⟨finding, incident, hfile, hclean, hfaulty⟩ := Rule.presence_reference
    have hverdict : referenceRun .cleanAndFaulty {} [.presence] ["faulty.php", "clean.php"] =
        ⟨.ok [finding], [incident]⟩ := by
      have hunskipped : ["faulty.php", "clean.php"].map
          (referenceFile .cleanAndFaulty {} [.presence]) = ["faulty.php", "clean.php"].map
            fun path => .inTurn [Rule.presence.reference .cleanAndFaulty path] := rfl
      rw [referenceRun, hunskipped]
      simp [hclean, hfaulty, Verdict.inTurn, Verdict.andThen]
    have hreturned := hreturns Listener.tells_none
    rw [hverdict] at hreturned hok
    cases hrun : presenceOnly.run .cleanAndFaulty none []
        (.texts ["faulty.php", "clean.php", "faulty.php"]) .warm with
    | mk result rest =>
        rw [hrun] at hreturned hok
        cases result with
        | error f => cases hreturned
        | ok outcome =>
            obtain ⟨hfound, incidents, hfiled, _, hordered⟩ := hok outcome rfl
            rw [hordered rfl] at hfiled
            refine ⟨outcome, rest.1, rest.2, rfl, ?_, by rw [hfaulty]; exact hfiled⟩
            rw [← Except.ok.inj hfound, List.map_cons, hfile]
            rfl
  · have hrun := (presenceOnly.run_eq_reference none []
      (.texts ["clean.php", "a\x00b.php"]) rfl rfl rfl htime hsound
      Sha256.injOn_hexDigest_pair (Workspace.cleanAndFaulty_readsFrom (by decide))).1
        Listener.tells_none
    rw [hsettings] at hrun
    cases hresult : (presenceOnly.run .cleanAndFaulty none []
        (.texts ["clean.php", "a\x00b.php"]) .warm).1 with
    | error f =>
        rw [hresult] at hrun
        cases hrun
        rfl
    | ok outcome =>
        rw [hresult] at hrun
        cases hrun

end Audit

end PhpAudit
