import PhpAudit.Proofs.BundledChecks
import PhpAudit.Proofs.RunFailures

/-!
One parse serves all rules of a file. A rule touches the cache by one fetch at most, and only if it
is a tree rule that applies; whatever else it does passes the cache by. Of the rules that fetch, the
first one parses and the others find its tree, however small the cache is, since what was stored
last is dropped last. A fault is never stored, so that every one of them parses and reports it anew.
A file that is too large is passed over before any of this. The rules that are run are all rules,
unless the check of the file breaks off at a failure that cannot be told.
-/

namespace PhpAudit

namespace IncidentLog

/-- `after` is `before` with further incidents filed; those about parsing are, but for their dates,
the given ones. -/
def Reports (before after : IncidentLog) (parsing : List Incident) : Prop :=
  ∃ filed : List Incident, after = filed.foldl add before ∧
    (filed.filter fun i => i.topic == .parsing).map Incident.undated =
      parsing.map Incident.undated

variable {log mid after : IncidentLog} {first second : List Incident}

theorem Reports.refl (log : IncidentLog) : log.Reports log [] := ⟨[], rfl, rfl⟩

theorem Reports.trans (h : log.Reports mid first) (h' : mid.Reports after second) :
    log.Reports after (first ++ second) := by
  obtain ⟨one, hone, hfirst⟩ := h
  obtain ⟨two, htwo, hsecond⟩ := h'
  refine ⟨one ++ two, ?_, ?_⟩
  · rw [htwo, hone, List.foldl_append]
  · rw [List.filter_append, List.map_append, List.map_append, hfirst, hsecond]

theorem Reports.of_other {i : Incident} (h : i.topic ≠ .parsing) : log.Reports (log.add i) [] :=
  ⟨[i], rfl, by simp [h]⟩

theorem Reports.of_parsing {i j : Incident} (htopic : i.topic = .parsing)
    (h : i.undated = j.undated) : log.Reports (log.add i) [j] :=
  ⟨[i], rfl, by simp [htopic, h]⟩

end IncidentLog

/-- From one session to another neither cache nor settings change, and nothing is reported about
parsing. -/
structure Session.Idles (s t : Session) : Prop where
  settings : t.settings = s.settings
  cache : t.cache = s.cache
  reports : s.incidents.Reports t.incidents []

namespace Session

variable {s t u : Session}

theorem Idles.of_eq (hsettings : t.settings = s.settings) (hcache : t.cache = s.cache)
    (hincidents : t.incidents = s.incidents) : s.Idles t :=
  ⟨hsettings, hcache, by rw [hincidents]; exact .refl _⟩

theorem Idles.refl (s : Session) : s.Idles s := .of_eq rfl rfl rfl

theorem Idles.trans (h : s.Idles t) (h' : t.Idles u) : s.Idles u where
  settings := h'.settings.trans h.settings
  cache := h'.cache.trans h.cache
  reports := h.reports.trans h'.reports

theorem Idles.file (s : Session) {r : Report} (h : r.incident.topic ≠ .parsing) :
    s.Idles (s.file r) :=
  ⟨rfl, rfl, .of_other h⟩

theorem Idles.submit {α : Type} {needs : List Need} {topic : Topic}
    {report : Float → Except Failure Report} (htells : Report.Tells needs topic report)
    (htopic : topic ≠ .parsing) (now : Float) (value : α) (s : Session) :
    s.Idles (s.submit (report now) value).2 := by
  rcases htells with ⟨f, _, hreport⟩ | ⟨_, _, _, _, _, _, _, _, hreport⟩
  · rw [hreport]
    exact .refl s
  · rw [hreport]
    exact .file s htopic

/-- A report about parsing is filed as it would have been at any other time. -/
theorem submit_reports {α : Type} {needs : List Need} {report : Float → Except Failure Report}
    (htells : Report.Tells needs .parsing report) {r : Report} (hreport : report 0 = .ok r)
    (value : α) (s : Session) :
    s.incidents.Reports (s.submit (report s.clock) value).2.incidents [r.incident] := by
  rcases htells with
    ⟨f, _, hother⟩ | ⟨_, file, rule, line, message, fix, shownMessage, shownFix, hsame⟩
  · cases (hother 0).symm.trans hreport
  · cases (hsame 0).symm.trans hreport
    let filed := Report.make .parsing file rule line s.clock message fix shownMessage shownFix
    rw [hsame]
    exact .of_parsing (i := filed.incident) rfl rfl

theorem submit_cache {α : Type} (report : Except Failure Report) (value : α) (s : Session) :
    (s.submit report value).2.cache = s.cache := by
  cases report <;> rfl

end Session

namespace Rule

theorem runSteps_idles (steps : List Step) (s : Session) : s.Idles (runSteps steps s).2 := by
  induction steps generalizing s with
  | nil => exact .refl s
  | cons step rest ih =>
      cases step with
      | wait seconds =>
          have hwaited : s.Idles (s.wait seconds) := .of_eq rfl rfl rfl
          exact hwaited.trans (ih (s.wait seconds))
      | fail f => exact .refl s
      | emit item => exact ih s

theorem runScript_idles (script : Script) (s : Session) : s.Idles (runScript script s).2 := by
  unfold runScript
  cases script.reply with
  | streamed => exact .refl s
  | lazy => exact .refl s
  | collected => exact runSteps_idles script.steps s
  | fixed v => exact runSteps_idles script.steps s

theorem warn_idles (rule : Rule) (path : String) (reason : Rejection) (s : Session) :
    s.Idles (rule.warn path reason s) :=
  .file s (by simp [Report.validationOf, Report.make])

theorem normaliseSteps_idles (rule : Rule) (path : String) (steps : List Step) (s : Session) :
    s.Idles (rule.normaliseSteps path steps s).2 := by
  induction steps generalizing s with
  | nil => exact .refl s
  | cons step rest ih =>
      cases step with
      | wait seconds =>
          have hwaited : s.Idles (s.wait seconds) := .of_eq rfl rfl rfl
          exact hwaited.trans (ih (s.wait seconds))
      | fail f => exact .refl s
      | emit item =>
          simp only [normaliseSteps]
          split
          · exact .refl s
          · exact ih s
          · exact (rule.warn_idles path _ s).trans (ih _)

theorem normalise_idles (rule : Rule) (path : String) (answer : Answer) (s : Session) :
    s.Idles (rule.normalise path answer s).2 := by
  unfold normalise
  split
  · exact rule.normaliseSteps_idles path _ s
  · exact rule.normaliseSteps_idles path _ s
  · exact .refl s
  · split
    · exact rule.normaliseSteps_idles path _ s
    · exact rule.warn_idles path _ s

theorem runNormalised_idles (rule : Rule) (path : String) (script : Script) (s : Session) :
    s.Idles (rule.runNormalised path script s).2 := by
  have hscript := runScript_idles script s
  unfold runNormalised
  cases hrun : runScript script s with
  | mk result t =>
      rw [hrun] at hscript
      cases result with
      | error f => exact hscript
      | ok answer => exact hscript.trans (rule.normalise_idles path answer t)

/-- Inspecting a tree may report anything, but it needs no further tree. -/
theorem inspectTree_keeps (rule : Rule) (path : String) (script : Script) (s : Session) :
    (rule.inspectTree path script s).2.settings = s.settings ∧
      (rule.inspectTree path script s).2.cache = s.cache := by
  have hperform := rule.runNormalised_idles path (eager script) s
  rw [← perform_eq_runNormalised] at hperform
  simp only [inspectTree]
  cases hrun : rule.perform path script s with
  | mk result t =>
      rw [hrun] at hperform
      cases result with
      | error f =>
          exact ⟨(t.submit_settings _ _).trans hperform.settings,
            (t.submit_cache _ _).trans hperform.cache⟩
      | ok findings =>
          simp only [warnIfSlow]
          split
          · exact ⟨hperform.settings, hperform.cache⟩
          · exact ⟨hperform.settings, hperform.cache⟩

/-- What a rule files about a content that cannot be parsed. -/
def Blames (path : String) (f : Failure) (rule : Rule) (i : Incident) : Prop :=
  ∃ r, Report.parsing (.text path) f (.text rule.typeName) 0 = .ok r ∧ r.incident = i

/-- The check of a file leaves the cache as its fetch does. -/
theorem checkFile_of_read {ws : Workspace} (rule : Rule) (script : SyntaxTree → String → Script)
    {path : String} {content : Bytes} {mtime : Int}
    (hread : ws.files.read path = .ok (content, mtime)) (s : Session) :
    let fetched := s.fetch ws.grammar path content (.int mtime)
    (rule.checkFile ws script path s).2.settings = s.settings ∧
      (rule.checkFile ws script path s).2.cache = fetched.2.cache ∧
      ∀ f, fetched.1 = .error f → ∃ i, Blames path f rule i ∧
        s.incidents.Reports (rule.checkFile ws script path s).2.incidents [i] := by
  intro fetched
  obtain ⟨hsettings, hincidents⟩ := s.fetch_keeps ws.grammar path content (.int mtime)
  refine ⟨rule.checkFile_settings ws script path s, ?_⟩
  simp only [checkFile, hread, fetched]
  cases hfetched : s.fetch ws.grammar path content (.int mtime) with
  | mk result t =>
      rw [hfetched] at hsettings hincidents
      cases result with
      | error f =>
          refine ⟨t.submit_cache _ _, ?_⟩
          rintro _ ⟨⟩
          obtain ⟨fault, rfl⟩ := Session.exists_fault_of_fetch (congrArg Prod.fst hfetched)
          obtain ⟨r, hreport⟩ := Report.exists_parsing (.text rule.typeName) path fault.message
            fault.line 0
          refine ⟨r.incident, ⟨r, hreport, rfl⟩, ?_⟩
          rw [← hincidents]
          exact Session.submit_reports (Report.tells_parsing (.text path) fault.toFailure
            (.text rule.typeName)) hreport [] t
      | ok tree =>
          exact ⟨(rule.inspectTree_keeps path (script tree path)
            (t.time rule.typeName .parse (t.clock - s.clock))).2, (by rintro _ ⟨⟩)⟩

/-- A tree rule that applies to the path. -/
def inspects (rule : Rule) (path : String) : Bool :=
  match rule.body, rule.appliesTo path with
  | .tree _, .ok applies => applies
  | _, _ => false

theorem inspects_iff (rule : Rule) (path : String) : rule.inspects path = true ↔
    (∃ script, rule.body = .tree script) ∧ rule.appliesTo path = .ok true := by
  unfold inspects
  cases rule.body with
  | direct script => simp
  | tree script => cases rule.appliesTo path <;> simp

end Rule

namespace Session

variable {g : Grammar} {s : Session} (path : String) {content : Bytes} {mtime : Value}

/-- The first fetch of a content without faults parses it, and stores its tree. -/
theorem fetch_of_absent {tree : SyntaxTree}
    (habsent : TreeCache.fingerprint content mtime ∉ s.cache.keys)
    (hfresh : g.fresh content = .ok tree) :
    (s.fetch g path content mtime).2.cache.misses = s.cache.misses + 1 ∧
      (s.fetch g path content mtime).2.cache.hits = s.cache.hits ∧
      TreeCache.fingerprint content mtime ∈ (s.fetch g path content mtime).2.cache.keys := by
  rcases fetch_cases g path content mtime s with ⟨entry, hfind, _, _⟩ | ⟨_, hfetch⟩
  · exact absurd (TreeCache.mem_keys_of_find? hfind) habsent
  · rcases parseAndStore_cases g path (TreeCache.fingerprint content mtime) content
      { s with cache := s.cache.missed (TreeCache.fingerprint content mtime) } with
      ⟨f, hfault, _⟩ | ⟨tree, lines, _, hparse⟩
    · rw [hfresh] at hfault
      cases hfault
    · rw [hfetch, hparse]
      obtain ⟨entry, _, _, _, hstore⟩ := TreeCache.store_entries
        (s.cache.missed (TreeCache.fingerprint content mtime))
        (TreeCache.fingerprint content mtime) tree (s.clock + g.seconds content)
      refine ⟨?_, ?_, ?_⟩
      · rw [hstore]
        rfl
      · rw [hstore]
        rfl
      · rw [TreeCache.keys_store]
        simp

/-- A fault is found anew by every fetch, and leaves nothing in the cache. -/
theorem fetch_of_fault {f : Failure}
    (habsent : TreeCache.fingerprint content mtime ∉ s.cache.keys)
    (hfresh : g.fresh content = .error f) :
    (s.fetch g path content mtime).1 = .error f ∧
      (s.fetch g path content mtime).2.cache =
        { s.cache with misses := s.cache.misses + 1 } := by
  rcases fetch_cases g path content mtime s with ⟨entry, hfind, _, _⟩ | ⟨_, hfetch⟩
  · exact absurd (TreeCache.mem_keys_of_find? hfind) habsent
  · rcases parseAndStore_cases g path (TreeCache.fingerprint content mtime) content
      { s with cache := s.cache.missed (TreeCache.fingerprint content mtime) } with
      ⟨e, hfault, hparse⟩ | ⟨tree, lines, hparsed, _⟩
    · rw [hfresh] at hfault
      cases hfault
      rw [hfetch, hparse]
      refine ⟨rfl, ?_⟩
      simp only [wait, TreeCache.missed, TreeCache.without_of_notMem habsent]
    · rw [hfresh] at hparsed
      cases hparsed

/-- A tree that is there and has not expired is found. -/
theorem fetch_of_live (hpresent : TreeCache.fingerprint content mtime ∈ s.cache.keys)
    (hlive : ∀ entry, s.cache.find? (TreeCache.fingerprint content mtime) = some entry →
      s.cache.isExpired entry s.clock = false) :
    (s.fetch g path content mtime).2.cache.misses = s.cache.misses ∧
      (s.fetch g path content mtime).2.cache.hits = s.cache.hits + 1 ∧
      TreeCache.fingerprint content mtime ∈ (s.fetch g path content mtime).2.cache.keys := by
  rcases fetch_cases g path content mtime s with ⟨entry, hfind, _, hfetch⟩ | ⟨hexpired, _⟩
  · rw [hfetch]
    refine ⟨rfl, rfl, ?_⟩
    rw [TreeCache.keys_touched, (TreeCache.of_find?_eq_some hfind).2]
    simp
  · cases hfind : s.cache.find? (TreeCache.fingerprint content mtime) with
    | none => exact absurd hpresent ((TreeCache.find?_eq_none_iff _ _).mp hfind)
    | some entry =>
        have hcontrary := hexpired entry hfind
        rw [hlive entry hfind] at hcontrary
        cases hcontrary

end Session

theorem Run.Advances.idles {listener : Option Listener} {message : String}
    {told : Except Failure Unit} {run next : Run} (h : Advances listener message run told next) :
    run.session.Idles next.session := by
  obtain ⟨journal, hsession⟩ := h.session
  rw [hsession]
  exact .of_eq rfl rfl rfl

theorem Run.skip_idles (listener : Option Listener) (path : String) (rules : List Rule)
    (run : Run) : run.session.Idles (run.skip listener path rules).2.session := by
  induction rules generalizing run with
  | nil => exact .refl run.session
  | cons rule rest ih =>
      have hfirst := (run.advance_advances listener (skippedMessage path rule)).idles
      rw [skip]
      cases hadvance : run.advance listener (skippedMessage path rule) with
      | mk told next =>
          rw [hadvance] at hfirst
          cases told with
          | error f => exact hfirst
          | ok => exact hfirst.trans (ih next)

namespace Audit

variable {ws : Workspace} {rule : Rule} {path : String} {content : Bytes} {mtime : Int}

/-- A failure of a rule is reported, but not as one about parsing. -/
theorem outcome_idles_runRule (ws : Workspace) (rule : Rule) (path : String) (s : Session) :
    (outcome ws rule path s).2.Idles (runRule ws rule path s).2 := by
  rw [runRule_eq_outcome]
  cases outcome ws rule path s with
  | mk result t =>
      cases result with
      | ok findings => exact .refl t
      | error f =>
          exact .submit (Report.tells_ruleProcessing (.text path) f (.text rule.typeName) "")
            (by rintro ⟨⟩) t.clock [] t

/-- A rule that does not inspect the file leaves the cache alone. -/
theorem runRule_idles (h : rule.inspects path = false) (s : Session) :
    s.Idles (runRule ws rule path s).2 := by
  refine .trans ?_ (outcome_idles_runRule ws rule path s)
  cases hbody : rule.body with
  | direct script =>
      rw [outcome_direct hbody]
      exact rule.runNormalised_idles path (script path) s
  | tree script =>
      cases happlies : rule.appliesTo path with
      | error f =>
          simp only [outcome, Rule.check, hbody, Rule.checkTree, happlies]
          exact .refl s
      | ok applies =>
          have hpassed : applies = false := by
            rw [← h, Rule.inspects, hbody, happlies]
          subst hpassed
          have hcheck : rule.checkTree ws script path s = (.ok [], s) :=
            rule.checkTree_of_passed script happlies rfl
          simp only [outcome, Rule.check, hbody, hcheck]
          exact rule.normalise_idles path _ s

/-- A rule that inspects the file does to the cache what its fetch does, and reports the fault if
there is one. -/
theorem runRule_of_inspects (h : rule.inspects path = true)
    (hreadable : ws.files.isReadable path = true)
    (hread : ws.files.read path = .ok (content, mtime)) (s : Session) :
    let fetched := s.fetch ws.grammar path content (.int mtime)
    (runRule ws rule path s).2.settings = s.settings ∧
      (runRule ws rule path s).2.cache = fetched.2.cache ∧
      ∀ f, fetched.1 = .error f → ∃ i, Rule.Blames path f rule i ∧
        s.incidents.Reports (runRule ws rule path s).2.incidents [i] := by
  intro fetched
  obtain ⟨⟨script, hbody⟩, happlies⟩ := (rule.inspects_iff path).mp h
  have hlooked : (true && ws.files.isReadable path) = true := hreadable
  -- after the file has been checked come a sample, a line in the log and the report of a failure
  have hchecked : (rule.checkFile ws script path s).2.Idles (outcome ws rule path s).2 := by
    simp only [outcome, Rule.check, hbody, Rule.checkTree, happlies, hlooked, if_true]
    cases rule.checkFile ws script path s with
    | mk result t =>
        cases result with
        | error f => exact .of_eq rfl rfl rfl
        | ok findings =>
            have htimed : t.Idles
                ((t.time rule.typeName .total (t.clock - s.clock)).log (rule.foundLine path findings)) :=
              .of_eq rfl rfl rfl
            exact htimed.trans (rule.normalise_idles path _ _)
  have hthen := hchecked.trans (outcome_idles_runRule ws rule path s)
  obtain ⟨hsettings, hcache, hreports⟩ := rule.checkFile_of_read script hread s
  refine ⟨hthen.settings.trans hsettings, hthen.cache.trans hcache, fun f hfault => ?_⟩
  obtain ⟨i, hblames, hreported⟩ := hreports f hfault
  exact ⟨i, hblames, hreported.trans hthen.reports⟩

/-- After a rule comes only the count of its unit. -/
theorem runRule_idles_runUnit (ws : Workspace) (listener : Option Listener) (path : String)
    (rule : Rule) (run : Run) :
    (runRule ws rule path run.session).2.Idles (runUnit ws listener path rule run).2.session := by
  rcases runUnit_cases ws listener path rule run with
    ⟨f, session, hfailed, hrun⟩ | ⟨found, session, told, last, hfound, hadvances, hrun⟩
  · rw [hfailed, hrun]
    exact .refl session
  · rw [hfound, hrun]
    exact hadvances.idles

/-- The rules that are run on a file if there is no limit: all of them, up to a unit that fails. -/
def reached (ws : Workspace) (listener : Option Listener) (path : String) :
    List Rule → Run → List Rule
  | [], _ => []
  | rule :: rest, run =>
      rule :: match runUnit ws listener path rule run with
        | (.error _, _) => []
        | (.ok _, next) => reached ws listener path rest next

/-- No rule that looks the tree up finds it expired. -/
def NeverExpired (ws : Workspace) (listener : Option Listener) (path key : String) :
    List Rule → Run → Prop
  | [], _ => True
  | rule :: rest, run =>
      (rule.inspects path = true → ∀ entry, run.session.cache.find? key = some entry →
        run.session.cache.isExpired entry run.session.clock = false) ∧
      match runUnit ws listener path rule run with
      | (.error _, _) => True
      | (.ok _, next) => NeverExpired ws listener path key rest next

section

variable {listener : Option Listener} {rules : List Rule} {run : Run}

theorem reached_isPrefix (rules : List Rule) (run : Run) :
    reached ws listener path rules run <+: rules := by
  induction rules generalizing run with
  | nil => exact List.prefix_rfl
  | cons rule rest ih =>
      rw [reached, List.prefix_cons_inj]
      split
      · exact List.nil_prefix
      · exact ih _

/-- All rules are run if the file is checked to its end. -/
theorem reached_of_runRules {start : Float} {isFirst : Bool} {found : List Finding}
    (htime : run.session.settings.limits.maxFileSeconds = none)
    (h : (runRules ws listener path start isFirst rules run).1 = .ok found) :
    reached ws listener path rules run = rules := by
  induction rules generalizing run isFirst found with
  | nil => rfl
  | cons rule rest ih =>
      have hsettings := runUnit_settings ws listener path rule run
      simp only [runRules, isOverdue_of_unlimited htime, Bool.and_false, Bool.false_eq_true,
        if_false] at h
      rw [reached]
      cases hunit : runUnit ws listener path rule run with
      | mk result next =>
          rw [hunit] at hsettings h
          cases result with
          | error f => cases h
          | ok new =>
              cases hrest : (runRules ws listener path start false rest next).1 with
              | error f =>
                  simp only [hrest] at h
                  cases h
              | ok others => simp only [ih (by rw [hsettings]; exact htime) hrest]

/-- A tree rule that can tell whether it applies, and whatever it fails with, breaks off no run. -/
theorem untold?_of_tree {script : SyntaxTree → String → Script} (hbody : rule.body = .tree script)
    {applies : Bool} (happlies : rule.appliesTo path = .ok applies)
    (htold : ∀ tree, Failure.OnlyTold (rule.judgeScript path (Rule.eager (script tree path))).1)
    (ws : Workspace) (s : Session) : untold? ws rule path s = none := by
  obtain ⟨findings, t, hcheck⟩ := Rule.check_of_applicable hbody htold happlies ws s
  simp only [untold?, outcome, hcheck, Rule.normalise, rule.normaliseSteps_findings]
  rfl

/-- All rules are run if whatever they and the listener fail with can be told. -/
theorem reached_of_told (htells : Listener.Tells listener)
    (htold : ∀ rule ∈ rules, ∀ s, untold? ws rule path s = none) :
    reached ws listener path rules run = rules := by
  induction rules generalizing run with
  | nil => rfl
  | cons rule rest ih =>
      obtain ⟨hrule, hrest⟩ := List.forall_mem_cons.mp htold
      have hunit := of?_runUnit ws listener path rule run
      rw [hrule, htells.untold?_eq_none, Option.none_or] at hunit
      rw [reached]
      cases hrun : runUnit ws listener path rule run with
      | mk result next =>
          rw [hrun] at hunit
          cases result with
          | error f => cases hunit
          | ok found => simp only [ih hrest]

end

/-- What the rules of a file leave, unit by unit: nothing happens after the last rule, a unit that
fails is the last one, and after any other unit the rest follows. -/
theorem runRules_induction {listener : Option Listener} {start : Float}
    {motive : List Rule → List Rule → Run → Run → Prop}
    (hnil : ∀ run, motive [] [] run run)
    (hlast : ∀ rule rest run f next, runUnit ws listener path rule run = (.error f, next) →
      motive (rule :: rest) [rule] run next)
    (hcons : ∀ rule rest run found next ran ended,
      runUnit ws listener path rule run = (.ok found, next) → motive rest ran next ended →
        motive (rule :: rest) (rule :: ran) run ended)
    (rules : List Rule) (isFirst : Bool) (run : Run)
    (htime : run.session.settings.limits.maxFileSeconds = none) :
    motive rules (reached ws listener path rules run) run
      (runRules ws listener path start isFirst rules run).2 := by
  induction rules generalizing isFirst run with
  | nil => exact hnil run
  | cons rule rest ih =>
      have hsettings := runUnit_settings ws listener path rule run
      simp only [runRules, isOverdue_of_unlimited htime, Bool.and_false, Bool.false_eq_true,
        if_false, reached]
      cases hunit : runUnit ws listener path rule run with
      | mk result next =>
          rw [hunit] at hsettings
          cases result with
          | error f => exact hlast rule rest run f next hunit
          | ok found =>
              exact hcons rule rest run found next _ _ hunit
                (ih false next (by rw [hsettings]; exact htime))

section

variable {listener : Option Listener} {rules : List Rule} {run next : Run}
  {result : Except Failure (List Finding)}

theorem runUnit_idles (h : rule.inspects path = false)
    (hunit : runUnit ws listener path rule run = (result, next)) :
    run.session.Idles next.session := by
  have hthen := runRule_idles_runUnit ws listener path rule run
  rw [hunit] at hthen
  exact (runRule_idles h run.session).trans hthen

theorem runUnit_of_inspects (h : rule.inspects path = true)
    (hreadable : ws.files.isReadable path = true)
    (hread : ws.files.read path = .ok (content, mtime))
    (hunit : runUnit ws listener path rule run = (result, next)) :
    let fetched := run.session.fetch ws.grammar path content (.int mtime)
    next.session.cache = fetched.2.cache ∧
      ∀ f, fetched.1 = .error f → ∃ i, Rule.Blames path f rule i ∧
        run.session.incidents.Reports next.session.incidents [i] := by
  intro fetched
  have hthen := runRule_idles_runUnit ws listener path rule run
  rw [hunit] at hthen
  obtain ⟨_, hcache, hreports⟩ := runRule_of_inspects h hreadable hread run.session
  refine ⟨hthen.cache.trans hcache, fun f hfault => ?_⟩
  obtain ⟨i, hblames, hreported⟩ := hreports f hfault
  exact ⟨i, hblames, hreported.trans hthen.reports⟩

end

/-- How the lookups of a tree end that rules make one after another: once it is there each of them
hits, and before that the first one misses. -/
structure Shares (path key : String) (ran : List Rule) (before after : TreeCache) : Prop where
  present : key ∈ before.keys → after.misses = before.misses ∧
    after.hits = before.hits + ran.countP (·.inspects path)
  absent : key ∉ before.keys → 0 < ran.countP (·.inspects path) →
    after.misses = before.misses + 1 ∧
      after.hits = before.hits + (ran.countP (·.inspects path) - 1)

theorem Shares.nil (path key : String) (cache : TreeCache) : Shares path key [] cache cache :=
  ⟨fun _ => ⟨rfl, rfl⟩, fun _ h => absurd h (Nat.lt_irrefl 0)⟩

/-- All rules that ask for the tree of a faulty content miss and report the fault, and the entries
stay as they are. -/
structure Fails (path : String) (f : Failure) (ran : List Rule) (s t : Session) : Prop where
  cache : t.cache = { s.cache with misses := s.cache.misses + ran.countP (·.inspects path) }
  reports : ∃ incidents, List.Forall₂ (Rule.Blames path f) (ran.filter (·.inspects path)) incidents ∧
    s.incidents.Reports t.incidents incidents

theorem Fails.nil (path : String) (f : Failure) (s : Session) : Fails path f [] s s :=
  ⟨rfl, [], .nil, .refl _⟩

section

variable {listener : Option Listener} {rules ran : List Rule} {run next ended : Run}
  {result : Except Failure (List Finding)}

theorem Shares.cons (hreadable : ws.files.isReadable path = true)
    (hread : ws.files.read path = .ok (content, mtime)) {tree : SyntaxTree}
    (hfresh : ws.grammar.fresh content = .ok tree)
    (hunit : runUnit ws listener path rule run = (result, next))
    (hlive : rule.inspects path = true → ∀ entry,
      run.session.cache.find? (TreeCache.fingerprint content (.int mtime)) = some entry →
        run.session.cache.isExpired entry run.session.clock = false)
    (h : Shares path (TreeCache.fingerprint content (.int mtime)) ran next.session.cache
      ended.session.cache) :
    Shares path (TreeCache.fingerprint content (.int mtime)) (rule :: ran) run.session.cache
      ended.session.cache := by
  obtain ⟨hpresent, habsent⟩ := h
  cases hinspects : rule.inspects path with
  | false =>
      rw [(runUnit_idles hinspects hunit).cache] at hpresent habsent
      constructor <;> rw [List.countP_cons_of_neg (by simp [hinspects])]
      · exact hpresent
      · exact habsent
  | true =>
      have hcache := (runUnit_of_inspects hinspects hreadable hread hunit).1
      rw [hcache] at hpresent
      constructor <;> rw [List.countP_cons_of_pos (by simp [hinspects])]
      · intro hkey
        obtain ⟨hsame, hmore, hkept⟩ := Session.fetch_of_live (g := ws.grammar) path hkey
          (hlive hinspects)
        obtain ⟨hmisses, hhits⟩ := hpresent hkept
        exact ⟨hmisses.trans hsame, by rw [hhits, hmore]; omega⟩
      · intro hkey _
        obtain ⟨hmore, hsame, hstored⟩ := Session.fetch_of_absent path hkey hfresh
        obtain ⟨hmisses, hhits⟩ := hpresent hstored
        exact ⟨hmisses.trans hmore, by rw [hhits, hsame, Nat.add_sub_cancel]⟩

theorem Fails.cons (hreadable : ws.files.isReadable path = true)
    (hread : ws.files.read path = .ok (content, mtime)) {f : Failure}
    (hfresh : ws.grammar.fresh content = .error f)
    (hunit : runUnit ws listener path rule run = (result, next))
    (habsent : TreeCache.fingerprint content (.int mtime) ∉ run.session.cache.keys)
    (h : TreeCache.fingerprint content (.int mtime) ∉ next.session.cache.keys →
      Fails path f ran next.session ended.session) :
    Fails path f (rule :: ran) run.session ended.session := by
  cases hinspects : rule.inspects path with
  | false =>
      have hidle := runUnit_idles hinspects hunit
      rw [hidle.cache] at h
      obtain ⟨hcache, incidents, hblames, hreports⟩ := h habsent
      rw [hidle.cache] at hcache
      constructor
      · rw [List.countP_cons_of_neg (by simp [hinspects])]
        exact hcache
      · rw [List.filter_cons_of_neg (by simp [hinspects])]
        exact ⟨incidents, hblames, hidle.reports.trans hreports⟩
  | true =>
      obtain ⟨hfetched, hreported⟩ := runUnit_of_inspects hinspects hreadable hread hunit
      obtain ⟨hfault, hmissed⟩ := Session.fetch_of_fault path habsent hfresh
      obtain ⟨i, hblame, hreport⟩ := hreported f hfault
      rw [hmissed] at hfetched
      obtain ⟨hcache, incidents, hblames, hreports⟩ := h (by rw [hfetched]; exact habsent)
      constructor
      · rw [List.countP_cons_of_pos (by simp [hinspects]), hcache, hfetched]
        simp only [Nat.add_assoc, Nat.add_comm 1]
      · rw [List.filter_cons_of_pos (by simp [hinspects])]
        exact ⟨i :: incidents, .cons hblame hblames, hreport.trans hreports⟩

/-- Of the rules that look up a tree that is not there, the first one parses. -/
theorem runRules_shares (hreadable : ws.files.isReadable path = true)
    (hread : ws.files.read path = .ok (content, mtime)) {tree : SyntaxTree}
    (hfresh : ws.grammar.fresh content = .ok tree) (start : Float) (isFirst : Bool)
    (htime : run.session.settings.limits.maxFileSeconds = none)
    (hlive : NeverExpired ws listener path (TreeCache.fingerprint content (.int mtime)) rules run) :
    Shares path (TreeCache.fingerprint content (.int mtime)) (reached ws listener path rules run)
      run.session.cache (runRules ws listener path start isFirst rules run).2.session.cache := by
  refine runRules_induction (motive := fun rules ran run ended =>
    NeverExpired ws listener path (TreeCache.fingerprint content (.int mtime)) rules run →
      Shares path (TreeCache.fingerprint content (.int mtime)) ran run.session.cache
        ended.session.cache) ?_ ?_ ?_ rules isFirst run htime hlive
  · exact fun run _ => .nil path _ run.session.cache
  · intro rule rest run f next hunit hlive
    exact .cons hreadable hread hfresh hunit hlive.1 (.nil path _ next.session.cache)
  · intro rule rest run found next ran ended hunit ih hlive
    obtain ⟨hfirst, hrest⟩ := hlive
    rw [hunit] at hrest
    exact .cons hreadable hread hfresh hunit hfirst (ih hrest)

/-- A fault is met and reported by every rule that asks for the tree. -/
theorem runRules_fails (hreadable : ws.files.isReadable path = true)
    (hread : ws.files.read path = .ok (content, mtime)) {f : Failure}
    (hfresh : ws.grammar.fresh content = .error f) (start : Float) (isFirst : Bool)
    (htime : run.session.settings.limits.maxFileSeconds = none)
    (habsent : TreeCache.fingerprint content (.int mtime) ∉ run.session.cache.keys) :
    Fails path f (reached ws listener path rules run) run.session
      (runRules ws listener path start isFirst rules run).2.session := by
  refine runRules_induction (motive := fun _ ran run ended =>
    TreeCache.fingerprint content (.int mtime) ∉ run.session.cache.keys →
      Fails path f ran run.session ended.session) ?_ ?_ ?_ rules isFirst run htime habsent
  · exact fun run _ => .nil path f run.session
  · intro rule rest run f' next hunit habsent
    exact .cons hreadable hread hfresh hunit habsent fun _ => .nil path f next.session
  · intro rule rest run found next ran ended hunit ih habsent
    exact .cons hreadable hread hfresh hunit habsent ih

end

/-- The size is above the ceiling, if there is one. -/
def TooLarge (limits : LimitSettings) (size : Nat) : Prop :=
  ∃ most, limits.maxFileBytes = some most ∧ most < size

theorem exceededCeiling?_cases (limits : LimitSettings) (size : Nat) :
    (TooLarge limits size ∧ ∃ ceiling, exceededCeiling? limits size = some ceiling) ∨
      (¬TooLarge limits size ∧ exceededCeiling? limits size = none) := by
  unfold TooLarge exceededCeiling?
  cases limits.maxFileBytes with
  | none => exact Or.inr ⟨by simp, rfl⟩
  | some most =>
      by_cases h : most < size
      · exact Or.inl ⟨⟨most, rfl, h⟩, most, by simp [h]⟩
      · exact Or.inr ⟨by simpa using h, by simpa using h⟩

theorem find_of_read {files : Files} (h : files.read path = .ok (content, mtime)) :
    ∃ readable opens, files.find path = .ok (.regular content mtime readable opens) := by
  unfold Files.read at h
  split at h
  · cases h
  · cases h
  · next hfind =>
      split at h
      · cases h
        exact ⟨_, _, hfind⟩
      · cases h

theorem size_of_read {files : Files} (h : files.read path = .ok (content, mtime)) :
    files.size path = content.length := by
  obtain ⟨readable, opens, hfind⟩ := find_of_read h
  rw [Files.size, hfind]

/-- Only what is a path can be read. -/
theorem isUnsizable_of_read {files : Files} (h : files.read path = .ok (content, mtime))
    (limits : LimitSettings) : isUnsizable limits path = false := by
  obtain ⟨readable, opens, hfind⟩ := find_of_read h
  rw [isUnsizable, Files.isPath_of_find hfind, Bool.not_true, Bool.and_false]

/-- A file that is too large is not even looked up. -/
theorem processFile_of_tooLarge (listener : Option Listener) (rules : List Rule) {run : Run}
    (hread : ws.files.read path = .ok (content, mtime))
    (h : TooLarge run.session.settings.limits content.length) :
    (processFile ws listener rules path run).2.session.cache = run.session.cache := by
  rcases exceededCeiling?_cases run.session.settings.limits content.length with
    ⟨_, ceiling, hceiling⟩ | ⟨hsmall, _⟩
  · simp only [processFile, isUnsizable_of_read hread, Bool.false_eq_true, if_false,
      size_of_read hread, hceiling]
    exact (Run.skip_idles listener path rules _).cache
  · exact absurd h hsmall

/-- The rules are run on every other file that is one. -/
theorem processFile_eq_runRules (listener : Option Listener) (rules : List Rule) {run : Run}
    (hsizable : isUnsizable run.session.settings.limits path = false)
    (h : ¬TooLarge run.session.settings.limits (ws.files.size path)) :
    processFile ws listener rules path run =
      ((⟨·, false⟩) <$> (runRules ws listener path run.session.clock true rules run).1,
        (runRules ws listener path run.session.clock true rules run).2) := by
  rcases exceededCeiling?_cases run.session.settings.limits (ws.files.size path) with
    ⟨hlarge, _⟩ | ⟨_, hceiling⟩
  · exact absurd hlarge h
  · simp only [processFile, hsizable, Bool.false_eq_true, if_false, hceiling]

/-- A file that can be read and whose tree is not in the cache is parsed once for all rules that
inspect it: the first of them misses, and the others hit, as long as the tree does not expire
between them. If it has a fault, each of them misses and reports the fault, in the order of the
rules, and the entries of the cache stay as they are. No time limit may stop the rules. All rules
are run if the check of the file returns, and it does so whenever the failures of the rules and of
the listener can be told; otherwise the same holds of the rules up to the failure. A file above the
ceiling is passed over, and its tree is not asked for at all. -/
theorem one_parse_serves_all (listener : Option Listener) (rules : List Rule) {run : Run}
    (hreadable : ws.files.isReadable path = true)
    (hread : ws.files.read path = .ok (content, mtime))
    (htime : run.session.settings.limits.maxFileSeconds = none)
    (habsent : TreeCache.fingerprint content (.int mtime) ∉ run.session.cache.keys) :
    let before := run.session
    let checked := processFile ws listener rules path run
    let after := checked.2.session
    let ran := reached ws listener path rules run
    let inspecting := ran.filter (·.inspects path)
    (TooLarge before.settings.limits content.length → after.cache = before.cache) ∧
      (¬TooLarge before.settings.limits content.length →
        ran <+: rules ∧ ((∃ result, checked.1 = .ok result) → ran = rules) ∧
        (Listener.Tells listener → (∀ rule ∈ rules, ∀ s, untold? ws rule path s = none) →
          ran = rules) ∧
        (∀ tree, ws.grammar.fresh content = .ok tree → 1 ≤ inspecting.length →
          NeverExpired ws listener path (TreeCache.fingerprint content (.int mtime)) rules run →
          after.cache.misses = before.cache.misses + 1 ∧
          after.cache.hits = before.cache.hits + (inspecting.length - 1)) ∧
        ∀ f, ws.grammar.fresh content = .error f →
          after.cache.misses = before.cache.misses + inspecting.length ∧
          after.cache.hits = before.cache.hits ∧ after.cache.entries = before.cache.entries ∧
          ∃ incidents, List.Forall₂ (Rule.Blames path f) inspecting incidents ∧
            before.incidents.Reports after.incidents incidents) := by
  intro before checked after ran inspecting
  refine ⟨processFile_of_tooLarge listener rules hread, fun hsmall => ?_⟩
  have hcount : ran.countP (·.inspects path) = inspecting.length := List.countP_eq_length_filter
  rw [← size_of_read hread] at hsmall
  have hchecked := processFile_eq_runRules listener rules (isUnsizable_of_read hread _) hsmall
  have hafter : after = (runRules ws listener path before.clock true rules run).2.session :=
    congrArg (·.2.session) hchecked
  rw [hafter]
  refine ⟨reached_isPrefix rules run, ?_, reached_of_told, ?_, ?_⟩
  · intro hreturns
    rw [show checked = _ from hchecked, exists_ok_map_iff] at hreturns
    obtain ⟨found, hfound⟩ := hreturns
    exact reached_of_runRules htime hfound
  · intro tree hfresh hasked hlive
    rw [← hcount] at hasked ⊢
    exact (runRules_shares hreadable hread hfresh before.clock true htime hlive).absent habsent hasked
  · intro f hfresh
    obtain ⟨hcache, hreports⟩ := runRules_fails hreadable hread hfresh before.clock true htime habsent
    rw [hcache, hcount]
    exact ⟨rfl, rfl, rfl, hreports⟩

theorem untold?_presence (ws : Workspace) (path : String) (s : Session) :
    untold? ws .presence path s = none := by
  have hbody : Rule.presence.body = .tree _ := rfl
  exact untold?_of_tree hbody rfl (fun _ => Failure.onlyTold_ok _) ws s

/-- What the first of two rules has stored is live when the second looks for the tree. -/
theorem neverExpired_of_live {listener : Option Listener} {run : Run} {first second : Rule}
    (key : String) (hempty : run.session.cache.entries = [])
    (hlive : let next := (runUnit ws listener path first run).2.session
      (next.cache.entries.all fun entry => !next.cache.isExpired entry next.clock) = true) :
    NeverExpired ws listener path key [first, second] run := by
  refine ⟨fun _ entry hfind => ?_, ?_⟩
  · have hentry := (TreeCache.of_find?_eq_some hfind).1
    rw [hempty] at hentry
    cases hentry
  · cases hunit : runUnit ws listener path first run with
    | mk result next =>
        rw [hunit] at hlive
        cases result with
        | error f => trivial
        | ok found =>
            refine ⟨fun _ entry hfind => ?_, ?_⟩
            · have hentry := List.all_eq_true.mp hlive entry (TreeCache.of_find?_eq_some hfind).1
              rwa [Bool.not_eq_true'] at hentry
            · split <;> trivial

/-- From an empty cache, a rule misses on a clean file and finds nothing to hit, two rules share the
tree of it, and both miss on a faulty one. -/
theorem presence_rules_share_parse :
    let run : Run := { session := .cold, total := 2 }
    let cacheAfter (rules : List Rule) (path : String) : TreeCache :=
      (processFile .cleanAndFaulty none rules path run).2.session.cache
    ((cacheAfter [.presence] "clean.php").misses = 1 ∧
        (cacheAfter [.presence] "clean.php").hits = 0) ∧
      ((cacheAfter [.presence, .presence] "faulty.php").misses = 2 ∧
        (cacheAfter [.presence, .presence] "faulty.php").hits = 0) ∧
      ((cacheAfter [.presence, .presence] "clean.php").misses = 1 ∧
        (cacheAfter [.presence, .presence] "clean.php").hits = 1) := by
  intro run cacheAfter
  have hsmall {content : Bytes} (h : content.length ≤ 1) :
      ¬TooLarge run.session.settings.limits content.length := by
    rintro ⟨most, hmost, hless⟩
    cases hmost
    omega
  have habsent (key : String) : key ∉ run.session.cache.keys := List.not_mem_nil
  have hfresh : Workspace.cleanAndFaulty.grammar.fresh [] =
      .ok ⟨⟨"program", 0, 0, 1, 1, [], [], false, false⟩, []⟩ := by
    simp [Workspace.cleanAndFaulty, Grammar.fresh, Grammar.blank, Reading.parse, RawNode.convert,
      RawNode.descend, RawNode.climb, Cursor.firstChild?, Cursor.onRoot, Frame.finish,
      Except.mapError]
  obtain ⟨f, hfault⟩ : ∃ f, Workspace.cleanAndFaulty.grammar.fresh [0] = .error f :=
    ⟨(ParseFault.ofTree [0] (Grammar.blank.read [0]).root.convert).toFailure, rfl⟩
  have honce : NeverExpired .cleanAndFaulty none "clean.php" (TreeCache.fingerprint [] (.int 5))
      [.presence] run := by
    refine ⟨fun _ entry hfind => ?_, ?_⟩
    · cases hfind
    · split <;> trivial
  have htold (rules : List Rule) (hrules : ∀ rule ∈ rules, rule = .presence) (path : String) :
      ∀ rule ∈ rules, ∀ s, untold? .cleanAndFaulty rule path s = none := by
    intro rule hrule s
    rw [hrules rule hrule]
    exact untold?_presence .cleanAndFaulty path s
  have htime : run.session.settings.limits.maxFileSeconds = none := rfl
  have hreadClean : Workspace.cleanAndFaulty.files.read "clean.php" = .ok ([], 5) := rfl
  have hreadFaulty : Workspace.cleanAndFaulty.files.read "faulty.php" = .ok ([0], 5) := rfl
  have hclean (rules : List Rule) (hrules : ∀ rule ∈ rules, rule = .presence)
      (hlive : NeverExpired .cleanAndFaulty none "clean.php" (TreeCache.fingerprint [] (.int 5))
        rules run) (hasked : 1 ≤ (rules.filter (·.inspects "clean.php")).length) :
      (cacheAfter rules "clean.php").misses = 1 ∧ (cacheAfter rules "clean.php").hits =
        0 + ((rules.filter (·.inspects "clean.php")).length - 1) := by
    obtain ⟨_, _, hran, hshared, _⟩ := (one_parse_serves_all none rules rfl hreadClean htime
      (habsent _)).2 (hsmall (by decide))
    rw [hran Listener.tells_none (htold rules hrules "clean.php")] at hshared
    exact hshared _ hfresh hasked hlive
  obtain ⟨_, _, hran, _, hfaulty⟩ := (one_parse_serves_all none [.presence, .presence] rfl
    hreadFaulty htime (habsent _)).2 (hsmall (by decide))
  rw [hran Listener.tells_none (htold _ (by simp) "faulty.php")] at hfaulty
  obtain ⟨hmisses, hhits, _⟩ := hfaulty f hfault
  refine ⟨hclean _ (by simp) honce (by decide), ⟨hmisses, hhits⟩, ?_⟩
  exact hclean _ (by simp) (neverExpired_of_live _ rfl (by decide +kernel)) (by decide)

end Audit

/-- A file that only opens a script. -/
def Workspace.opening : Workspace where
  files := Files.write {} "a.php" (.regular [0x3C, 0x3F, 0x70, 0x68, 0x70, 0x0A] 5 true true)
  grammar := .numeral

/-- A session that takes files of five bytes at most. -/
def Session.narrow : Session :=
  { Session.cold with settings := { limits := { maxFileBytes := some 5 } } }

namespace Audit

/-- A file of six bytes can be read and parsed and be new to the cache, and two rules inspect it, and
still there is no miss: it is larger than the ceiling. -/
theorem large_file_without_miss :
    let run : Run := { session := .narrow, total := 2 }
    let content : Bytes := [0x3C, 0x3F, 0x70, 0x68, 0x70, 0x0A]
    let key := TreeCache.fingerprint content (.int 5)
    Workspace.opening.files.isReadable "a.php" = true ∧
      Workspace.opening.files.read "a.php" = .ok (content, 5) ∧
      (∃ tree, Workspace.opening.grammar.fresh content = .ok tree) ∧
      run.session.settings.limits.maxFileSeconds = none ∧ key ∉ run.session.cache.keys ∧
      NeverExpired .opening none "a.php" key [.presence, .presence] run ∧
      ([Rule.presence, .presence].filter (·.inspects "a.php")).length = 2 ∧
      (processFile .opening none [.presence, .presence] "a.php" run).2.session.cache.misses ≠
        run.session.cache.misses + 1 := by
  intro run content key
  have hread : Workspace.opening.files.read "a.php" = .ok (content, 5) := rfl
  have hlarge : TooLarge run.session.settings.limits content.length := ⟨5, rfl, by decide⟩
  have hlive : NeverExpired .opening none "a.php" key [.presence, .presence] run :=
    neverExpired_of_live key rfl (by decide +kernel)
  refine ⟨rfl, hread, ⟨_, Grammar.fresh_numeral _⟩, rfl, List.not_mem_nil, hlive, rfl, ?_⟩
  rw [processFile_of_tooLarge none [.presence, .presence] hread hlarge]
  exact Nat.ne_of_lt (Nat.lt_succ_self _)

end Audit

end PhpAudit
