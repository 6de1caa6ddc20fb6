import PhpAudit.Proofs.BundledChecks
import PhpAudit.Proofs.Normalisation

/-!
What a check by a tree rule leaves behind. A file that is passed over leaves nothing. Any other file
is timed: in all, once it has been read also for its tree, and once it has a tree also for its
inspection. Each way out files exactly what went wrong on it, and a check that went through files
its rejected items and, if it was slow, that it was. The exception is a failure that cannot be told:
it is not filed, and the check fails with the reason why.
-/

namespace PhpAudit

theorem Phase.name_injective : Function.Injective Phase.name := by
  intro p q h
  cases p <;> cases q <;> first | rfl | exact absurd h (by decide)

namespace Timings

/-- The samples of a rule and a phase, if there is a list of them. -/
def samples? (t : Timings) (rule phase : String) : Option (List Float) :=
  (Mapping.get? t rule).bind fun phases => Mapping.get? phases phase

theorem samples_eq (t : Timings) (rule phase : String) :
    t.samples rule phase = (t.samples? rule phase).getD [] := by
  unfold samples samples?
  cases Mapping.get? t rule with
  | none => rfl
  | some phases => rfl

/-- A sample is added at the end of its own list and nowhere else. -/
theorem samples?_record (t : Timings) (rule : String) (phase : Phase) (seconds : Float)
    (r p : String) :
    (t.record rule phase seconds).samples? r p =
      if rule = r ∧ phase.name = p then some (t.samples rule phase.name ++ [seconds])
      else t.samples? r p := by
  unfold record add samples? Mapping.adjust
  rw [Mapping.get?_put]
  by_cases hrule : rule = r
  · subst hrule
    rw [if_pos rfl, Option.bind_some, Mapping.get?_put]
    by_cases hphase : phase.name = p
    · rw [if_pos hphase, if_pos ⟨rfl, hphase⟩]
      rfl
    · rw [if_neg hphase, if_neg fun h => hphase h.2]
      cases Mapping.get? t rule with
      | none => rfl
      | some phases => rfl
  · rw [if_neg hrule, if_neg fun h => hrule h.1]

/-- Of each of the given phases the rule has one sample more, at the end; no other entry changes. -/
structure Gains (before after : Timings) (rule : String) (taken : List (Phase × Float)) : Prop where
  own : ∀ e ∈ taken, after.samples rule e.1.name = before.samples rule e.1.name ++ [e.2]
  others : ∀ r p, (r = rule → ∀ e ∈ taken, e.1.name ≠ p) → after.samples? r p = before.samples? r p

/-- Samples of different phases do not get in each other's way. -/
theorem gains_of_records (rule : String) {taken : List (Phase × Float)}
    (h : (taken.map Prod.fst).Nodup) (before : Timings) :
    before.Gains (taken.foldl (fun t e => t.record rule e.1 e.2) before) rule taken := by
  induction taken generalizing before with
  | nil => exact ⟨by simp, fun _ _ _ => rfl⟩
  | cons first rest ih =>
      obtain ⟨hfirst, hrest⟩ := List.nodup_cons.mp h
      have hdiffers : ∀ e ∈ rest, e.1.name ≠ first.1.name := fun e he hname =>
        hfirst (Phase.name_injective hname ▸ List.mem_map_of_mem he)
      obtain ⟨hown, hothers⟩ := ih hrest (before.record rule first.1 first.2)
      constructor
      · intro e he
        rw [List.foldl_cons]
        rcases List.mem_cons.mp he with rfl | he
        · rw [samples_eq, hothers rule e.1.name fun _ => hdiffers, samples?_record,
            if_pos ⟨rfl, rfl⟩, Option.getD_some]
        · rw [hown e he, samples_eq, samples?_record,
            if_neg fun hsame => hdiffers e he hsame.2.symm, ← samples_eq]
      · intro r p hother
        have hmissed : ¬(rule = r ∧ first.1.name = p) := fun hsame =>
          hother hsame.1.symm first List.mem_cons_self hsame.2
        rw [List.foldl_cons, hothers r p fun hr e he => hother hr e (List.mem_cons_of_mem first he),
          samples?_record, if_neg hmissed]

end Timings

theorem Session.kept_of_fetch {s t : Session} {g : Grammar} {path : String} {content : Bytes}
    {mtime : Value} {parsed : Except Failure SyntaxTree}
    (h : s.fetch g path content mtime = (parsed, t)) :
    t.settings = s.settings ∧ t.timings = s.timings ∧ t.incidents = s.incidents := by
  obtain ⟨clock, cache, journal, hfields⟩ := s.exists_fetch_eq g path content mtime
  rw [h] at hfields
  cases hfields
  exact ⟨rfl, rfl, rfl⟩

namespace Rule

theorem runSteps_notes (steps : List Step) (s : Session) : s.Notes (runSteps steps s).2 [] := by
  induction steps generalizing s with
  | nil => exact .refl s
  | cons step rest ih =>
      cases step with
      | wait seconds => exact (s.notes_wait seconds).trans (ih (s.wait seconds))
      | fail f => exact .refl s
      | emit item => exact ih s

theorem runScript_notes (script : Script) (s : Session) : s.Notes (runScript script s).2 [] := by
  unfold runScript
  cases script.reply with
  | streamed => exact .refl s
  | lazy => exact .refl s
  | collected => exact runSteps_notes script.steps s
  | fixed v => exact runSteps_notes script.steps s

/-- What a tree rule makes of a tree: its script fails, or what it answers is settled. A stream
counts as the list of what it emits. -/
inductive Performs (rule : Rule) (path : String) (script : Script) :
    Except Failure (List Finding) → List Rejection → Prop where
  | failed {f : Failure} (hanswer : answer (eager script) = .error f) :
      Performs rule path script (.error f) []
  | answered {given : Answer} {result : Except Failure (List Finding)} {reasons : List Rejection}
      (hanswer : answer (eager script) = .ok given) (h : rule.Settles path given result reasons) :
      Performs rule path script result reasons

theorem perform_performs (rule : Rule) (path : String) (script : Script) (s : Session) :
    ∃ reasons, rule.Performs path script (rule.perform path script s).1 reasons ∧
      s.Notes (rule.perform path script s).2 (reasons.map (rule.warning path)) := by
  -- an answer depends neither on the grammar nor on the contents that are known
  have hanswer := (runScript_eq_answer .blank ∅ (eager script) s).1
  have hscript := runScript_notes (eager script) s
  rw [perform_eq_runNormalised, runNormalised]
  cases hrun : runScript (eager script) s with
  | mk result t =>
      rw [hrun] at hanswer hscript
      cases result with
      | error f => exact ⟨[], .failed hanswer.symm, hscript⟩
      | ok given =>
          obtain ⟨reasons, hsettles, hnotes⟩ := rule.normalise_settles path given t
          exact ⟨reasons, .answered hanswer.symm hsettles, hscript.trans hnotes⟩

/-- What a check files when the file cannot be read, when it cannot be parsed, when the rule fails
on it, and when the rule takes longer than allowed. -/
def unreadReport (rule : Rule) (path : String) (f : Failure) (now : Float) : Except Failure Report :=
  Report.fileAccess (.text path) f (.text rule.typeName) now

def unparsedReport (rule : Rule) (path : String) (f : Failure) (now : Float) :
    Except Failure Report :=
  Report.parsing (.text path) f (.text rule.typeName) now

def failedReport (rule : Rule) (path : String) (f : Failure) (now : Float) : Except Failure Report :=
  Report.ofFailure (.text path) f "" (.text rule.typeName) now

def slowIncident (rule : Rule) (path : String) (threshold seconds : Float) : Incident :=
  (Report.performanceOf (.text path)
    (rule.typeName ++ " took " ++ Number.fixedText 3 seconds ++ "s to check " ++ Text.baseName path)
    (Number.generalText threshold) (.text rule.typeName) 0).incident

/-- What is filed is what would have been filed at any other time. -/
theorem submit_notes {needs : List Need} {topic : Topic} {report : Float → Except Failure Report}
    (htells : Report.Tells needs topic report) (s : Session) :
    (∃ r, report 0 = .ok r ∧ r.incident.topic = topic ∧
      ∃ t, s.submit (report s.clock) ([] : List Finding) = (.ok [], t) ∧ t.clock = s.clock ∧
        s.Notes t [r.incident]) ∨
      ∃ f, report 0 = .error f ∧
        s.submit (report s.clock) ([] : List Finding) = (.error f, s) := by
  rcases htells with
    ⟨f, _, hreport⟩ | ⟨_, file, rule, line, message, fix, shownMessage, shownFix, hreport⟩
  · refine Or.inr ⟨f, hreport 0, ?_⟩
    rw [hreport]
    rfl
  · let filed := s.file (.make topic file rule line s.clock message fix shownMessage shownFix)
    refine Or.inl ⟨_, hreport 0, rfl, filed, ?_, rfl, s.notes_file rfl⟩
    rw [hreport]
    rfl

theorem failedReport_tells (rule : Rule) (path : String) (f : Failure) :
    Report.Tells (Filing.failure (.text path) f "" (.text rule.typeName)).needs (.ofFailure f)
      (rule.failedReport path f) :=
  (Filing.failure (.text path) f "" (.text rule.typeName)).report_tells

theorem warnIfSlow_notes (rule : Rule) (path : String) (seconds : Float) (s : Session) :
    s.Notes (rule.warnIfSlow path seconds s)
      (if s.settings.limits.slowCheckSeconds < seconds then
        [rule.slowIncident path s.settings.limits.slowCheckSeconds seconds] else []) ∧
      (rule.warnIfSlow path seconds s).clock = s.clock := by
  simp only [warnIfSlow]
  split
  · exact ⟨s.notes_file rfl, rfl⟩
  · exact ⟨.refl s, rfl⟩

/-- How the inspection of a tree ends, given what the rule made of it: what went through is given
back, with a warning if it was slow; a failure is filed and gives nothing, unless it cannot be told,
and then the inspection fails. -/
inductive Concludes (rule : Rule) (path : String) (threshold seconds : Float) :
    Except Failure (List Finding) → Except Failure (List Finding) → List Incident → Prop where
  | passed (found : List Finding) :
      Concludes rule path threshold seconds (.ok found) (.ok found)
        (if threshold < seconds then [rule.slowIncident path threshold seconds] else [])
  | filed {f : Failure} {r : Report} (hreport : rule.failedReport path f 0 = .ok r)
      (htopic : r.incident.topic = .ofFailure f) :
      Concludes rule path threshold seconds (.error f) (.ok []) [r.incident]
  | untold {f g : Failure} (hreport : rule.failedReport path f 0 = .error g) :
      Concludes rule path threshold seconds (.error f) (.error g) []

/-- Inspecting a tree takes one sample, whatever comes of it, and files a warning for every rejected
item before it ends. -/
theorem inspectTree_leaves (rule : Rule) (path : String) (script : Script) (s : Session) :
    ∃ performed reasons result ends t, rule.Performs path script performed reasons ∧
      rule.inspectTree path script s = (result, t) ∧
      rule.Concludes path s.settings.limits.slowCheckSeconds (t.clock - s.clock) performed result
        ends ∧
      t.cache = s.cache ∧
      t.timings = s.timings.record rule.typeName .check (t.clock - s.clock) ∧
      s.incidents.Notes t.incidents (reasons.map (rule.warning path) ++ ends) := by
  obtain ⟨reasons, hperforms, hnotes⟩ := rule.perform_performs path script s
  simp only [inspectTree]
  cases hrun : rule.perform path script s with
  | mk performed t =>
      rw [hrun] at hperforms hnotes
      cases performed with
      | error f =>
          rcases submit_notes (rule.failedReport_tells path f) t with
            ⟨r, hreport, htopic, filed, hsubmit, hclock, hfiled⟩ | ⟨g, hreport, hsubmit⟩
          · simp only [failedReport] at hsubmit
            simp only [hsubmit]
            refine ⟨.error f, reasons, .ok [], [r.incident], _, hperforms, rfl,
              .filed hreport htopic, hfiled.cache.trans hnotes.cache, ?_,
              hnotes.filed.trans hfiled.filed⟩
            rw [← hnotes.timings, ← hfiled.timings]
            rfl
          · simp only [failedReport] at hsubmit
            simp only [hsubmit]
            refine ⟨.error f, reasons, .error g, [], _, hperforms, rfl, .untold hreport,
              hnotes.cache, ?_, ?_⟩
            · rw [← hnotes.timings]
              rfl
            · rw [List.append_nil]
              exact hnotes.filed
      | ok findings =>
          let timed := t.time rule.typeName .check (t.clock - s.clock)
          obtain ⟨hslow, hclock⟩ := rule.warnIfSlow_notes path (t.clock - s.clock) timed
          have hnow : (rule.warnIfSlow path (t.clock - s.clock) timed).clock = t.clock := hclock
          have hsettings : timed.settings = s.settings := hnotes.settings
          rw [hsettings] at hslow
          refine ⟨.ok findings, reasons, .ok findings, _, _, hperforms, rfl, ?_,
            hslow.cache.trans hnotes.cache, ?_, hnotes.filed.trans hslow.filed⟩
          · rw [hnow]
            exact .passed findings
          · rw [hslow.timings, hnow, ← hnotes.timings]
            rfl

/-- What a check leaves in a session: samples under the rule's type name, and incidents. -/
structure Leaves (rule : Rule) (s t : Session) (taken : List (Phase × Float))
    (incidents : List Incident) : Prop where
  samples : s.timings.Gains t.timings rule.typeName taken
  filed : s.incidents.Notes t.incidents incidents

theorem Leaves.of_records {rule : Rule} {s t : Session} {taken : List (Phase × Float)}
    {incidents : List Incident} (hphases : (taken.map Prod.fst).Nodup)
    (htimings : t.timings = taken.foldl (fun t e => t.record rule.typeName e.1 e.2) s.timings)
    (hfiled : s.incidents.Notes t.incidents incidents) : rule.Leaves s t taken incidents where
  samples := by
    rw [htimings]
    exact Timings.gains_of_records rule.typeName hphases s.timings
  filed := hfiled

section

variable {ws : Workspace} {rule : Rule} {script : SyntaxTree → String → Script} {path : String}
  {content : Bytes} {mtime : Int} {s t : Session}

/-- A file that is not passed over is timed in all, on top of what its check does. -/
theorem check_of_readable (hbody : rule.body = .tree script)
    (happlies : rule.appliesTo path = .ok true) (hreadable : ws.files.isReadable path = true)
    {result : Except Failure (List Finding)}
    (hchecked : rule.checkFile ws script path s = (result, t)) :
    ∃ after, rule.check ws path s =
        ((fun findings => .items (findings.map .finding)) <$> result, after) ∧
      after.clock = t.clock ∧ after.cache = t.cache ∧ after.incidents = t.incidents ∧
      after.timings = t.timings.record rule.typeName .total (t.clock - s.clock) := by
  simp only [check, hbody, checkTree, happlies, hreadable, Bool.and_self, if_true, hchecked]
  cases result with
  | error f => exact ⟨_, rfl, rfl, rfl, rfl, rfl⟩
  | ok findings => exact ⟨_, rfl, rfl, rfl, rfl, rfl⟩

theorem check_of_unread (hbody : rule.body = .tree script)
    (happlies : rule.appliesTo path = .ok true) (hreadable : ws.files.isReadable path = true)
    {f : Failure} (hread : ws.files.read path = .error f) :
    ∃ r after, rule.unreadReport path f 0 = .ok r ∧ r.incident.topic = .fileAccess ∧
      rule.check ws path s = (.ok (.items []), after) ∧ after.cache = s.cache ∧
      rule.Leaves s after [(.total, after.clock - s.clock)] [r.incident] := by
  have htells := Report.tells_fileAccess (.text path) f (.text rule.typeName)
  have hmet := (ws.files.onlyTold_read path f hread).text.needs_met path
  rcases submit_notes htells s with
    ⟨r, hreport, htopic, filed, hsubmit, hfiledClock, hfiled⟩ | ⟨g, hreport, _⟩
  · have hchecked : rule.checkFile ws script path s = (.ok [], filed) := by
      simp only [checkFile, hread, hsubmit]
    obtain ⟨after, hcheck, hclock, hcache, hincidents, htimings⟩ :=
      check_of_readable hbody happlies hreadable hchecked
    refine ⟨r, after, hreport, htopic, hcheck, hcache.trans hfiled.cache, .of_records (by simp) ?_ ?_⟩
    · rw [htimings, hclock, hfiled.timings]
      rfl
    · rw [hincidents]
      exact hfiled.filed
  · obtain ⟨r, hr⟩ := htells.exists_report hmet 0
    cases hreport.symm.trans hr

theorem check_of_unparsed (hbody : rule.body = .tree script)
    (happlies : rule.appliesTo path = .ok true) (hreadable : ws.files.isReadable path = true)
    (hread : ws.files.read path = .ok (content, mtime)) {f : Failure}
    (hfetched : s.fetch ws.grammar path content (.int mtime) = (.error f, t)) :
    ∃ r after, rule.unparsedReport path f 0 = .ok r ∧ r.incident.topic = .parsing ∧
      rule.check ws path s = (.ok (.items []), after) ∧ after.cache = t.cache ∧
      rule.Leaves s after [(.parse, t.clock - s.clock), (.total, after.clock - s.clock)]
        [r.incident] := by
  obtain ⟨fault, rfl⟩ := Session.exists_fault_of_fetch (congrArg Prod.fst hfetched)
  rcases submit_notes (Report.tells_parsing (.text path) fault.toFailure (.text rule.typeName)) t
    with ⟨r, hreport, htopic, filed, hsubmit, hfiledClock, hfiled⟩ | ⟨g, hreport, _⟩
  · have hchecked : rule.checkFile ws script path s =
        (.ok [], filed.time rule.typeName .parse (t.clock - s.clock)) := by
      simp only [checkFile, hread, hfetched, hsubmit, hfiledClock]
    obtain ⟨after, hcheck, hclock, hcache, hincidents, htimings⟩ :=
      check_of_readable hbody happlies hreadable hchecked
    obtain ⟨_, hsamples, hbefore⟩ := Session.kept_of_fetch hfetched
    refine ⟨r, after, hreport, htopic, hcheck, hcache.trans hfiled.cache, .of_records (by simp) ?_ ?_⟩
    · rw [htimings, hclock, ← hsamples, ← hfiled.timings]
      rfl
    · rw [hincidents, ← hbefore]
      exact hfiled.filed
  · obtain ⟨r, hr⟩ := Report.exists_parsing (.text rule.typeName) path fault.message fault.line 0
    cases hreport.symm.trans hr

theorem check_of_parsed (hbody : rule.body = .tree script)
    (happlies : rule.appliesTo path = .ok true) (hreadable : ws.files.isReadable path = true)
    (hread : ws.files.read path = .ok (content, mtime)) {tree : SyntaxTree}
    (hfetched : s.fetch ws.grammar path content (.int mtime) = (.ok tree, t)) :
    ∃ performed reasons result ends after,
      rule.Performs path (script tree path) performed reasons ∧
      rule.check ws path s =
        ((fun findings => .items (findings.map .finding)) <$> result, after) ∧
      rule.Concludes path s.settings.limits.slowCheckSeconds (after.clock - t.clock) performed
        result ends ∧
      after.cache = t.cache ∧
      rule.Leaves s after [(.parse, t.clock - s.clock), (.check, after.clock - t.clock),
        (.total, after.clock - s.clock)] (reasons.map (rule.warning path) ++ ends) := by
  let timed := t.time rule.typeName .parse (t.clock - s.clock)
  obtain ⟨performed, reasons, result, ends, u, hperforms, hinspect, hends, hkept, hsample, hfiled⟩ :=
    rule.inspectTree_leaves path (script tree path) timed
  have hchecked : rule.checkFile ws script path s = (result, u) := by
    simp only [checkFile, hread, hfetched]
    exact hinspect
  obtain ⟨after, hcheck, hclock, hcache, hincidents, htimings⟩ :=
    check_of_readable hbody happlies hreadable hchecked
  obtain ⟨hsettings, hsamples, hbefore⟩ := Session.kept_of_fetch hfetched
  refine ⟨performed, reasons, result, ends, after, hperforms, hcheck, ?_, hcache.trans hkept,
    .of_records (by simp) ?_ ?_⟩
  · rw [hclock, ← hsettings]
    exact hends
  · rw [htimings, hsample, hclock, ← hsamples]
    rfl
  · rw [hincidents, ← hbefore]
    exact hfiled

end

/-- What a check by a tree rule leaves behind, exactly. A file that the rule does not apply to or
that is no readable file leaves nothing. Any other file is timed in all; if it was read also for its
tree, and if there is a tree also for its inspection. A file that cannot be read leaves the cache
alone, and any other file leaves it as the fetch of its tree does. A file that cannot be read or
parsed gives no findings and is filed once. What the rule fails with gives no findings and is filed
once, under its own topic and as the last thing, exactly if it can be told; otherwise the check
fails, and the samples and warnings are all it leaves. What went through files one warning for every
rejected item and at the end one more if it was slow. -/
theorem check_leaves_exactly {rule : Rule} {script : SyntaxTree → String → Script}
    (hbody : rule.body = .tree script) {path : String} {applies : Bool}
    (happlies : rule.appliesTo path = .ok applies) (ws : Workspace) (s : Session) :
    ∃ (result : Except Failure (List Finding)) (after : Session),
      rule.check ws path s =
        ((fun findings => .items (findings.map .finding)) <$> result, after) ∧
      ((applies && ws.files.isReadable path) = false → result = .ok [] ∧ after = s) ∧
      ((applies && ws.files.isReadable path) = true →
        let total := (Phase.total, after.clock - s.clock)
        (∀ f, ws.files.read path = .error f → ∃ r,
          rule.unreadReport path f 0 = .ok r ∧ r.incident.topic = .fileAccess ∧
          result = .ok [] ∧ after.cache = s.cache ∧ rule.Leaves s after [total] [r.incident]) ∧
        ∀ content mtime, ws.files.read path = .ok (content, mtime) →
          let fetched := s.fetch ws.grammar path content (.int mtime)
          let parse := (Phase.parse, fetched.2.clock - s.clock)
          let check := (Phase.check, after.clock - fetched.2.clock)
          after.cache = fetched.2.cache ∧
          (∀ f, fetched.1 = .error f → ∃ r,
            rule.unparsedReport path f 0 = .ok r ∧ r.incident.topic = .parsing ∧
            result = .ok [] ∧ rule.Leaves s after [parse, total] [r.incident]) ∧
          ∀ tree, fetched.1 = .ok tree → ∃ performed reasons,
            rule.Performs path (script tree path) performed reasons ∧
            (∀ f, performed = .error f →
              (f.untold? = none → ∃ r,
                rule.failedReport path f 0 = .ok r ∧ r.incident.topic = .ofFailure f ∧
                result = .ok [] ∧
                rule.Leaves s after [parse, check, total]
                  (reasons.map (rule.warning path) ++ [r.incident])) ∧
              ∀ g, f.untold? = some g →
                result = .error g ∧
                rule.Leaves s after [parse, check, total] (reasons.map (rule.warning path))) ∧
            ∀ found, performed = .ok found → result = .ok found ∧
              let threshold := s.settings.limits.slowCheckSeconds
              rule.Leaves s after [parse, check, total]
                (reasons.map (rule.warning path) ++
                  if threshold < check.2 then [rule.slowIncident path threshold check.2]
                  else [])) := by
  cases hpassed : applies && ws.files.isReadable path with
  | false =>
      refine ⟨.ok [], s, ?_, fun _ => ⟨rfl, rfl⟩, (by rintro ⟨⟩)⟩
      simp only [check, hbody, rule.checkTree_of_passed script happlies hpassed]
  | true =>
      obtain ⟨rfl, hreadable⟩ := Bool.and_eq_true_iff.mp hpassed
      cases hread : ws.files.read path with
      | error f =>
          obtain ⟨r, after, hreport, htopic, hcheck, hcache, hleaves⟩ :=
            check_of_unread (s := s) hbody happlies hreadable hread
          refine ⟨.ok [], after, hcheck, (by rintro ⟨⟩), fun _ => ⟨?_, (by rintro _ _ ⟨⟩)⟩⟩
          rintro _ ⟨⟩
          exact ⟨r, hreport, htopic, rfl, hcache, hleaves⟩
      | ok file =>
          obtain ⟨content, mtime⟩ := file
          cases hfetched : s.fetch ws.grammar path content (.int mtime) with
          | mk parsed fetched =>
              cases parsed with
              | error f =>
                  obtain ⟨r, after, hreport, htopic, hcheck, hcache, hleaves⟩ :=
                    check_of_unparsed hbody happlies hreadable hread hfetched
                  refine ⟨.ok [], after, hcheck, (by rintro ⟨⟩), fun _ => ⟨(by rintro _ ⟨⟩), ?_⟩⟩
                  rintro _ _ ⟨⟩
                  rw [hfetched]
                  refine ⟨hcache, ?_, (by rintro _ ⟨⟩)⟩
                  rintro _ ⟨⟩
                  exact ⟨r, hreport, htopic, rfl, hleaves⟩
              | ok tree =>
                  obtain ⟨performed, reasons, result, ends, after, hperforms, hcheck, hends, hcache,
                    hleaves⟩ := check_of_parsed hbody happlies hreadable hread hfetched
                  refine ⟨result, after, hcheck, (by rintro ⟨⟩), fun _ => ⟨(by rintro _ ⟨⟩), ?_⟩⟩
                  rintro _ _ ⟨⟩
                  rw [hfetched]
                  refine ⟨hcache, (by rintro _ ⟨⟩), ?_⟩
                  rintro _ ⟨⟩
                  refine ⟨performed, reasons, hperforms, ?_, ?_⟩
                  · rintro f rfl
                    have htold := Report.of?_ofFailure path f rule.typeName 0
                    cases hends with
                    | filed hreport htopic =>
                        rw [show Report.ofFailure _ _ _ _ _ = _ from hreport] at htold
                        refine ⟨fun _ => ⟨_, hreport, htopic, rfl, hleaves⟩, fun g hg => ?_⟩
                        cases htold.trans hg
                    | untold hreport =>
                        rw [show Report.ofFailure _ _ _ _ _ = _ from hreport] at htold
                        rw [List.append_nil] at hleaves
                        refine ⟨fun hnone => ?_, fun g hg => ?_⟩
                        · cases htold.trans hnone
                        · cases htold.trans hg
                          exact ⟨rfl, hleaves⟩
                  · rintro found rfl
                    cases hends with
                    | passed => exact ⟨rfl, hleaves⟩

/-- Samples of all phases where there was none before. -/
theorem Leaves.one_sample {rule : Rule} {s t : Session} {parse check total : Float}
    {incidents : List Incident}
    (h : rule.Leaves s t [(.parse, parse), (.check, check), (.total, total)] incidents)
    (hnone : s.timings = []) (phase : Phase) :
    (t.timings.samples rule.typeName phase.name).length = 1 := by
  have hown := h.samples.own
  simp only [List.forall_mem_cons, List.not_mem_nil, false_imp_iff, implies_true, and_true,
    hnone] at hown
  obtain ⟨hparse, hcheck, htotal⟩ := hown
  cases phase with
  | parse => exact congrArg List.length hparse
  | check => exact congrArg List.length hcheck
  | total => exact congrArg List.length htotal

/-- A rule that hands back a number and, two seconds later, fails. -/
def falteringScript (f : Failure) : Script where
  steps := [.emit (.value (.int 7)), .wait 2, .fail f]
  reply := .lazy

def faltering (f : Failure) : Rule :=
  { Rule.presence with body := .tree fun _ _ => falteringScript f }

theorem Performs.of_falteringScript {rule : Rule} {path : String} {f : Failure}
    {performed : Except Failure (List Finding)} {reasons : List Rejection}
    (h : rule.Performs path (falteringScript f) performed reasons) :
    performed = .error f ∧ reasons = ["Expected a Violation, got int"] := by
  cases h with
  | failed hanswer => cases hanswer
  | answered hanswer hsettles =>
      cases hanswer
      cases hsettles.items_of_read rfl with
      | broken hall =>
          cases hall with
          | cons hitem hnone =>
              cases hnone
              cases hitem
              exact ⟨rfl, rfl⟩
      | undescribed hitems _ _ =>
          -- a number is no mapping, so the rule's description is never asked for
          simp [emitted, List.cons_eq_append_iff] at hitems

/-- The failed look-up of a key of too many digits. -/
def wordless : Failure := ⟨"KeyError", [.types], .error .tooManyDigits, .int 1⟩

/-- Running out of memory is filed; a failure without a text is not, and the check fails. Either way
there are all samples, the warning about the number, and none that the check was slow. -/
theorem faltering_leaves_samples_and_failure :
    let check (f : Failure) := (faltering f).check .cleanAndFaulty "clean.php" .cold
    let deep : Failure := .resourceLimit "too deep"
    let warning := Rule.presence.warning "clean.php" "Expected a Violation, got int"
    (check deep).1 = .ok (.items []) ∧ (check wordless).1 = .error .tooManyDigits ∧
      (∀ phase : Phase, ((check deep).2.timings.samples "PresenceRule" phase.name).length = 1 ∧
        ((check wordless).2.timings.samples "PresenceRule" phase.name).length = 1) ∧
      (∃ r, (faltering deep).failedReport "clean.php" deep 0 = .ok r ∧ r.incident.topic = .memory ∧
        Session.cold.incidents.Notes (check deep).2.incidents [warning, r.incident]) ∧
      Session.cold.incidents.Notes (check wordless).2.incidents [warning] := by
  intro check deep warning
  have hfailed (f : Failure) : ∃ (result : Except Failure (List Finding)) (after : Session)
      (parse inspect total : Float),
      check f = ((fun findings => .items (findings.map .finding)) <$> result, after) ∧
      (f.untold? = none → ∃ r,
        (faltering f).failedReport "clean.php" f 0 = .ok r ∧ r.incident.topic = .ofFailure f ∧
        result = .ok [] ∧ (faltering f).Leaves .cold after
          [(.parse, parse), (.check, inspect), (.total, total)] [warning, r.incident]) ∧
      ∀ g, f.untold? = some g → result = .error g ∧ (faltering f).Leaves .cold after
        [(.parse, parse), (.check, inspect), (.total, total)] [warning] := by
    have hbody : (faltering f).body = .tree fun _ _ => falteringScript f := rfl
    have happlies : (faltering f).appliesTo "clean.php" = .ok true := rfl
    obtain ⟨result, after, hcheck, _, hchecked⟩ :=
      check_leaves_exactly hbody happlies .cleanAndFaulty .cold
    obtain ⟨_, hread⟩ := hchecked rfl
    obtain ⟨_, _, hparsed⟩ := hread [] 5 rfl
    obtain ⟨performed, reasons, hperforms, hends, _⟩ := hparsed _ rfl
    obtain ⟨rfl, rfl⟩ := hperforms.of_falteringScript
    exact ⟨result, after, _, _, _, hcheck, hends f rfl⟩
  obtain ⟨_, after, _, _, _, hdeep, htold, _⟩ := hfailed deep
  obtain ⟨r, hreport, htopic, rfl, hleaves⟩ := htold rfl
  obtain ⟨_, after', _, _, _, hwordless, _, huntold⟩ := hfailed wordless
  obtain ⟨rfl, hleaves'⟩ := huntold .tooManyDigits rfl
  rw [hdeep, hwordless]
  exact ⟨rfl, rfl, fun phase => ⟨hleaves.one_sample rfl phase, hleaves'.one_sample rfl phase⟩,
    ⟨r, hreport, htopic, hleaves.filed⟩, hleaves'.filed⟩

end Rule

end PhpAudit
