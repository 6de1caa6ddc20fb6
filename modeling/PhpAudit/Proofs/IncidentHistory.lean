import Mathlib.Algebra.Ring.Nat
import Mathlib.Data.List.DropRight
import PhpAudit.Failure.Named
import PhpAudit.Proofs.Filings

/-!
Incident logs over a history of calls. Whatever was filed or cleared before, one more filing puts
one incident at the end of one of the two logs, and clearing empties both. A filing of something
that cannot be told fails and changes nothing. So the logs are the incidents filed since they were
last cleared, divided by severity, and every number a summary gives can be counted on the calls
themselves.
-/

namespace PhpAudit

namespace Topic

theorem severity_eq_warning {topic : Topic} :
    topic.severity = .warning ↔ topic = .validation ∨ topic = .performance := by
  cases topic <;> decide

theorem recoverable_iff {topic : Topic} :
    topic.recoverable = true ↔ topic = .validation ∨ topic = .memory ∨ topic = .performance ∨
      topic = .configuration := by
  cases topic <;> decide

end Topic

/-- Incident and finding of a report say the same, as they are written out. -/
structure Report.Agrees (report : Report) : Prop where
  fields : ∀ key ∈ ["file", "severity", "bad_code", "rule"], ∃ value,
    Mapping.get? report.incident.toMapping key = some value ∧
      Mapping.get? report.finding.toMapping key = some value
  recoverable : ∃ value, Mapping.get? report.incident.toMapping "recoverable" = some value ∧
    Mapping.get? report.finding.metadata "recoverable" = some value

theorem Report.agrees_make (topic : Topic) (file rule line : Value) (now : Float)
    (message fix shownMessage shownFix : String) :
    (make topic file rule line now message fix shownMessage shownFix).Agrees := by
  constructor
  · intro key hkey
    simp only [List.mem_cons, List.not_mem_nil, or_false] at hkey
    rcases hkey with rfl | rfl | rfl | rfl <;> exact ⟨_, rfl, rfl⟩
  · exact ⟨_, rfl, rfl⟩

/-- A filing fails at what it cannot tell, or gives a report under its topic. -/
theorem Filing.report_cases (filing : Filing) (now : Float) :
    (∃ f, filing.obstacle? = some f ∧ filing.report now = .error f) ∨
      (filing.obstacle? = none ∧ ∃ r, filing.report now = .ok r ∧
        r.incident.topic = filing.topic ∧ r.Agrees) := by
  rcases filing.report_tells with ⟨f, hf, hreport⟩ | ⟨hnone, _, _, _, _, _, _, _, hreport⟩
  · exact Or.inl ⟨f, hf, hreport now⟩
  · exact Or.inr ⟨hnone, _, hreport now, rfl, Report.agrees_make _ _ _ _ _ _ _ _ _⟩

/-- The finding comes back unless a rule is named that cannot be written. -/
theorem Report.answer_cases (r : Report) :
    (r.incident.rule.isEmpty = true ∨ r.incident.rule.unwritable? = none →
        r.answer = .ok r.finding) ∧
      ∀ f, r.incident.rule.isEmpty = false → r.incident.rule.unwritable? = some f →
        r.answer = .error f := by
  constructor
  · rintro (hempty | hnone)
    · rw [answer, if_pos hempty]
    · rw [answer, Value.written, hnone]
      split <;> rfl
  · intro f hgiven hf
    rw [answer, hgiven, Value.written, hf]
    rfl

namespace HandlerCall

def isClear : HandlerCall → Bool
  | .file .. => false
  | .clear => true

/-- The topic that the call files something under. -/
def topic? : HandlerCall → Option Topic
  | .file filing _ => if filing.obstacle?.isNone then some filing.topic else none
  | .clear => none

def incident? : HandlerCall → Option Incident
  | .file filing now => (filing.report now).toOption.map (·.incident)
  | .clear => none

theorem topic?_eq_map (call : HandlerCall) : call.topic? = call.incident?.map (·.topic) := by
  cases call with
  | file filing now =>
      rcases filing.report_cases now with ⟨f, hf, hreport⟩ | ⟨hnone, r, hreport, htopic, _⟩
      · rw [topic?, incident?, hf, hreport]
        rfl
      · rw [topic?, incident?, hnone, hreport, ← htopic]
        rfl
  | clear => rfl

/-- The calls after the last one that cleared the logs. -/
def sinceClear (calls : List HandlerCall) : List HandlerCall := calls.rtakeWhile (!·.isClear)

/-- How many of the calls filed something under a topic. -/
def tally (calls : List HandlerCall) (topic : Topic) : Nat :=
  calls.countP (·.topic? == some topic)

theorem sinceClear_file (calls : List HandlerCall) (filing : Filing) (now : Float) :
    sinceClear (calls ++ [.file filing now]) = sinceClear calls ++ [.file filing now] :=
  List.rtakeWhile_concat_pos _ _ _ rfl

theorem sinceClear_clear (calls : List HandlerCall) : sinceClear (calls ++ [.clear]) = [] :=
  List.rtakeWhile_concat_neg _ _ _ (by simp [isClear])

end HandlerCall

namespace IncidentLog

theorem replay_concat (calls : List HandlerCall) (call : HandlerCall) :
    replay (calls ++ [call]) = ((replay calls).take call).2 := by
  rw [replay, List.foldl_concat, replay]

/-- One incident more, at the end of one log, with the other left as it was. -/
def AppendsOne (before after : IncidentLog) (i : Incident) : Prop :=
  (after.errors = before.errors ++ [i] ∧ after.warnings = before.warnings) ∨
    (after.errors = before.errors ∧ after.warnings = before.warnings ++ [i])

theorem appendsOne_add (log : IncidentLog) (i : Incident) : AppendsOne log (log.add i) i := by
  unfold add
  split
  · exact .inr ⟨rfl, rfl⟩
  · exact .inl ⟨rfl, rfl⟩

/-- The logs hold what the calls filed, divided by severity and each in the order of the calls. -/
structure Reflects (log : IncidentLog) (calls : List HandlerCall) : Prop where
  errors : log.errors = (calls.filterMap HandlerCall.incident?).filter (·.severity ≠ .warning)
  warnings : log.warnings = (calls.filterMap HandlerCall.incident?).filter (·.severity = .warning)

/-- One more filing: what it files is added, and if it fails there is nothing to add. -/
theorem Reflects.file {log : IncidentLog} {calls : List HandlerCall} (h : Reflects log calls)
    (filing : Filing) (now : Float) :
    Reflects (log.take (.file filing now)).2 (calls ++ [.file filing now]) := by
  have hcalls : (calls ++ [HandlerCall.file filing now]).filterMap HandlerCall.incident? =
      calls.filterMap HandlerCall.incident? ++
        ((filing.report now).toOption.map (·.incident)).toList := by
    rw [List.filterMap_append]
    cases hreport : filing.report now <;>
      simp [HandlerCall.incident?, hreport, Except.toOption]
  rcases filing.report_cases now with ⟨f, _, hreport⟩ | ⟨_, r, hreport, _⟩
  · constructor
    · simp [take, hreport, hcalls, h.errors, Except.toOption]
    · simp [take, hreport, hcalls, h.warnings, Except.toOption]
  · by_cases hwarning : r.incident.severity = .warning
    · constructor
      · simp [take, hreport, add, hwarning, hcalls, h.errors, Except.toOption]
      · simp [take, hreport, add, hwarning, hcalls, h.warnings, Except.toOption]
    · constructor
      · simp [take, hreport, add, hwarning, hcalls, h.errors, Except.toOption]
      · simp [take, hreport, add, hwarning, hcalls, h.warnings, Except.toOption]

theorem reflects_replay (calls : List HandlerCall) :
    Reflects (replay calls) (HandlerCall.sinceClear calls) := by
  -- from the end: the last call extends what came before it, or forgets it
  induction calls using List.reverseRecOn with
  | nil => exact ⟨rfl, rfl⟩
  | append_singleton calls call ih =>
      rw [replay_concat]
      cases call with
      | file filing now =>
          rw [HandlerCall.sinceClear_file]
          exact ih.file filing now
      | clear =>
          rw [HandlerCall.sinceClear_clear]
          exact ⟨rfl, rfl⟩

/-- Each incident is counted under one topic. -/
theorem sum_countP_topic (incidents : List Incident) :
    (Topic.all.map fun topic => incidents.countP (·.topic == topic)).sum = incidents.length := by
  induction incidents with
  | nil => rfl
  | cons i rest ih =>
      simp only [Topic.all, List.map_cons, List.map_nil, List.sum_cons, List.sum_nil,
        List.countP_cons, List.length_cons] at ih ⊢
      cases i.topic <;> simp <;> omega

namespace Reflects

variable {log : IncidentLog} {calls : List HandlerCall}

theorem perm (h : Reflects log calls) : log.all.Perm (calls.filterMap HandlerCall.incident?) := by
  have hparts := List.filter_append_perm (fun i : Incident => decide (i.severity ≠ .warning))
    (calls.filterMap HandlerCall.incident?)
  simp only [decide_not, Bool.not_not] at hparts
  rw [all, h.errors, h.warnings]
  simpa only [decide_not] using hparts

theorem count_eq (h : Reflects log calls) (topic : Topic) :
    log.count topic = HandlerCall.tally calls topic := by
  rw [count, h.perm.countP_eq, List.countP_filterMap, HandlerCall.tally]
  congr 1
  funext call
  rw [call.topic?_eq_map]
  cases call.incident? <;> rfl

theorem mem_errors (h : Reflects log calls) {i : Incident} :
    i ∈ log.errors ↔ (∃ call ∈ calls, call.incident? = some i) ∧
      i.topic ≠ .validation ∧ i.topic ≠ .performance := by
  rw [h.errors, List.mem_filter, List.mem_filterMap, decide_eq_true_iff, Incident.severity, Ne,
    Topic.severity_eq_warning, not_or]

theorem mem_warnings (h : Reflects log calls) {i : Incident} :
    i ∈ log.warnings ↔ (∃ call ∈ calls, call.incident? = some i) ∧
      (i.topic = .validation ∨ i.topic = .performance) := by
  rw [h.warnings, List.mem_filter, List.mem_filterMap, decide_eq_true_iff, Incident.severity,
    Topic.severity_eq_warning]

theorem hasRecoverable_iff (h : Reflects log calls) :
    log.hasRecoverable = true ↔ ∃ call ∈ calls,
      call.topic? = some .memory ∨ call.topic? = some .configuration := by
  rw [hasRecoverable, List.any_eq_true]
  constructor
  · rintro ⟨i, hi, hrecoverable⟩
    obtain ⟨⟨call, hcall, hincident⟩, hplace⟩ := h.mem_errors.mp hi
    refine ⟨call, hcall, ?_⟩
    rw [call.topic?_eq_map, hincident, Option.map_some, Option.some.injEq, Option.some.injEq]
    rcases Topic.recoverable_iff.mp hrecoverable with hsame | hsame | hsame | hsame
    · exact absurd hsame hplace.1
    · exact .inl hsame
    · exact absurd hsame hplace.2
    · exact .inr hsame
  · rintro ⟨call, hcall, htopic⟩
    have hincident : ∃ i, call.incident? = some i ∧
        (i.topic = .memory ∨ i.topic = .configuration) := by
      cases hfiled : call.incident? with
      | none => simp [call.topic?_eq_map, hfiled] at htopic
      | some i => exact ⟨i, rfl, by simpa [call.topic?_eq_map, hfiled] using htopic⟩
    obtain ⟨i, hfiled, hsame⟩ := hincident
    refine ⟨i, h.mem_errors.mpr ⟨⟨call, hcall, hfiled⟩, ?_⟩, Topic.recoverable_iff.mpr ?_⟩
    · rcases hsame with hsame | hsame <;> simp [hsame]
    · rcases hsame with hsame | hsame <;> simp [hsame]

end Reflects

/-- Advice that is given from some number of incidents under a topic on. -/
structure Advice where
  topic : Topic
  least : Nat
  text : String

/-- All advice, in the order it is given. -/
def advices : List Advice :=
  [⟨.parsing, 1, "Consider adding syntax validation before rule processing"⟩,
    ⟨.memory, 1, "Implement chunked processing for large files"⟩,
    ⟨.performance, 2, "Enable AST caching and tune its size and TTL for this workload"⟩]

/-- The advice that some numbers of incidents call for. -/
def advised (tally : Topic → Nat) : List String :=
  (advices.filter fun advice => advice.least ≤ tally advice.topic).map (·.text)

theorem suggestions_eq (log : IncidentLog) : log.suggestions = advised log.count := by
  have hpiece (advice : Advice) (rest : List Advice) :
      ((advice :: rest).filter fun advice => advice.least ≤ log.count advice.topic).map (·.text) =
        (if advice.least ≤ log.count advice.topic then [advice.text] else []) ++
          (rest.filter fun advice => advice.least ≤ log.count advice.topic).map (·.text) := by
    rw [List.filter_cons]
    by_cases hleast : advice.least ≤ log.count advice.topic <;> simp [hleast]
  rw [advised, advices, hpiece, hpiece, hpiece, suggestions, List.append_assoc]
  exact congrArg _ (congrArg _ (List.append_nil _).symm)

/-- The summary of a log, counted on the calls that filled it. -/
structure Tallies (log : IncidentLog) (calls : List HandlerCall) : Prop where
  totals : Mapping.get? log.stats "total_errors" = some (.int log.errors.length) ∧
    Mapping.get? log.stats "total_warnings" = some (.int log.warnings.length)
  categories : ∃ categories, Mapping.get? log.stats "categories" = some (.map categories) ∧
    ∀ topic : Topic, ∃ entry, Mapping.get? categories topic.name = some (.map entry) ∧
      Mapping.get? entry "count" = some (.int (HandlerCall.tally calls topic))
  tally : ∀ topic, HandlerCall.tally calls topic =
    log.errors.countP (·.topic == topic) + log.warnings.countP (·.topic == topic)
  sum : (Topic.all.map (HandlerCall.tally calls)).sum = calls.countP (·.topic?.isSome)
  recoverable : log.hasRecoverable = true ↔ ∃ call ∈ calls,
    call.topic? = some .memory ∨ call.topic? = some .configuration
  suggestions : log.suggestions = advised (HandlerCall.tally calls)
  report : Mapping.get? log.report "summary" = some (.map log.stats) ∧
    Mapping.get? log.report "has_recoverable_errors" = some (.bool log.hasRecoverable) ∧
    Mapping.get? log.report "suggestions" = some (.list (log.suggestions.map .text))

theorem exists_categories (log : IncidentLog) :
    ∃ categories, Mapping.get? log.stats "categories" = some (.map categories) ∧
      ∀ topic : Topic, ∃ entry, Mapping.get? categories topic.name = some (.map entry) ∧
        Mapping.get? entry "count" = some (.int (log.count topic)) := by
  refine ⟨_, rfl, fun topic => ?_⟩
  cases topic <;> exact ⟨_, rfl, rfl⟩

theorem Reflects.tallies {log : IncidentLog} {calls : List HandlerCall} (h : Reflects log calls) :
    Tallies log calls where
  totals := ⟨rfl, rfl⟩
  categories := by
    obtain ⟨categories, hcategories, hcounts⟩ := log.exists_categories
    refine ⟨categories, hcategories, fun topic => ?_⟩
    obtain ⟨entry, hentry, hcount⟩ := hcounts topic
    exact ⟨entry, hentry, by rw [hcount, h.count_eq]⟩
  tally topic := by rw [← h.count_eq, count, all, List.countP_append]
  sum := by
    have hlength : (calls.filterMap HandlerCall.incident?).length =
        calls.countP (·.topic?.isSome) := by
      rw [List.length_filterMap_eq_countP]
      congr 1
      funext call
      rw [call.topic?_eq_map, Option.isSome_map]
    have hsum := sum_countP_topic log.all
    rw [h.perm.length_eq, hlength] at hsum
    rw [← hsum]
    congr 2
    funext topic
    exact (h.count_eq topic).symm
  recoverable := h.hasRecoverable_iff
  suggestions := by rw [suggestions_eq, funext h.count_eq]
  report := ⟨rfl, rfl, rfl⟩

/-- What one more filing comes to after a history of calls. -/
structure Files (calls : List HandlerCall) (filing : Filing) (now : Float) : Prop where
  /-- What cannot be told is what the call fails with, and nothing is filed. -/
  untold : ∀ f, filing.obstacle? = some f →
    (replay calls).take (.file filing now) = (.error f, replay calls)
  /-- In all other cases one incident is filed, in agreement with the finding that comes back; it
  comes back unless the rule that is named cannot be written. -/
  told : filing.obstacle? = none → ∃ r, filing.report now = .ok r ∧
    r.incident.topic = filing.topic ∧ r.Agrees ∧
    AppendsOne (replay calls) (replay (calls ++ [.file filing now])) r.incident ∧
    (r.incident.rule.isEmpty = true ∨ r.incident.rule.unwritable? = none →
      ((replay calls).take (.file filing now)).1 = .ok (some r.finding)) ∧
    ∀ f, r.incident.rule.isEmpty = false → r.incident.rule.unwritable? = some f →
      ((replay calls).take (.file filing now)).1 = .error f

theorem replay_files (calls : List HandlerCall) (filing : Filing) (now : Float) :
    Files calls filing now := by
  rcases filing.report_cases now with ⟨f, hf, hreport⟩ | ⟨hnone, r, hreport, htopic, hagrees⟩
  · constructor
    · intro e he
      cases hf.symm.trans he
      simp only [take, hreport]
    · intro hnone
      cases hf.symm.trans hnone
  · have htake : (replay calls).take (.file filing now) =
        (some <$> r.answer, (replay calls).add r.incident) := by
      simp only [take, hreport]
    obtain ⟨hanswer, hunnamed⟩ := r.answer_cases
    constructor
    · intro f hf
      cases hnone.symm.trans hf
    · intro _
      refine ⟨r, hreport, htopic, hagrees, ?_, fun h => ?_, fun f hgiven hf => ?_⟩
      · rw [replay_concat, htake]
        exact appendsOne_add _ _
      · rw [htake, hanswer h]
        rfl
      · rw [htake, hunnamed f hgiven hf]
        rfl

/-- After any history of calls: one more filing fails without a trace if something cannot be told,
and otherwise adds one incident to one log, under the filing's topic and in agreement with the
finding it returns; the logs keep warnings and errors apart; and the summary says what was filed
since the logs were last cleared. -/
theorem replay_consistent (calls : List HandlerCall) :
    (∀ filing now, Files calls filing now) ∧
      (replay (calls ++ [.clear]) = {}) ∧
      (∀ i ∈ (replay calls).errors, i.topic ≠ .validation ∧ i.topic ≠ .performance) ∧
      (∀ i ∈ (replay calls).warnings, i.topic = .validation ∨ i.topic = .performance) ∧
      Tallies (replay calls) (HandlerCall.sinceClear calls) := by
  have hreflects := reflects_replay calls
  refine ⟨replay_files calls, ?_, ?_, ?_, hreflects.tallies⟩
  · rw [replay_concat]
    rfl
  · intro i hi
    exact (hreflects.mem_errors.mp hi).2
  · intro i hi
    exact (hreflects.mem_warnings.mp hi).2

/-- A failure to encode a character before the first one, which has no text. -/
def misplaced : Failure :=
  .ofClass "UnicodeEncodeError" [.text "ascii", .text "é", .int (-1), .int 0, .text "r"]

/-- A file too large and a slow rule, forgotten again, then a source that cannot be parsed, and a
failure that cannot be told. -/
def clearedHistory : List HandlerCall :=
  [.file (.memory (.text "a.php") (.resourceLimit "too large") (.text "")) 1,
    .file (.performance (.text "a.php") "slow" (.float 0.5) (.text "Style")) 2, .clear,
    .file (.failure (.text "b.php") (.parsing "unexpected token" 3) "" (.text "Style")) 3,
    .file (.failure (.text "b.php") misplaced "" (.text "Style")) 4]

theorem clearedHistory_consistent :
    (∃ i, (replay clearedHistory).errors = [i] ∧ i.topic = .parsing ∧
        i.topic ≠ .validation ∧ i.topic ≠ .performance) ∧
      Tallies (replay clearedHistory) (clearedHistory.drop 3) ∧
      (clearedHistory.drop 3).countP (·.topic?.isSome) = 1 ∧
      ∃ f, (replay clearedHistory).take (.file (.failure (.text "b.php") misplaced ""
        (.text "Style")) 5) = (.error f, replay clearedHistory) := by
  have hconsistent := replay_consistent clearedHistory
  refine ⟨⟨_, rfl, rfl, hconsistent.2.2.1 _ List.mem_cons_self⟩, hconsistent.2.2.2.2,
    by decide +kernel, ?_⟩
  exact ⟨_, (hconsistent.1 _ 5).untold _ rfl⟩

end IncidentLog

end PhpAudit
