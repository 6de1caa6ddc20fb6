import PhpAudit.Audit.Run
import PhpAudit.Proofs.CacheSteps
import PhpAudit.Proofs.Filings

/-!
A run without memory. The reference reads every file anew for every rule, parses it afresh and
judges what the rule answers; it has no cache, no clock and no log, only findings and the incidents
each check would file. It fails where a failure cannot be told and where the size of something that
is no path is asked for. An audit gives the findings of the reference and files its incidents,
whatever its cache holds, as long as the cache is sound. Incidents about time have no counterpart in
the reference, and dates are left out of the comparison.
-/

namespace PhpAudit

/-- Each path once, at its first place: read from the end, at its last. -/
theorem firstOccurrences_eq_dedup (paths : List String) :
    firstOccurrences paths = paths.reverse.dedup.reverse := by
  induction paths with
  | nil => rfl
  | cons path rest ih =>
      rw [List.reverse_cons, dedup_concat, List.reverse_append, ← List.filter_reverse, ← ih]
      rfl

/-- Everything that can be read under the paths is among the contents. -/
def Workspace.ReadsFrom (ws : Workspace) (paths : List String) (known : Set Bytes) : Prop :=
  ∀ path ∈ paths, ∀ content mtime, ws.files.read path = .ok (content, mtime) → content ∈ known

/-- What a check comes to: findings or a failure, and the incidents filed by then. -/
structure Verdict where
  result : Except Failure (List Finding) := .ok []
  incidents : List Incident := []

namespace Incident

def undated (i : Incident) : Incident := { i with timestamp := 0 }

/-- The incidents that are not about time, without their dates. -/
def timeless (incidents : List Incident) : List Incident :=
  (incidents.filter fun i => i.topic != .performance).map undated

theorem timeless_append (first second : List Incident) :
    timeless (first ++ second) = timeless first ++ timeless second := by
  simp [timeless]

theorem timeless_perm {first second : List Incident} (h : first.Perm second) :
    (timeless first).Perm (timeless second) :=
  (h.filter _).map undated

theorem timeless_singleton_congr {i j : Incident} (h : i.undated = j.undated) :
    timeless [i] = timeless [j] := by
  have htopic : i.topic = j.topic := by
    change i.undated.topic = j.undated.topic
    rw [h]
  simp only [timeless, List.filter_cons, List.filter_nil, htopic]
  split
  · simp [h]
  · rfl

end Incident

/-- `after` is `before` with further incidents filed, which up to time are the given ones. -/
def IncidentLog.Extends (before after : IncidentLog) (incidents : List Incident) : Prop :=
  ∃ filed : List Incident, after = filed.foldl IncidentLog.add before ∧
    Incident.timeless filed = Incident.timeless incidents

namespace Rule

/-- What a script emits up to its end, or the failure that ends it. -/
def collect : List Step → Except Failure (List Item)
  | [] => .ok []
  | .wait _ :: rest => collect rest
  | .fail f :: _ => .error f
  | .emit item :: rest => (item :: ·) <$> collect rest

/-- The answer of a script; a stream answers before it is run. -/
def answer (script : Script) : Except Failure Answer :=
  match script.reply with
  | .streamed | .lazy => .ok (.stream script.steps)
  | .collected => .items <$> collect script.steps
  | .fixed v => (fun _ => .value v) <$> collect script.steps

/-- The warning about something that is no finding. -/
def warning (rule : Rule) (path : String) (reason : Rejection) : Incident :=
  (Report.validationOf (.text path) (Failure.described "ViolationValidationError" reason)
    (.text rule.typeName) 0).incident

/-- The findings among emitted items with the warnings about the others. A failure discards the
findings but not the warnings before it. -/
def judge (rule : Rule) (path : String) : List Step → Except Failure (List Finding) × List Incident
  | [] => (.ok [], [])
  | .wait _ :: rest => judge rule path rest
  | .fail f :: _ => (.error f, [])
  | .emit item :: rest =>
      let later := judge rule path rest
      match rule.normaliseItem path item with
      | .error f => (.error f, [])
      | .ok (.ok finding) => ((finding :: ·) <$> later.1, later.2)
      | .ok (.error rejection) => (later.1, rule.warning path rejection :: later.2)

def judgeAnswer (rule : Rule) (path : String) :
    Answer → Except Failure (List Finding) × List Incident
  | .items xs => rule.judge path (xs.map .emit)
  | .stream steps => rule.judge path steps
  | .value .null => (.ok [], [])
  | .value v =>
      match itemsOf? v with
      | some items => rule.judge path (items.map fun item => .emit (.value item))
      | none => (.ok [], [rule.warning path ("Expected a list of violations, got " ++ v.kindName)])

def judgeScript (rule : Rule) (path : String) (script : Script) :
    Except Failure (List Finding) × List Incident :=
  match answer script with
  | .error f => (.error f, [])
  | .ok a => rule.judgeAnswer path a

end Rule

namespace Verdict

/-- Nothing found but a failure reported, unless there is no report. -/
def submit (report : Except Failure Report) : Verdict :=
  match report with
  | .error f => ⟨.error f, []⟩
  | .ok r => ⟨.ok [], [r.incident]⟩

/-- Findings as they were judged; a failure is reported after the warnings before it. -/
def settle (judged : Except Failure (List Finding) × List Incident)
    (onFailure : Failure → Except Failure Report) : Verdict :=
  match judged.1 with
  | .ok findings => ⟨.ok findings, judged.2⟩
  | .error f => ⟨(submit (onFailure f)).result, judged.2 ++ (submit (onFailure f)).incidents⟩

/-- One verdict after another; the second does not come about if the first has failed. -/
def andThen (first second : Verdict) : Verdict :=
  match first.result with
  | .error f => ⟨.error f, first.incidents⟩
  | .ok found => ⟨(found ++ ·) <$> second.result, first.incidents ++ second.incidents⟩

/-- Verdicts one after another, up to the first that has failed. -/
def inTurn (verdicts : List Verdict) : Verdict := verdicts.foldr andThen {}

theorem inTurn_cons_of_ok {verdict : Verdict} {found : List Finding} (h : verdict.result = .ok found)
    (rest : List Verdict) : inTurn (verdict :: rest) =
      ⟨(found ++ ·) <$> (inTurn rest).result, verdict.incidents ++ (inTurn rest).incidents⟩ := by
  rw [inTurn, List.foldr_cons, andThen, h]
  rfl

theorem inTurn_cons_of_error {verdict : Verdict} {f : Failure} (h : verdict.result = .error f)
    (rest : List Verdict) : inTurn (verdict :: rest) = ⟨.error f, verdict.incidents⟩ := by
  rw [inTurn, List.foldr_cons, andThen, h]

/-- The findings of verdicts in turn are put together, if all of them have any. -/
theorem result_inTurn (verdicts : List Verdict) :
    (inTurn verdicts).result = List.flatten <$> (verdicts.map result).mapM id := by
  induction verdicts with
  | nil => rfl
  | cons verdict rest ih =>
      rw [List.map_cons, List.mapM_cons]
      cases hresult : verdict.result with
      | error f =>
          rw [inTurn_cons_of_error hresult]
          rfl
      | ok found =>
          rw [inTurn_cons_of_ok hresult, ih]
          cases (rest.map result).mapM id <;> rfl

/-- Verdicts in turn have findings if each of them has. -/
theorem exists_result_inTurn_iff (verdicts : List Verdict) :
    (∃ found, (inTurn verdicts).result = .ok found) ↔
      ∀ verdict ∈ verdicts, ∃ own, verdict.result = .ok own := by
  induction verdicts with
  | nil => simp [inTurn]
  | cons verdict rest ih =>
      rw [List.forall_mem_cons, ← ih]
      cases hresult : verdict.result with
      | error f => simp [inTurn_cons_of_error hresult]
      | ok first =>
          rw [inTurn_cons_of_ok hresult]
          cases (inTurn rest).result <;> simp

/-- If none has failed, all incidents are there. -/
theorem incidents_inTurn {verdicts : List Verdict} {found : List Finding}
    (h : (inTurn verdicts).result = .ok found) :
    (inTurn verdicts).incidents = verdicts.flatMap incidents := by
  induction verdicts generalizing found with
  | nil => rfl
  | cons verdict rest ih =>
      cases hresult : verdict.result with
      | error f =>
          rw [inTurn_cons_of_error hresult] at h
          cases h
      | ok first =>
          rw [inTurn_cons_of_ok hresult] at h ⊢
          cases hrest : (inTurn rest).result with
          | error f =>
              rw [hrest] at h
              cases h
          | ok others => rw [List.flatMap_cons, ih hrest]

end Verdict

namespace Rule

/-- A script that gives a list of all it emits in place of a stream. -/
def eager (script : Script) : Script :=
  match script.reply with
  | .streamed => { script with reply := .collected }
  | _ => script

/-- A tree rule on a file it applies to: the file is read and parsed afresh. -/
def referenceOnFile (ws : Workspace) (rule : Rule) (script : SyntaxTree → String → Script)
    (path : String) : Verdict :=
  match ws.files.read path with
  | .error f => .submit (Report.fileAccess (.text path) f (.text rule.typeName) 0)
  | .ok (content, _) =>
      match ws.grammar.fresh content with
      | .error f => .submit (Report.parsing (.text path) f (.text rule.typeName) 0)
      | .ok tree => .settle (rule.judgeScript path (eager (script tree path)))
          fun f => Report.ofFailure (.text path) f "" (.text rule.typeName) 0

/-- What a rule makes of a file by itself, before its failure is reported. -/
def judgeFile (ws : Workspace) (rule : Rule) (path : String) :
    Except Failure (List Finding) × List Incident :=
  match rule.body with
  | .direct script => rule.judgeScript path (script path)
  | .tree script =>
      match rule.appliesTo path with
      | .error f => (.error f, [])
      | .ok applies =>
          if applies && ws.files.isReadable path then
            let verdict := rule.referenceOnFile ws script path
            (verdict.result, verdict.incidents)
          else (.ok [], [])

/-- What a rule makes of a file when nothing is remembered from earlier checks. -/
def reference (ws : Workspace) (rule : Rule) (path : String) : Verdict :=
  .settle (rule.judgeFile ws path)
    fun f => Report.ruleProcessing (.text path) f (.text rule.typeName) "" 0

end Rule

namespace Audit

/-- What all rules make of a file; nothing, if the file is too large, and a failure if its size
cannot be asked for. -/
def referenceFile (ws : Workspace) (limits : LimitSettings) (rules : List Rule) (path : String) :
    Verdict :=
  if isUnsizable limits path then ⟨.error .notPath, []⟩
  else
    match exceededCeiling? limits (ws.files.size path) with
    | some ceiling => ⟨.ok [], [(oversizeReport path (ws.files.size path) ceiling 0).incident]⟩
    | none => .inTurn (rules.map fun rule => rule.reference ws path)

/-- What all rules make of all files, one after another. -/
def referenceRun (ws : Workspace) (limits : LimitSettings) (rules : List Rule)
    (paths : List String) : Verdict :=
  .inTurn (paths.map (referenceFile ws limits rules))

end Audit

/-- How a session may change: its settings stay, its cache stays sound, and the given incidents are
filed. -/
structure Session.Becomes (g : Grammar) (known : Set Bytes) (s t : Session)
    (incidents : List Incident) : Prop where
  settings : t.settings = s.settings
  sound : s.cache.Sound g known → t.cache.Sound g known
  filed : s.incidents.Extends t.incidents incidents

namespace Session

variable {g : Grammar} {known : Set Bytes} {s t u : Session} {first second : List Incident}

/-- Changes to the clock, the samples and the log lines do not show. -/
theorem Becomes.of_eq (hsettings : t.settings = s.settings) (hcache : t.cache = s.cache)
    (hincidents : t.incidents = s.incidents) : Becomes g known s t [] where
  settings := hsettings
  sound := by
    rw [hcache]
    exact id
  filed := ⟨[], hincidents, rfl⟩

theorem Becomes.refl (s : Session) : Becomes g known s s [] := .of_eq rfl rfl rfl

theorem Becomes.trans (h : Becomes g known s t first) (h' : Becomes g known t u second) :
    Becomes g known s u (first ++ second) where
  settings := h'.settings.trans h.settings
  sound := h'.sound ∘ h.sound
  filed := by
    obtain ⟨one, hone, htimeless⟩ := h.filed
    obtain ⟨two, htwo, htimeless'⟩ := h'.filed
    refine ⟨one ++ two, ?_, ?_⟩
    · rw [htwo, hone, List.foldl_append]
    · rw [Incident.timeless_append, Incident.timeless_append, htimeless, htimeless']

/-- A change that does not show may come before or after one that does. -/
theorem Becomes.then_of_eq (h : Becomes g known s t first) (hsettings : u.settings = t.settings)
    (hcache : u.cache = t.cache) (hincidents : u.incidents = t.incidents) :
    Becomes g known s u first := by
  have hthen := h.trans (Becomes.of_eq hsettings hcache hincidents)
  rwa [List.append_nil] at hthen

/-- Filing a report, whatever date it carries. -/
theorem Becomes.file (s : Session) {r : Report} {incident : Incident}
    (h : r.incident.undated = incident.undated) : Becomes g known s (s.file r) [incident] where
  settings := rfl
  sound := id
  filed := ⟨[r.incident], rfl, Incident.timeless_singleton_congr h⟩

/-- A report about time is none of the reference's business. -/
theorem Becomes.file_performance (s : Session) {r : Report}
    (h : r.incident.topic = .performance) : Becomes g known s (s.file r) [] where
  settings := rfl
  sound := id
  filed := ⟨[r.incident], rfl, by simp [Incident.timeless, h]⟩

end Session

end PhpAudit
