import PhpAudit.Proofs.ReferenceRun

/-!
Checks with the rules that come with the engine. Whatever happens to the file and the tree ends among
the incidents, since all that a bundled rule fails with can be told. So a check fails only where the
rule cannot tell whether it applies.
Of the bundled rules only the one about driver access looks at the path, and its targets are options
whose items nobody has checked: the search fails at a target that is no text, if it comes to it.
-/

namespace PhpAudit

open Failure (OnlyTold onlyTold_ok onlyTold_error)

theorem RuleCard.onlyTold_integerOption (card : RuleCard) (chosen : Mapping String Value)
    (key : String) : OnlyTold (card.integerOption chosen key) := by
  unfold integerOption
  dsimp only
  split
  · exact onlyTold_ok _
  · exact onlyTold_error (Failure.isTold_plain _ _)

/-- A rule that is built does what its card says with the options chosen for it. -/
theorem RuleCard.body_of_build {card : RuleCard}
    {appliesTo : Mapping String Value → String → Except Failure Bool}
    {perform : Mapping String Value → SyntaxTree → String → Except Failure (List Finding)}
    {options : Value} {rule : Rule} (h : card.build appliesTo perform options = .ok rule) :
    rule.body = .tree fun tree path => script (perform rule.chosen tree path) := by
  obtain ⟨chosen, _, h⟩ := exists_ok_of_bind h
  cases h
  rfl

theorem Text.occursIn_iff_infix (needle text : List Char) :
    Text.occursIn needle text = true ↔ needle <:+: text := by
  induction text with
  | nil => simp [occursIn]
  | cons c rest ih => simp [occursIn, List.infix_cons_iff, ih]

namespace Mapping

variable {κ ν : Type} [DecidableEq κ]

theorem get?_put (m : Mapping κ ν) (key other : κ) (value : ν) :
    get? (put m key value) other = if key = other then some value else get? m other := by
  induction m with
  | nil => simp [put, get?]
  | cons pair rest ih =>
      obtain ⟨k, v⟩ := pair
      by_cases hput : k = key
      · subst hput
        by_cases hother : k = other <;> simp [put, get?, hother]
      · by_cases hother : k = other
        · subst hother
          simp [put, get?, hput, Ne.symm hput]
        · simp [put, get?, hput, hother, ih]

end Mapping

namespace Rule

theorem chooseOptions_map (typeName : String) (declared : Mapping String OptionSpec)
    (given : Mapping String Value) :
    chooseOptions typeName declared (.map given) = coerceOptions typeName given declared given := by
  cases given <;> rfl

/-- Options outside the declared ones pass as they are. -/
theorem coerceOptions_get?_of_notMem {typeName : String} {given acc chosen : Mapping String Value}
    {declared : Mapping String OptionSpec} {key : String} (hkey : key ∉ Mapping.keys declared)
    (h : coerceOptions typeName given declared acc = .ok chosen) :
    Mapping.get? chosen key = Mapping.get? acc key := by
  induction declared generalizing acc with
  | nil =>
      cases h
      rfl
  | cons pair rest ih =>
      obtain ⟨other, spec⟩ := pair
      simp only [Mapping.keys, List.map_cons, List.mem_cons, not_or] at hkey
      unfold coerceOptions at h
      split at h
      · exact ih hkey.2 h
      · dsimp only at h
        split at h
        · rw [ih hkey.2 h, Mapping.get?_put, if_neg (Ne.symm hkey.1)]
        · cases h

/-- A declared option that is given comes out brought to its type; one that is not given stays as
it was. -/
theorem coerceOptions_get? {typeName : String} {given acc chosen : Mapping String Value}
    {declared : Mapping String OptionSpec} {key : String} {spec : OptionSpec}
    (hnodup : (Mapping.keys declared).Nodup) (hspec : Mapping.get? declared key = some spec)
    (h : coerceOptions typeName given declared acc = .ok chosen) :
    (Mapping.get? given key = none ∧ Mapping.get? chosen key = Mapping.get? acc key) ∨
      ∃ v w, Mapping.get? given key = some v ∧
        (OptionType.ofName spec.type).coerce v = .ok w ∧ Mapping.get? chosen key = some w := by
  induction declared generalizing acc with
  | nil => cases hspec
  | cons pair rest ih =>
      obtain ⟨first, firstSpec⟩ := pair
      obtain ⟨hfirst, hrest⟩ := List.nodup_cons.mp hnodup
      unfold coerceOptions at h
      by_cases hkey : first = key
      · subst hkey
        have hsame : firstSpec = spec := by simpa [Mapping.get?] using hspec
        subst hsame
        split at h
        · next hnone => exact Or.inl ⟨hnone, coerceOptions_get?_of_notMem hfirst h⟩
        · next v hsome =>
            dsimp only at h
            split at h
            · next w hcoerced =>
                refine Or.inr ⟨v, w, hsome, hcoerced, ?_⟩
                rw [coerceOptions_get?_of_notMem hfirst h, Mapping.get?_put, if_pos rfl]
            · cases h
      · have hlater : Mapping.get? rest key = some spec := by
          simpa [Mapping.get?, hkey] using hspec
        split at h
        · exact ih hrest hlater h
        · dsimp only at h
          split at h
          · have hcases := ih hrest hlater h
            rwa [Mapping.get?_put, if_neg hkey] at hcases
          · cases h

end Rule

namespace OptionType

/-- A list or a tuple passes for an array. -/
theorem coerce_array_eq_ok {v w : Value} (h : OptionType.array.coerce v = .ok w) :
    ∃ items, (v = .list items ∨ v = .tuple items) ∧ w = .list items := by
  cases v with
  | list items =>
      cases h
      exact ⟨items, Or.inl rfl, rfl⟩
  | tuple items =>
      cases h
      exact ⟨items, Or.inr rfl, rfl⟩
  | _ => cases h

end OptionType

namespace MongoAccess

/-- The search for one of the targets in a path comes to a value that is no text. -/
inductive Strays (path : List Char) : List Value → Value → Prop where
  | here {stray : Value} {rest : List Value} (h : ∀ target, stray ≠ .text target) :
      Strays path (stray :: rest) stray
  | later {target : String} {rest : List Value} {stray : Value} (habsent : ¬target.toList <:+: path)
      (h : Strays path rest stray) : Strays path (.text target :: rest) stray

def strayFailure (stray : Value) : Failure :=
  .wrongType ("'in <string>' requires string as left operand, not " ++ stray.kindName)

theorem targets_of_strays {path : List Char} {values : List Value} {stray : Value}
    (h : Strays path values stray) : targets path values = .error (strayFailure stray) := by
  induction h with
  | @here stray rest hstray =>
      cases stray with
      | text target => exact absurd rfl (hstray target)
      | _ => rfl
  | @later target rest stray habsent _ ih =>
      have hmiss : Text.occursIn target.toList path = false := by
        rw [← Bool.not_eq_true, Text.occursIn_iff_infix]
        exact habsent
      simp only [targets, hmiss, Bool.false_eq_true, if_false]
      exact ih

theorem targets_cases (path : List Char) (values : List Value) :
    (∃ answer, targets path values = .ok answer) ∨ ∃ stray, Strays path values stray := by
  induction values with
  | nil => exact Or.inl ⟨false, rfl⟩
  | cons v rest ih =>
      cases v with
      | text target =>
          cases hfound : Text.occursIn target.toList path with
          | true => exact Or.inl ⟨true, by simp [targets, hfound]⟩
          | false =>
              have habsent : ¬target.toList <:+: path := by
                rw [← Text.occursIn_iff_infix, hfound]
                exact Bool.false_ne_true
              rcases ih with ⟨answer, hanswer⟩ | ⟨stray, hstrays⟩
              · exact Or.inl ⟨answer, by simpa [targets, hfound] using hanswer⟩
              · exact Or.inr ⟨stray, .later habsent hstrays⟩
      | _ => exact Or.inr ⟨_, .here (by rintro _ ⟨⟩)⟩

/-- The targets that a rule with the given options searches for. -/
def targetsOf (given : Mapping String Value) : List Value :=
  match Mapping.get? given "target_paths" with
  | some (.list items) => items
  | some (.tuple items) => items
  | _ => defaultTargets.map .text

theorem arrayOption_targets {given chosen : Mapping String Value}
    (h : Rule.chooseOptions card.typeName card.declared (.map given) = .ok chosen) :
    card.arrayOption chosen "target_paths" = targetsOf given := by
  rw [Rule.chooseOptions_map] at h
  have hspec : Mapping.get? card.declared "target_paths" =
      some ⟨"array", .list (defaultTargets.map .text), "Paths to scan for MongoDB usage"⟩ := rfl
  unfold RuleCard.arrayOption RuleCard.option targetsOf
  rcases Rule.coerceOptions_get? (by decide) hspec h with
    ⟨hnone, hkept⟩ | ⟨v, w, hgiven, hcoerce, hw⟩
  · rw [hkept, hnone]
    rfl
  · obtain ⟨items, hv, rfl⟩ := OptionType.coerce_array_eq_ok hcoerce
    rw [hw, hgiven]
    rcases hv with rfl | rfl
    · rfl
    · rfl

theorem onlyTold_isDriverName (patterns : List Value) (name : String) :
    OnlyTold (isDriverName patterns name) := by
  unfold isDriverName
  induction patterns with
  | nil => exact onlyTold_ok _
  | cons v rest ih =>
      refine .bind ?_ fun pattern => ?_
      · unfold patternChars
        split
        · exact onlyTold_ok _
        · split
          · exact onlyTold_ok _
          · exact onlyTold_error (Failure.isTold_wrongType _)
          · exact onlyTold_error (Failure.isTold_noAttribute _)
      · split
        · exact onlyTold_ok _
        · exact ih

theorem onlyTold_classUsage? (patterns : List Value) (name : String) (usage : Usage) :
    OnlyTold (classUsage? patterns name usage) := by
  refine .bind (onlyTold_isDriverName patterns name) fun isDriver => ?_
  split <;> exact onlyTold_ok _

theorem onlyTold_classify (patterns : List Value) (aliases : Name.Aliases) (source : Bytes)
    (node : Node) : OnlyTold (classify patterns aliases source node) := by
  have hclass := onlyTold_classUsage? patterns
  unfold classify
  split
  · split
    · exact onlyTold_ok _
    · exact hclass _ _
  · dsimp only
    repeat' split
    all_goals first | exact onlyTold_ok _ | exact hclass _ _

theorem onlyTold_usages (patterns : List Value) (tree : SyntaxTree) :
    OnlyTold (usages patterns tree) := by
  have himports (imports : List Import) : OnlyTold (importUsages patterns imports) := by
    induction imports with
    | nil => exact onlyTold_ok _
    | cons i rest ih =>
        have hrest (flagged : Bool) : OnlyTold (importUsages patterns rest >>= fun others =>
            .ok (if flagged then ⟨.import, i.line, i.statement⟩ :: others else others)) :=
          .bind ih fun _ => onlyTold_ok _
        rw [importUsages]
        dsimp only
        split
        · exact .bind (onlyTold_isDriverName patterns i.name) hrest
        · exact .bind (onlyTold_ok false) hrest
  have hnodes (aliases : Name.Aliases) (nodes : List Node) :
      OnlyTold (nodeUsages patterns aliases tree.source nodes) := by
    induction nodes with
    | nil => exact onlyTold_ok _
    | cons node rest ih =>
        exact .bind (onlyTold_classify patterns aliases tree.source node) fun _ =>
          .bind ih fun _ => onlyTold_ok _
  exact .bind (himports _) fun _ => .bind (hnodes _ _) fun _ => onlyTold_ok _

theorem onlyTold_perform (chosen : Mapping String Value) (tree : SyntaxTree) (path : String) :
    OnlyTold (perform chosen tree path) :=
  .bind (onlyTold_usages _ tree) fun _ => onlyTold_ok _

/-- A path as targets are searched for in it. -/
def slashed (path : String) : List Char := path.toList.map fun c => if c = '\\' then '/' else c

end MongoAccess

theorem LaravelPractices.onlyTold_perform (chosen : Mapping String Value) (tree : SyntaxTree)
    (path : String) : OnlyTold (perform chosen tree path) :=
  .bind (card.onlyTold_integerOption chosen _) fun _ => onlyTold_ok _

namespace CodeStyle

theorem onlyTold_magicFindings (tree : SyntaxTree) (path : String) (nodes : List Node) :
    OnlyTold (magicFindings tree path nodes) := by
  induction nodes with
  | nil => exact onlyTold_ok _
  | cons node rest ih =>
      have hfinding : OnlyTold (magicFinding tree path node) := by
        unfold magicFinding
        dsimp only
        split
        · exact .bind (Value.onlyTold_written _) fun _ => onlyTold_ok _
        · exact onlyTold_ok _
      exact .bind hfinding fun _ => .bind ih fun _ => onlyTold_ok _

theorem onlyTold_perform (chosen : Mapping String Value) (tree : SyntaxTree) (path : String) :
    OnlyTold (perform chosen tree path) :=
  .bind (.bind (onlyTold_magicFindings tree path _) fun _ =>
    .bind (card.onlyTold_integerOption chosen _) fun _ => onlyTold_ok _) fun _ => onlyTold_ok _

end CodeStyle

theorem Files.isPath_of_find {files : Files} {path : String} {state : FileState}
    (h : files.find path = .ok state) : isPath path = true := by
  by_contra hnot
  rw [find, if_pos (by simpa using hnot)] at h
  cases h

/-- What the operating system refuses can be told. -/
theorem Files.onlyTold_read (files : Files) (path : String) : OnlyTold (files.read path) := by
  have honFile (name : String) (code : Nat) (text : String) :
      (Failure.onFile name code text path).IsTold := ⟨⟨_, rfl⟩, rfl⟩
  unfold read
  split
  · next fault _ => cases fault <;> exact onlyTold_error (honFile _ _ _)
  · exact onlyTold_error (honFile _ _ _)
  · split
    · exact onlyTold_ok _
    · exact onlyTold_error (honFile _ _ _)

namespace Rule

variable {ws : Workspace} {rule : Rule} {script : SyntaxTree → String → Script} {path : String}
  {s : Session}

theorem check_of_inapplicable (hbody : rule.body = .tree script) {f : Failure}
    (h : rule.appliesTo path = .error f) : rule.check ws path s = (.error f, s) := by
  simp only [check, hbody, checkTree, h]
  rfl

theorem judgeScript_script (rule : Rule) (path : String) (found : Except Failure (List Finding)) :
    rule.judgeScript path (eager (RuleCard.script found)) = (found, []) := by
  cases found with
  | error f => rfl
  | ok findings =>
      have hcollect : collect (findings.map fun f => .emit (.finding f)) =
          .ok (findings.map .finding) := by
        induction findings with
        | nil => rfl
        | cons finding rest ih => simp only [List.map_cons, collect, ih, Except.map_ok]
      have hanswer : answer (eager (RuleCard.script (.ok findings))) =
          .ok (.items (findings.map .finding)) := congrArg (Answer.items <$> ·) hcollect
      rw [judgeScript, hanswer]
      exact rule.judge_findings path findings

/-- A rule that only fails with what can be told gives findings, whatever the file is like. -/
theorem exists_checkFile
    (htold : ∀ tree, OnlyTold (rule.judgeScript path (eager (script tree path))).1)
    (ws : Workspace) (s : Session) : ∃ findings t,
      rule.checkFile ws script path s = (.ok findings, t) := by
  unfold checkFile
  cases hread : ws.files.read path with
  | error f =>
      have htext := (ws.files.onlyTold_read path f hread).text
      obtain ⟨r, hreport⟩ := (Report.tells_fileAccess (.text path) f
        (.text rule.typeName)).exists_report (htext.needs_met path) s.clock
      simp only [hreport]
      exact ⟨_, _, rfl⟩
  | ok file =>
      obtain ⟨content, mtime⟩ := file
      cases hfetch : s.fetch ws.grammar path content (.int mtime) with
      | mk result t =>
          cases result with
          | error f =>
              obtain ⟨fault, rfl⟩ := Session.exists_fault_of_fetch (congrArg Prod.fst hfetch)
              obtain ⟨r, hreport⟩ :=
                Report.exists_parsing (.text rule.typeName) path fault.message fault.line t.clock
              have hsubmit : t.submit (Report.parsing (.text path) fault.toFailure
                  (.text rule.typeName) t.clock) ([] : List Finding) = (.ok [], t.file r) :=
                congrArg (t.submit · ([] : List Finding)) hreport
              simp only [hfetch, hsubmit]
              exact ⟨_, _, rfl⟩
          | ok tree =>
              let timed := t.time rule.typeName .parse (t.clock - s.clock)
              have hinspect := (rule.inspectTree_eq_settle ws.grammar ∅ path (script tree path)
                timed).1
              simp only [hfetch]
              cases hjudged : (rule.judgeScript path (eager (script tree path))).1 with
              | error f =>
                  obtain ⟨r, hreport⟩ := (htold tree f hjudged).exists_report path rule.typeName 0
                  simp only [Verdict.settle, hjudged, hreport, Verdict.submit] at hinspect
                  exact ⟨[], _, Prod.ext hinspect rfl⟩
              | ok findings =>
                  simp only [Verdict.settle, hjudged] at hinspect
                  exact ⟨findings, _, Prod.ext hinspect rfl⟩

/-- Such a rule gives findings if it can tell whether it applies. -/
theorem check_of_applicable (hbody : rule.body = .tree script)
    (htold : ∀ tree, OnlyTold (rule.judgeScript path (eager (script tree path))).1)
    {applies : Bool} (h : rule.appliesTo path = .ok applies) (ws : Workspace) (s : Session) :
    ∃ (findings : List Finding) (t : Session),
      rule.check ws path s = (.ok (.items (findings.map .finding)), t) := by
  simp only [check, hbody, checkTree, h]
  split
  · obtain ⟨findings, t, hchecked⟩ := exists_checkFile htold ws s
    simp only [hchecked]
    exact ⟨findings, _, rfl⟩
  · exact ⟨[], s, rfl⟩

end Rule

namespace Catalogue

/-- A bundled rule is a tree rule that only fails with what can be told. One of them searches the
path for its targets, the others apply everywhere. -/
theorem bundled_built {card : RuleCard} {build : Value → Except Failure Rule}
    (hbundled : (card, build) ∈ bundledRules) {given : Mapping String Value} {rule : Rule}
    (hbuilt : build (.map given) = .ok rule) :
    (∃ perform : SyntaxTree → String → Except Failure (List Finding),
        rule.body = .tree (fun tree path => RuleCard.script (perform tree path)) ∧
          ∀ tree path, OnlyTold (perform tree path)) ∧
      ((card = MongoAccess.card ∧ ∀ path, rule.appliesTo path =
          MongoAccess.targets (MongoAccess.slashed path) (MongoAccess.targetsOf given)) ∨
        (card ≠ MongoAccess.card ∧ ∀ path, rule.appliesTo path = .ok true)) := by
  simp only [bundledRules, List.mem_cons, Prod.mk.injEq, List.not_mem_nil, or_false] at hbundled
  rcases hbundled with ⟨rfl, rfl⟩ | ⟨rfl, rfl⟩ | ⟨rfl, rfl⟩
  · obtain ⟨chosen, hchosen, hrule⟩ := exists_ok_of_bind hbuilt
    cases hrule
    refine ⟨⟨_, rfl, MongoAccess.onlyTold_perform chosen⟩, Or.inl ⟨rfl, fun path => ?_⟩⟩
    rw [← MongoAccess.arrayOption_targets hchosen]
    rfl
  · obtain ⟨chosen, _, hrule⟩ := exists_ok_of_bind hbuilt
    cases hrule
    have hother : LaravelPractices.card ≠ MongoAccess.card := fun h =>
      absurd (congrArg RuleCard.identifier h) (by decide)
    exact ⟨⟨_, rfl, LaravelPractices.onlyTold_perform chosen⟩, Or.inr ⟨hother, fun _ => rfl⟩⟩
  · obtain ⟨chosen, _, hrule⟩ := exists_ok_of_bind hbuilt
    cases hrule
    have hother : CodeStyle.card ≠ MongoAccess.card := fun h =>
      absurd (congrArg RuleCard.identifier h) (by decide)
    exact ⟨⟨_, rfl, CodeStyle.onlyTold_perform chosen⟩, Or.inr ⟨hother, fun _ => rfl⟩⟩

/-- A check with a bundled rule that was built gives a list of findings, whatever its options, the
path, the file and the session are. The one exception is the rule about driver access where the
search for its targets comes to a value that is no text; then the check fails at once. -/
theorem bundled_check_returns_iff {card : RuleCard} {build : Value → Except Failure Rule}
    (hbundled : (card, build) ∈ bundledRules) {given : Mapping String Value} {rule : Rule}
    (hbuilt : build (.map given) = .ok rule) (ws : Workspace) (path : String) (s : Session) :
    ((∃ (findings : List Finding) (t : Session),
        rule.check ws path s = (.ok (.items (findings.map .finding)), t)) ↔
        ¬(card = MongoAccess.card ∧ ∃ stray,
          MongoAccess.Strays (MongoAccess.slashed path) (MongoAccess.targetsOf given) stray)) ∧
      ∀ stray, card = MongoAccess.card →
        MongoAccess.Strays (MongoAccess.slashed path) (MongoAccess.targetsOf given) stray →
        rule.check ws path s = (.error (.wrongType
          ("'in <string>' requires string as left operand, not " ++ stray.kindName)), s) := by
  obtain ⟨⟨perform, hbody, hperform⟩, happlies⟩ := bundled_built hbundled hbuilt
  have htold (tree : SyntaxTree) : OnlyTold
      (rule.judgeScript path (Rule.eager (RuleCard.script (perform tree path)))).1 := by
    rw [Rule.judgeScript_script]
    exact hperform tree path
  rcases happlies with ⟨hcard, happlies⟩ | ⟨hcard, happlies⟩
  · have hfails (stray : Value) (hstrays : MongoAccess.Strays (MongoAccess.slashed path)
        (MongoAccess.targetsOf given) stray) :
        rule.check ws path s = (.error (MongoAccess.strayFailure stray), s) := by
      apply Rule.check_of_inapplicable hbody
      rw [happlies, MongoAccess.targets_of_strays hstrays]
    refine ⟨⟨?_, ?_⟩, fun stray _ => hfails stray⟩
    · rintro ⟨findings, t, hchecked⟩ ⟨_, stray, hstrays⟩
      rw [hfails stray hstrays] at hchecked
      cases hchecked
    · intro hnone
      rcases MongoAccess.targets_cases (MongoAccess.slashed path)
        (MongoAccess.targetsOf given) with ⟨answer, hanswer⟩ | hstrays
      · exact Rule.check_of_applicable hbody htold ((happlies path).trans hanswer) ws s
      · exact absurd ⟨hcard, hstrays⟩ hnone
  · refine ⟨⟨fun _ h => hcard h.1, fun _ => ?_⟩, fun _ h => absurd h hcard⟩
    exact Rule.check_of_applicable hbody htold (happlies path) ws s

/-- With a number behind a text among the targets, a path with the text is checked, and a path
without it fails. -/
theorem stray_target_check_fails :
    ∃ rule, MongoAccess.build (.map [("target_paths", .list [.text "app/", .int 1])]) = .ok rule ∧
      ∀ ws s, (∃ (findings : List Finding) (t : Session), rule.check ws "app/a.php" s =
          (.ok (.items (findings.map .finding)), t)) ∧
        rule.check ws "src/a.php" s = (.error (.wrongType
          ("'in <string>' requires string as left operand, not " ++ "int")), s) := by
  have hbundled : (MongoAccess.card, MongoAccess.build) ∈ bundledRules := List.mem_cons_self
  have htargets : MongoAccess.targetsOf [("target_paths", .list [.text "app/", .int 1])] =
      [.text "app/", .int 1] := rfl
  have hinside : "app/".toList <:+: MongoAccess.slashed "app/a.php" :=
    (Text.occursIn_iff_infix _ _).mp (by decide)
  have houtside : ¬"app/".toList <:+: MongoAccess.slashed "src/a.php" :=
    mt (Text.occursIn_iff_infix _ _).mpr (by decide)
  obtain ⟨rule, hbuilt⟩ : ∃ rule, MongoAccess.build
      (.map [("target_paths", .list [.text "app/", .int 1])]) = .ok rule := ⟨_, rfl⟩
  refine ⟨rule, hbuilt, fun ws s => ⟨?_, ?_⟩⟩
  · rw [(bundled_check_returns_iff hbundled hbuilt ws "app/a.php" s).1, htargets]
    rintro ⟨_, stray, hstrays⟩
    cases hstrays with
    | here h => exact h _ rfl
    | later habsent _ => exact habsent hinside
  · apply (bundled_check_returns_iff hbundled hbuilt ws "src/a.php" s).2 (.int 1) rfl
    rw [htargets]
    exact .later houtside (.here (by rintro _ ⟨⟩))

end Catalogue

end PhpAudit
