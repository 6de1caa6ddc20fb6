import Mathlib.Data.List.Basic
import PhpAudit.Audit.Load
import PhpAudit.Proofs.Filings

/-!
When loading fails. An entry that gives no rule is filed, and a default rule that cannot be built is
noted in the log, but only if this is a matter of configuration and can be told; anything else ends
the loading. After that criteria read the description of every rule, and a description that cannot be
read stops them.
-/

namespace PhpAudit

theorem Severity.isSome_ofName?_iff (name : String) :
    (Severity.ofName? name).isSome = true ↔ ∃ severity : Severity, severity.name = name := by
  simp only [Severity.ofName?, List.find?_isSome, beq_iff_eq]
  constructor
  · rintro ⟨severity, _, hname⟩
    exact ⟨severity, hname⟩
  · rintro ⟨severity, hname⟩
    exact ⟨severity, by cases severity <;> decide, hname⟩

/-- A severity, or a value with a text that, trimmed and in lower case, is the name of one. -/
def Value.NamesSeverity : Value → Prop
  | .severity _ => True
  | v => ∃ text, v.written = .ok text ∧
      ∃ severity : Severity, severity.name = Text.lower (Text.trim text)

theorem Value.toSeverity_cases (v : Value) :
    (v.NamesSeverity ∧ ∃ severity, v.toSeverity = .ok severity) ∨
      (¬v.NamesSeverity ∧ ∃ f, v.toSeverity = .error f) := by
  have hread (name : String) :
      ((∃ severity : Severity, severity.name = name) ∧ ∃ severity,
        Severity.ofName? name = some severity) ∨
      ((¬∃ severity : Severity, severity.name = name) ∧ Severity.ofName? name = none) := by
    rw [← Severity.isSome_ofName?_iff, ← Option.isSome_iff_exists]
    cases Severity.ofName? name with
    | none => exact Or.inr ⟨by simp, rfl⟩
    | some severity => exact Or.inl ⟨rfl, rfl⟩
  by_cases hgiven : ∃ severity, v = .severity severity
  · obtain ⟨severity, rfl⟩ := hgiven
    exact Or.inl ⟨trivial, severity, rfl⟩
  · have hother : ∀ severity, v = .severity severity → False := fun s h => hgiven ⟨s, h⟩
    rw [NamesSeverity.eq_2 v hother, toSeverity.eq_2 v hother]
    cases hwritten : v.written with
    | error f => exact Or.inr ⟨(by rintro ⟨_, ⟨⟩, _⟩), f, rfl⟩
    | ok text =>
        simp only [Except.ok.injEq, exists_eq_left']
        rcases hread (Text.lower (Text.trim text)) with
          ⟨hnamed, severity, hfound⟩ | ⟨hunnamed, hnone⟩
        · exact Or.inl ⟨hnamed, severity, by simp [bind, Except.bind, hfound, pure, Except.pure]⟩
        · exact Or.inr ⟨hunnamed, _, by simp [bind, Except.bind, hnone]; rfl⟩

namespace Rule

/-- The severity is one, and the tags are a sequence of values that can serve as keys. -/
def Describable (rule : Rule) : Prop :=
  rule.severity.NamesSeverity ∧ ∃ tags, rule.tags.elements = .ok tags ∧
    ∀ tag ∈ tags, tag.unkeyable? = none

theorem distinctFrom_cases (seen values : List Value) :
    ((∀ v ∈ values, v.unkeyable? = none) ∧ ∃ kept, distinctFrom seen values = .ok kept) ∨
      ((¬∀ v ∈ values, v.unkeyable? = none) ∧ ∃ f, distinctFrom seen values = .error f) := by
  induction values generalizing seen with
  | nil => exact Or.inl ⟨by simp, [], rfl⟩
  | cons v rest ih =>
      cases hkey : v.unkeyable? with
      | some bad =>
          refine Or.inr ⟨fun hall => ?_, .unkeyable bad, by simp [distinctFrom, hkey]⟩
          cases hkey.symm.trans (hall v List.mem_cons_self)
      | none =>
          simp only [distinctFrom, hkey, List.forall_mem_cons, true_and]
          split
          · exact ih seen
          · rcases ih (v :: seen) with ⟨hall, kept, hkept⟩ | ⟨hnot, f, hfail⟩
            · exact Or.inl ⟨hall, v :: kept, by rw [hkept]; rfl⟩
            · exact Or.inr ⟨hnot, f, by rw [hfail]; rfl⟩

/-- A description can be read exactly if its severity and all of its tags can. -/
theorem profile_cases (rule : Rule) :
    (rule.Describable ∧ ∃ p, rule.profile = .ok p) ∨
      (¬rule.Describable ∧ ∃ f, rule.profile = .error f) := by
  unfold Describable profile
  rcases rule.severity.toSeverity_cases with ⟨hnamed, severity, hread⟩ | ⟨hunnamed, f, hfail⟩
  · rw [hread]
    cases htags : rule.tags.elements with
    | error f => exact Or.inr ⟨(by rintro ⟨_, _, ⟨⟩, _⟩), f, rfl⟩
    | ok tags =>
        simp only [Except.ok.injEq, exists_eq_left']
        rcases distinctFrom_cases [] tags with ⟨hkeys, kept, hkept⟩ | ⟨hnot, f, hfail⟩
        · refine Or.inl ⟨⟨hnamed, hkeys⟩, ?_⟩
          simp [distinct, hkept, bind, Except.bind, pure, Except.pure]
        · refine Or.inr ⟨fun h => hnot h.2, f, ?_⟩
          simp [distinct, hfail, bind, Except.bind]
  · exact Or.inr ⟨fun h => hunnamed h.1, f, by rw [hfail]; rfl⟩

end Rule

namespace Criteria

/-- Criteria that have passed their check. -/
def Valid (c : Criteria) : Prop := ∃ d : Draft, d.check = .ok c

/-- Both ends of the range of priorities are numbers. -/
def Bounded (c : Criteria) : Prop := c.minPriority.num?.isSome ∧ c.maxPriority.num?.isSome

theorem atMost_eq_ok_iff (a b : Value) :
    (∃ answer, atMost a b = .ok answer) ↔ a.num?.isSome ∧ b.num?.isSome := by
  unfold atMost
  cases a.num? <;> cases b.num? <;> simp

/-- Only numbers come through the check of a range. -/
theorem bounds_of_checkPriorities {low high : Value} (h : checkPriorities low high = .ok ()) :
    low.num?.isSome ∧ high.num?.isSome := by
  obtain ⟨between, hbetween, hrest⟩ := exists_ok_of_bind h
  obtain ⟨above, habove, hbelow⟩ := exists_ok_of_bind hbetween
  refine ⟨((atMost_eq_ok_iff _ _).mp ⟨above, habove⟩).2, ?_⟩
  cases above with
  | true => exact ((atMost_eq_ok_iff low high).mp ⟨between, hbelow⟩).2
  | false =>
      -- a range that begins too low has been refused
      cases hbelow
      obtain ⟨ordered, hordered, hrest⟩ := exists_ok_of_bind hrest
      cases hordered
      simp only [Bool.false_eq_true, if_false] at hrest
      obtain ⟨_, _, hrest⟩ := exists_ok_of_bind hrest
      obtain ⟨_, _, hrest⟩ := exists_ok_of_bind hrest
      cases hrest

theorem Valid.bounded {c : Criteria} (h : c.Valid) : c.Bounded := by
  obtain ⟨d, hcheck⟩ := h
  obtain ⟨categories, _, hcheck⟩ := exists_ok_of_bind hcheck
  obtain ⟨severities, _, hcheck⟩ := exists_ok_of_bind hcheck
  obtain ⟨pattern, _, hcheck⟩ := exists_ok_of_bind hcheck
  obtain ⟨_, hpriorities, hcheck⟩ := exists_ok_of_bind hcheck
  obtain ⟨tags, _, hcheck⟩ := exists_ok_of_bind hcheck
  obtain ⟨authors, _, hcheck⟩ := exists_ok_of_bind hcheck
  cases hcheck
  exact bounds_of_checkPriorities hpriorities

/-- A number has its place among the bounds. -/
theorem Bounded.within_eq_ok {c : Criteria} (h : c.Bounded) (n : Int) :
    ∃ answer, within c.minPriority (.int n) c.maxPriority = .ok answer := by
  obtain ⟨above, habove⟩ := (atMost_eq_ok_iff c.minPriority (.int n)).mpr ⟨h.1, rfl⟩
  obtain ⟨below, hbelow⟩ := (atMost_eq_ok_iff (.int n) c.maxPriority).mpr ⟨rfl, h.2⟩
  cases above with
  | false => exact ⟨false, by simp [within, habove, bind, Except.bind, pure, Except.pure]⟩
  | true => exact ⟨below, by simp [within, habove, hbelow, bind, Except.bind]⟩

/-- How criteria come to no judgement of a rule. The description is read whole, whatever is asked;
a pattern for byte strings and the rank of the category only matter once all else is met. -/
inductive Unjudged (c : Criteria) (rule : Rule) : Prop where
  | undescribed (h : ¬rule.Describable)
  | bytesPattern {p : RuleProfile} {source : Bytes} (hprofile : rule.profile = .ok p)
      (hmeets : c.meetsProfile p = true) (h : c.classPattern = some (.ofBytes source))
  | unranked {p : RuleProfile} {bad : Value} (hprofile : rule.profile = .ok p)
      (hmeets : c.meetsProfile p = true) (hclass : c.meetsClassPattern rule.classPath = .ok true)
      (h : rule.category.unkeyable? = some bad)

theorem meetsClassPattern_cases (c : Criteria) (classPath : String) :
    ((∀ source, c.classPattern ≠ some (.ofBytes source)) ∧
        ∃ answer, c.meetsClassPattern classPath = .ok answer) ∨
      ∃ source, c.classPattern = some (.ofBytes source) ∧
        ∃ f, c.meetsClassPattern classPath = .error f := by
  unfold meetsClassPattern
  cases c.classPattern with
  | none => exact Or.inl ⟨(by rintro _ ⟨⟩), true, rfl⟩
  | some pattern =>
      cases pattern with
      | ofText source pattern => exact Or.inl ⟨(by rintro _ ⟨⟩), _, rfl⟩
      | ofBytes source => exact Or.inr ⟨source, rfl, _, rfl⟩

theorem priority_cases (rule : Rule) :
    (rule.category.unkeyable? = none ∧ ∃ rank, rule.priority = .ok rank) ∨
      ∃ bad, rule.category.unkeyable? = some bad ∧ rule.priority = .error (.unkeyable bad) := by
  unfold Rule.priority Rule.standardCategory Value.namesCategory
  cases rule.category.unkeyable? with
  | some bad => exact Or.inr ⟨bad, rfl, rfl⟩
  | none =>
      refine Or.inl ⟨rfl, ?_⟩
      cases rule.category with
      | text name => cases hname : Category.ofName? name <;> exact ⟨_, by simp [hname]; rfl⟩
      | _ => exact ⟨_, rfl⟩

/-- Criteria with numbers for bounds judge a rule unless one of the obstacles stands in the way. -/
theorem accepts_cases {c : Criteria} (hbounded : c.Bounded) (rule : Rule) :
    (¬c.Unjudged rule ∧ ∃ answer, c.accepts rule = .ok answer) ∨
      (c.Unjudged rule ∧ ∃ f, c.accepts rule = .error f) := by
  unfold accepts
  rcases rule.profile_cases with ⟨hdescribed, p, hprofile⟩ | ⟨hnot, f, hprofile⟩
  · simp only [hprofile, bind, Except.bind, pure, Except.pure]
    cases hmeets : c.meetsProfile p with
    | false =>
        refine Or.inl ⟨?_, false, rfl⟩
        rintro (h | ⟨hp, hmet, _⟩ | ⟨hp, hmet, _, _⟩)
        · exact h hdescribed
        all_goals
          rw [hprofile] at hp
          cases hp
          rw [hmeets] at hmet
          cases hmet
    | true =>
        rcases c.meetsClassPattern_cases rule.classPath with
          ⟨htext, answer, hclass⟩ | ⟨source, hbytes, f, hclass⟩
        · simp only [hclass]
          cases answer with
          | false =>
              refine Or.inl ⟨?_, false, rfl⟩
              rintro (h | ⟨_, _, hbytes⟩ | ⟨_, _, hmet, _⟩)
              · exact h hdescribed
              · exact htext _ hbytes
              · rw [hclass] at hmet
                cases hmet
          | true =>
              rcases priority_cases rule with ⟨hkey, rank, hrank⟩ | ⟨bad, hkey, hrank⟩
              · obtain ⟨answer, hwithin⟩ := hbounded.within_eq_ok rank
                refine Or.inl ⟨?_, answer, by simpa [hrank] using hwithin⟩
                rintro (h | ⟨_, _, hbytes⟩ | ⟨_, _, _, hbad⟩)
                · exact h hdescribed
                · exact htext _ hbytes
                · rw [hkey] at hbad
                  cases hbad
              · exact Or.inr ⟨.unranked hprofile hmeets hclass hkey, .unkeyable bad,
                  by simp [hrank]⟩
        · exact Or.inr ⟨.bytesPattern hprofile hmeets hbytes, f, by simp [hclass]⟩
  · exact Or.inr ⟨.undescribed hnot, f, by rw [hprofile]; rfl⟩

/-- Every rule is judged, also after one that is dropped. -/
theorem select_cases {c : Criteria} (hbounded : c.Bounded) (rules : List Rule) :
    ((∀ rule ∈ rules, ¬c.Unjudged rule) ∧ ∃ kept, c.select rules = .ok kept) ∨
      ((∃ rule ∈ rules, c.Unjudged rule) ∧
        ∃ f, c.select rules = .error f) := by
  induction rules with
  | nil => exact Or.inl ⟨by simp, [], rfl⟩
  | cons rule rest ih =>
      simp only [select, List.forall_mem_cons, List.exists_mem_cons_iff]
      rcases accepts_cases hbounded rule with
        ⟨hjudged, answer, haccepts⟩ | ⟨hunjudged, f, hfail⟩
      · rcases ih with ⟨hall, kept, hkept⟩ | ⟨hsome, f, hfail⟩
        · exact Or.inl ⟨⟨hjudged, hall⟩, _, by rw [haccepts, hkept]; rfl⟩
        · exact Or.inr ⟨Or.inr hsome, f, by rw [haccepts, hfail]; rfl⟩
      · exact Or.inr ⟨Or.inl hunjudged, f, by rw [hfail]; rfl⟩

end Criteria

namespace Failure

/-- A value, unless something stands in the way. -/
def barring {α : Type} (obstacle : Option Failure) (a : α) : Except Failure α :=
  match obstacle with
  | some f => .error f
  | none => .ok a

@[simp] theorem barring_none {α : Type} (a : α) : barring none a = .ok a := rfl

@[simp] theorem barring_some {α : Type} (f : Failure) (a : α) : barring (some f) a = .error f := rfl

end Failure

namespace Catalogue

/-- Why a rule of the catalogue can neither be built nor be skipped, if it cannot. -/
def unskippable? (c : Catalogue) (identifier : String) : Option Failure :=
  match c.create identifier .null with
  | .ok _ => none
  | .error f => if f.isA .configuration then Failure.of? f.text else some f

theorem of?_skippedLine (identifier : String) (f : Failure) :
    Failure.of? (skippedLine identifier f) =
      if f.isA .configuration then Failure.of? f.text else some f := by
  unfold skippedLine
  split
  · exact Failure.of?_map _ f.text
  · rfl

/-- The names that give a rule, with their rules. -/
def pairsOf (c : Catalogue) (names : List String) : List (String × Rule) :=
  names.filterMap fun name => (name, ·) <$> (c.create name .null).toOption

theorem builtFrom_eq (c : Catalogue) (names : List String) :
    (c.builtFrom names).1 = Failure.barring (names.findSome? c.unskippable?) (c.pairsOf names) := by
  induction names with
  | nil => rfl
  | cons name rest ih =>
      rw [builtFrom, List.findSome?_cons, pairsOf, List.filterMap_cons, ← pairsOf, unskippable?]
      cases hbuilt : c.create name .null with
      | ok rule =>
          dsimp only
          rw [ih]
          cases rest.findSome? c.unskippable? <;> rfl
      | error f =>
          dsimp only
          rw [← of?_skippedLine name f]
          cases skippedLine name f with
          | error g => rfl
          | ok line => exact ih

end Catalogue

namespace Audit

/-- Why an entry that gives no rule cannot be filed, if it cannot. -/
def unfiled? (a : Audit) (entry : Entry) : Option Failure :=
  match a.buildEntry entry with
  | .ok _ => none
  | .error f =>
      if f.isA .configuration then (Failure.of? entry.title).or (Failure.of? f.text) else some f

theorem of?_entryReport (entry : Entry) (f : Failure) (now : Float) :
    Failure.of? (entryReport entry f now) =
      if f.isA .configuration then (Failure.of? entry.title).or (Failure.of? f.text)
      else some f := by
  unfold entryReport
  cases f.isA .configuration with
  | false => rfl
  | true =>
      cases entry.title with
      | error g => rfl
      | ok title =>
          have hreport := (Report.tells_configuration (.text "") f (.text title)).of?_report now
          refine hreport.trans ?_
          simp only [List.findSome?_cons, Need.obstacle?]
          cases f.text <;> rfl

/-- The rules that entries give. -/
def rulesOf (a : Audit) (entries : List Entry) : List Rule :=
  entries.filterMap fun entry => (a.buildEntry entry).toOption

/-- The rules of the entries are built, unless one that gives none cannot be filed. -/
theorem buildEntries_eq (a : Audit) (entries : List Entry) (s : Session) :
    (a.buildEntries entries s).1 = Failure.barring (entries.findSome? a.unfiled?)
      (a.rulesOf entries, entries.countP fun entry => (a.buildEntry entry).toOption.isNone) := by
  induction entries generalizing s with
  | nil => rfl
  | cons entry rest ih =>
      rw [buildEntries, List.findSome?_cons, rulesOf, List.filterMap_cons, ← rulesOf,
        List.countP_cons, unfiled?]
      cases hbuilt : a.buildEntry entry with
      | ok rule =>
          simp only [ih]
          cases rest.findSome? a.unfiled? <;> rfl
      | error f =>
          dsimp only
          rw [← of?_entryReport entry f s.clock]
          cases entryReport entry f s.clock with
          | error g => rfl
          | ok r =>
              simp only [Session.submit, ih]
              cases rest.findSome? a.unfiled? <;> rfl

theorem exists_applyCriteria_iff {a : Audit} (hvalid : ∀ c, a.criteria = some c → c.Valid)
    (rules : List Rule) :
    (∃ kept, a.applyCriteria rules = .ok kept) ↔
      ∀ c, a.criteria = some c → ∀ rule ∈ rules, ¬c.Unjudged rule := by
  unfold applyCriteria
  cases hcriteria : a.criteria with
  | none => simp
  | some c =>
      simp only [Option.some.injEq, forall_eq']
      rcases Criteria.select_cases (hvalid c hcriteria).bounded rules with
        ⟨hall, kept, hkept⟩ | ⟨⟨rule, hmem, hunjudged⟩, f, hfail⟩
      · exact ⟨fun _ => hall, fun _ => ⟨_, by rw [hkept]; rfl⟩⟩
      · rw [hfail]
        exact ⟨(by rintro ⟨_, ⟨⟩⟩), fun hall => absurd hunjudged (hall rule hmem)⟩

/-- What it takes to load: default rules that cannot be built can be skipped, entries that give no
rule can be filed, and the criteria come to a judgement of every rule. -/
structure Loadable (a : Audit) : Prop where
  defaults : a.entries = [] →
    ∀ identifier ∈ a.catalogue.identifiers, a.catalogue.unskippable? identifier = none
  entries : ∀ entries, a.effectiveEntries.1 = .ok entries →
    ∀ entry ∈ entries, a.unfiled? entry = none
  criteria : ∀ entries, a.effectiveEntries.1 = .ok entries → ∀ c, a.criteria = some c →
    ∀ rule ∈ a.rulesOf entries, ¬c.Unjudged rule

theorem exists_effectiveEntries_iff (a : Audit) :
    (∃ entries, a.effectiveEntries.1 = .ok entries) ↔ (a.entries = [] →
      ∀ identifier ∈ a.catalogue.identifiers, a.catalogue.unskippable? identifier = none) := by
  unfold effectiveEntries
  cases hentries : a.entries with
  | cons entry rest => simp
  | nil =>
      simp only [List.isEmpty_nil, if_true, Catalogue.defaults, Catalogue.builtFrom_eq,
        forall_const, ← List.findSome?_eq_none_iff]
      cases a.catalogue.identifiers.findSome? a.catalogue.unskippable? <;> simp

/-- The rules that are gathered from entries, or what stands in the way. -/
def gathered (a : Audit) (entries : List Entry) : Except Failure LoadedRules := do
  let (rules, failed) ← Failure.barring (entries.findSome? a.unfiled?)
    (a.rulesOf entries, entries.countP fun entry => (a.buildEntry entry).toOption.isNone)
  let (kept, filtered) ← a.applyCriteria rules
  return ⟨kept, failed, filtered⟩

theorem gather_result (a : Audit) (entries : List Entry) (s : Session) :
    (a.gather entries s).1 = a.gathered entries := by
  simp only [gather, buildEntries_eq]
  rfl

/-- What loading gives does not depend on the session. -/
theorem load_result (a : Audit) (s : Session) :
    (a.load s).1 = a.effectiveEntries.1 >>= a.gathered := by
  obtain ⟨loading, hloading⟩ : ∃ loading, loading = ({ a with state := .loading } : Audit) :=
    ⟨_, rfl⟩
  have heffective : loading.effectiveEntries = a.effectiveEntries := by
    rw [hloading]
    rfl
  have hgathered : loading.gathered = a.gathered := by
    rw [hloading]
    rfl
  simp only [load, ← hloading, heffective]
  cases a.effectiveEntries.1 with
  | error f => rfl
  | ok entries =>
      have hresult := loading.gather_result entries (s.logAll a.effectiveEntries.2)
      rw [hgathered] at hresult
      show _ = a.gathered entries
      rw [← hresult]
      dsimp only
      cases loading.gather entries (s.logAll a.effectiveEntries.2) with
      | mk result t => cases result <;> rfl

theorem exists_gathered_iff {a : Audit} (hvalid : ∀ c, a.criteria = some c → c.Valid)
    (entries : List Entry) :
    (∃ loaded, a.gathered entries = .ok loaded) ↔ (∀ entry ∈ entries, a.unfiled? entry = none) ∧
      ∀ c, a.criteria = some c → ∀ rule ∈ a.rulesOf entries, ¬c.Unjudged rule := by
  rw [← exists_applyCriteria_iff hvalid, ← List.findSome?_eq_none_iff, gathered]
  cases entries.findSome? a.unfiled? with
  | some f => simp [Failure.barring, bind, Except.bind]
  | none =>
      simp only [Failure.barring_none, true_and, bind, Except.bind]
      cases a.applyCriteria (a.rulesOf entries) <;> simp [pure, Except.pure]

/-- Loading succeeds exactly then, and what has been loaded stays so. -/
theorem exists_ensureLoaded_iff {a : Audit} (hvalid : ∀ c, a.criteria = some c → c.Valid)
    (s : Session) :
    (∃ loaded, (a.ensureLoaded s).1 = .ok loaded) ↔ (a.loaded = none → a.Loadable) := by
  unfold ensureLoaded
  cases hloaded : a.loaded with
  | some loaded => simp
  | none =>
      simp only [forall_const, load_result]
      constructor
      · rintro ⟨loaded, hload⟩
        obtain ⟨entries, hentries, hgathered⟩ := exists_ok_of_bind hload
        obtain ⟨hfiled, hjudged⟩ := (exists_gathered_iff hvalid entries).mp ⟨loaded, hgathered⟩
        refine ⟨a.exists_effectiveEntries_iff.mp ⟨entries, hentries⟩, ?_, ?_⟩
        · intro others hothers
          cases hentries.symm.trans hothers
          exact hfiled
        · intro others hothers
          cases hentries.symm.trans hothers
          exact hjudged
      · intro h
        obtain ⟨entries, hentries⟩ := a.exists_effectiveEntries_iff.mpr h.defaults
        rw [hentries]
        exact (exists_gathered_iff hvalid entries).mpr
          ⟨h.entries entries hentries, h.criteria entries hentries⟩

end Audit

end PhpAudit
