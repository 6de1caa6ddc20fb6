import PhpAudit.Proofs.CriteriaChains

/-!
What criteria that were given one after another select: the rules that are left when each of the
criteria on its own has been applied.

A pattern for byte strings passes the check, yet it cannot be searched for. Whether that matters
depends on the order: criteria that are given together look for the pattern in the rules whose
description they accept, while on its own it breaks off at the first rule it is applied to.
-/

namespace PhpAudit

/-- The description of the rule can be read, and its category has a rank. -/
def Rule.Rankable (rule : Rule) : Prop := rule.Describable ∧ rule.category.unkeyable? = none

theorem Rule.Rankable.exists_profile {rule : Rule} (h : rule.Rankable) :
    ∃ p category, rule.profile = .ok p ∧ rule.standardCategory = .ok category := by
  obtain ⟨_, p, hprofile⟩ | ⟨hnot, _⟩ := rule.profile_cases
  · obtain ⟨_, rank, hrank⟩ | ⟨bad, hbad, _⟩ := Criteria.priority_cases rule
    · cases hcategory : rule.standardCategory with
      | ok category => exact ⟨p, category, hprofile, rfl⟩
      | error f =>
          rw [Rule.priority, hcategory] at hrank
          cases hrank
    · rw [h.2] at hbad
      cases hbad
  · exact absurd h.1 hnot

namespace Criteria

/-- Whether the description of a rule answers this; the others need its class path or its rank. -/
def Respect.isDescribed : Respect → Bool
  | .classPattern => false
  | .priorities => false
  | _ => true

section Meeting

/-- Whether a rule of this description, class path and category meets what is asked in one
respect. -/
def meetsIn (c : Criteria) (p : RuleProfile) (classPath : String) (category : Category) :
    Respect → Bool
  | .categories =>
      c.categories.isEmpty || c.categories.any fun name => (Value.text name).equals p.category
  | .severities => c.severities.isEmpty || c.severities.contains p.severity
  | .tags => c.tags.isEmpty || c.tags.any fun tag => p.tags.any (Value.text tag).equals
  | .enabled => c.enabled.equals .null || c.enabled.equals p.enabledByDefault
  | .authors => c.authors.isEmpty || c.authors.any fun author => (Value.text author).equals p.author
  | .classPattern => (c.meetsClassPattern classPath).toOption.getD false
  | .priorities =>
      (within c.minPriority (.int category.priority) c.maxPriority).toOption.getD false

variable {p : RuleProfile} {classPath : String} {category : Category}

theorem meetsIn_takeFrom (e : Criteria) (r : Respect) (c : Criteria) (s : Respect) :
    (takeFrom e r c).meetsIn p classPath category s =
      if s = r then e.meetsIn p classPath category s else c.meetsIn p classPath category s := by
  cases r <;> cases s <;> rfl

theorem meetsIn_default (r : Respect) : ({} : Criteria).meetsIn p classPath category r = true := by
  cases r with
  | priorities => cases category <;> rfl
  | _ => rfl

theorem meetsProfile_iff (c : Criteria) (classPath : String) (category : Category) :
    c.meetsProfile p = true ↔
      ∀ r : Respect, r.isDescribed = true → c.meetsIn p classPath category r = true := by
  rw [meetsProfile]
  simp only [Bool.and_eq_true]
  constructor
  · rintro ⟨⟨⟨⟨_, _⟩, _⟩, _⟩, _⟩ r hr
    cases r <;> first | assumption | cases hr
  · intro h
    exact ⟨⟨⟨⟨h .categories rfl, h .severities rfl⟩, h .tags rfl⟩, h .enabled rfl⟩,
      h .authors rfl⟩

/-- Once the description is met, the class path and the rank are left. -/
theorem forall_meetsIn_iff {c : Criteria} (h : c.meetsProfile p = true) :
    (∀ r, c.meetsIn p classPath category r = true) ↔
      c.meetsIn p classPath category .classPattern = true ∧
        c.meetsIn p classPath category .priorities = true := by
  constructor
  · intro hall
    exact ⟨hall _, hall _⟩
  · rintro ⟨hclass, hpriorities⟩ r
    cases hr : r.isDescribed with
    | true => exact (meetsProfile_iff c _ _).mp h r hr
    | false => cases r <;> first | assumption | cases hr

/-- What searching for a pattern for byte strings fails with. -/
def misusedPattern : Failure := .wrongType "cannot use a bytes pattern on a string-like object"

/-- The description is met, so the pattern is searched for, and it is one for byte strings. -/
def Misuses (c : Criteria) (p : RuleProfile) : Prop :=
  c.meetsProfile p = true ∧ ∃ source, c.classPattern = some (.ofBytes source)

/-- A rule whose description can be read is judged unless the pattern is misused, and is met if it
is met in every respect. -/
theorem accepts_of_profile {c : Criteria} (hc : c.Valid) {rule : Rule}
    (hprofile : rule.profile = .ok p) (hcategory : rule.standardCategory = .ok category) :
    ((c.Misuses p ∧ c.accepts rule = .error misusedPattern) ∨ ¬c.Misuses p ∧ c.Judges rule) ∧
      (c.meets rule = true ↔ ∀ r, c.meetsIn p rule.classPath category r = true) := by
  obtain ⟨inRange, hrange⟩ := hc.bounded.within_eq_ok category.priority
  have hrank : rule.priority = .ok category.priority := by rw [Rule.priority, hcategory]; rfl
  have hranks : c.meetsIn p rule.classPath category .priorities = inRange := by
    rw [meetsIn, hrange]
    rfl
  cases hasked : c.meetsProfile p with
  | false =>
      have haccepts : c.accepts rule = .ok false := by
        simp only [accepts, hprofile, hasked, bind, Except.bind, pure, Except.pure, Bool.not_false,
          if_true]
      have hunmet : ¬∀ r, c.meetsIn p rule.classPath category r = true := by
        intro hall
        rw [(meetsProfile_iff c _ _).mpr fun r _ => hall r] at hasked
        cases hasked
      refine ⟨Or.inr ⟨fun h => ?_, judges_of_accepts haccepts⟩, ?_⟩
      · rw [Misuses, hasked] at h
        cases h.1
      · rw [← accepts_eq_ok haccepts]
        exact iff_of_false Bool.false_ne_true hunmet
  | true =>
      rw [forall_meetsIn_iff hasked, hranks, meetsIn]
      rcases c.meetsClassPattern_cases rule.classPath with
        ⟨htext, inPath, hpath⟩ | ⟨source, hbytes, _⟩
      · have haccepts : c.accepts rule = .ok (inPath && inRange) := by
          cases inPath <;>
            simp only [accepts, hprofile, hasked, hpath, hrank, hrange, bind, Except.bind, pure,
              Except.pure, Bool.not_true, Bool.not_false, Bool.false_eq_true, if_true, if_false,
              Bool.false_and, Bool.true_and]
        refine ⟨Or.inr ⟨?_, judges_of_accepts haccepts⟩, ?_⟩
        · rintro ⟨_, source, hbytes⟩
          exact htext source hbytes
        · rw [← accepts_eq_ok haccepts, hpath, Bool.and_eq_true]
          rfl
      · have hpath : c.meetsClassPattern rule.classPath = .error misusedPattern := by
          rw [meetsClassPattern, hbytes]
          rfl
        have haccepts : c.accepts rule = .error misusedPattern := by
          simp only [accepts, hprofile, hasked, hpath, bind, Except.bind, Bool.not_true,
            Bool.false_eq_true, if_false]
        refine ⟨Or.inl ⟨⟨hasked, source, hbytes⟩, haccepts⟩, ?_⟩
        rw [meets, haccepts, hpath]
        simp [Except.toOption]

end Meeting

section Asking

/-- What a criterion asks of a rule of this description, class path and category. Several values are
alternatives, and none at all ask nothing. A pattern for byte strings asks the impossible. -/
def Demand.Asks (p : RuleProfile) (classPath : String) (category : Category) : Demand → Prop
  | .categories values =>
      values = [] ∨ ∃ v ∈ values, ∃ name, categoryText v = .ok name ∧ p.category = .text name
  | .severities values => values = [] ∨ ∃ v ∈ values, v.toSeverity = .ok p.severity
  | .tags values => values = [] ∨ ∃ v ∈ values, ∃ tag, v.written = .ok tag ∧ .text tag ∈ p.tags
  | .enabled value => value.equals .null = true ∨ value.equals p.enabledByDefault = true
  | .authors values =>
      values = [] ∨ ∃ v ∈ values, ∃ author, v.written = .ok author ∧ p.author = .text author
  | .classPattern pattern => pattern = .null ∨ ∃ source parsed, pattern = .text source ∧
      Pattern.parse true source.toList = .ok parsed ∧ parsed.occurs classPath.toList = true
  | .priorities low high => within low (.int category.priority) high = .ok true

theorem text_equals_iff {s : String} {v : Value} :
    (Value.text s).equals v = true ↔ v = .text s := by
  cases v with
  | text t => simpa [Value.equals] using eq_comm
  | _ => simp [Value.equals, Value.num?]

theorem mapM_reads {α β : Type} {f : α → Except Failure β} {xs : List α} {ys : List β}
    (h : xs.mapM f = .ok ys) :
    (ys = [] ↔ xs = []) ∧ ∀ y, y ∈ ys ↔ ∃ x ∈ xs, f x = .ok y := by
  induction xs generalizing ys with
  | nil =>
      cases h
      simp
  | cons x rest ih =>
      rw [List.mapM_cons] at h
      obtain ⟨first, hfirst, h⟩ := exists_ok_of_bind h
      obtain ⟨others, hothers, h⟩ := exists_ok_of_bind h
      cases h
      refine ⟨by simp, fun y => ?_⟩
      rw [List.mem_cons, List.exists_mem_cons_iff, (ih hothers).2, hfirst, Except.ok.injEq, eq_comm]

/-- Some value that was read is what is looked for. -/
theorem isEmpty_or_any_iff {α β : Type} {f : α → Except Failure β} {xs : List α} {ys : List β}
    (h : xs.mapM f = .ok ys) (q : β → Bool) :
    (ys.isEmpty || ys.any q) = true ↔ xs = [] ∨ ∃ x ∈ xs, ∃ y, f x = .ok y ∧ q y = true := by
  obtain ⟨hnone, hmem⟩ := mapM_reads h
  rw [Bool.or_eq_true, List.isEmpty_iff, hnone, List.any_eq_true]
  refine or_congr_right ⟨?_, ?_⟩
  · rintro ⟨y, hy, hq⟩
    obtain ⟨x, hx, hread⟩ := (hmem y).mp hy
    exact ⟨x, hx, y, hread, hq⟩
  · rintro ⟨x, hx, y, hread, hq⟩
    exact ⟨y, (hmem y).mpr ⟨x, hx, hread⟩, hq⟩

theorem mapM_of_checkCategories {values : List Value} {names : List String}
    (h : checkCategories (.tuple values) = .ok names) : values.mapM categoryText = .ok names := by
  obtain ⟨_, hvalues, h⟩ := exists_ok_of_bind h
  cases hvalues
  obtain ⟨read, hread, h⟩ := exists_ok_of_bind h
  split at h <;> cases h
  exact hread

theorem mapM_of_checkSeverities {values : List Value} {severities : List Severity}
    (h : checkSeverities (.tuple values) = .ok severities) :
    values.mapM Value.toSeverity = .ok severities := by
  obtain ⟨_, hvalues, h⟩ := exists_ok_of_bind h
  cases hvalues
  split at h
  · next hread =>
      cases h
      exact hread
  · obtain ⟨_, _, h⟩ := exists_ok_of_bind h
    cases h

theorem Demand.Sound.meetsIn_single_iff {k : Demand} (hk : k.Sound) (p : RuleProfile)
    (classPath : String) (category : Category) :
    k.single.meetsIn p classPath category k.respect = true ↔ k.Asks p classPath category := by
  have hreads := hk.reads
  cases k with
  | categories values =>
      rw [respect, meetsIn, isEmpty_or_any_iff (mapM_of_checkCategories hreads.categories)]
      simp only [text_equals_iff]
      rfl
  | severities values =>
      obtain ⟨hnone, hmem⟩ := mapM_reads (mapM_of_checkSeverities hreads.severities)
      simp [respect, meetsIn, Asks, hnone, hmem]
  | tags values =>
      rw [respect, meetsIn, isEmpty_or_any_iff hreads.tags]
      simp only [List.any_eq_true, text_equals_iff, exists_eq_right]
      rfl
  | enabled value =>
      rw [respect, meetsIn, ← hreads.enabled, Bool.or_eq_true]
      rfl
  | authors values =>
      rw [respect, meetsIn, isEmpty_or_any_iff hreads.authors]
      simp only [text_equals_iff]
      rfl
  | classPattern pattern =>
      rw [respect, meetsIn, meetsClassPattern, Asks]
      obtain ⟨rfl, hnone⟩ | ⟨source, parsed, rfl, hparsed, hsome⟩ | ⟨source, rfl, hsome⟩ :=
        checkClassPattern_cases hreads.classPattern
      · rw [hnone]
        simp [Except.toOption]
      · rw [hsome]
        simp [ClassPattern.occursIn, Except.toOption, hparsed]
      · rw [hsome]
        simp [ClassPattern.occursIn, Except.toOption]
  | priorities low high =>
      rw [respect, meetsIn, ← hreads.minPriority, ← hreads.maxPriority, Asks, enter]
      cases within low (.int category.priority) high <;> simp [Except.toOption]

/-- Whether a rule is what a criterion asks for. -/
def Demand.MetBy (rule : Rule) (k : Demand) : Prop :=
  ∃ p category, rule.profile = .ok p ∧ rule.standardCategory = .ok category ∧
    k.Asks p rule.classPath category

theorem Demand.metBy_iff (k : Demand) {rule : Rule} {p : RuleProfile} {category : Category}
    (hprofile : rule.profile = .ok p) (hcategory : rule.standardCategory = .ok category) :
    k.MetBy rule ↔ k.Asks p rule.classPath category := by
  constructor
  · rintro ⟨p', category', hp, hc, hasks⟩
    cases hprofile.symm.trans hp
    cases hcategory.symm.trans hc
    exact hasks
  · intro hasks
    exact ⟨p, category, hprofile, hcategory, hasks⟩

end Asking

/-- A pattern for byte strings. -/
def Demand.InBytes (k : Demand) : Prop := ∃ source, k = .classPattern (.bytes source)

section Together

variable {ks : List Demand}

/-- In one respect, criteria given together ask what those in this respect ask. -/
theorem meetsIn_settleAll_iff (hks : ∀ k ∈ ks, k.Sound)
    (hdistinct : (ks.map Demand.respect).Nodup) (p : RuleProfile) (classPath : String)
    (category : Category) (r : Respect) :
    (settleAll {} ks).meetsIn p classPath category r = true ↔
      ∀ k ∈ ks, k.respect = r → k.Asks p classPath category := by
  by_cases hr : ∃ k ∈ ks, k.respect = r
  · obtain ⟨k, hk, rfl⟩ := hr
    rw [← settle_settleAll_of_mem hdistinct hk, Demand.settle, meetsIn_takeFrom, if_pos rfl,
      (hks k hk).meetsIn_single_iff]
    constructor
    · intro hasks l hl hsame
      rwa [List.inj_on_of_nodup_map hdistinct hl hk hsame]
    · intro h
      exact h k hk rfl
  · have hopen : ∀ k ∈ ks, k.respect ≠ r := fun k hk hsame => hr ⟨k, hk, hsame⟩
    rw [← takeFrom_default_settleAll hopen, meetsIn_takeFrom, if_pos rfl, meetsIn_default]
    exact iff_of_true rfl fun k hk hsame => absurd hsame (hopen k hk)

/-- The pattern is one for byte strings if one of the criteria is. -/
theorem exists_ofBytes_iff (hks : ∀ k ∈ ks, k.Sound)
    (hdistinct : (ks.map Demand.respect).Nodup) :
    (∃ source, (settleAll {} ks).classPattern = some (.ofBytes source)) ↔ ∃ k ∈ ks, k.InBytes := by
  constructor
  · rintro ⟨source, hsource⟩
    by_cases hr : ∃ k ∈ ks, k.respect = .classPattern
    · obtain ⟨k, hk, hrespect⟩ := hr
      rw [← settle_settleAll_of_mem hdistinct hk, Demand.settle, hrespect] at hsource
      cases k with
      | classPattern v =>
          obtain ⟨_, hnone⟩ | ⟨_, _, _, _, hsome⟩ | ⟨source, rfl, _⟩ :=
            checkClassPattern_cases (hks _ hk).reads.classPattern
          · cases hnone.symm.trans hsource
          · cases hsome.symm.trans hsource
          · exact ⟨_, hk, source, rfl⟩
      | _ => cases hrespect
    · rw [← takeFrom_default_settleAll fun k hk hsame => hr ⟨k, hk, hsame⟩] at hsource
      cases hsource
  · rintro ⟨_, hk, source, rfl⟩
    rw [← settle_settleAll_of_mem hdistinct hk]
    obtain ⟨hv, _⟩ | ⟨_, _, hv, _⟩ | ⟨read, _, hsome⟩ :=
      checkClassPattern_cases (hks _ hk).reads.classPattern
    · cases hv
    · cases hv
    · exact ⟨read, hsome⟩

/-- Criteria given together break off at a rule if they have a pattern for byte strings, and the
description of the rule meets all that they ask of it. -/
def BreakOff (ks : List Demand) (rules : List Rule) : Prop :=
  (∃ k ∈ ks, k.InBytes) ∧ ∃ rule ∈ rules, ∀ k ∈ ks, k.respect.isDescribed = true → k.MetBy rule

theorem misuses_settleAll_iff (hks : ∀ k ∈ ks, k.Sound)
    (hdistinct : (ks.map Demand.respect).Nodup) {rule : Rule} {p : RuleProfile}
    {category : Category} (hprofile : rule.profile = .ok p)
    (hcategory : rule.standardCategory = .ok category) :
    (settleAll {} ks).Misuses p ↔
      (∃ k ∈ ks, k.InBytes) ∧ ∀ k ∈ ks, k.respect.isDescribed = true → k.MetBy rule := by
  rw [Misuses, exists_ofBytes_iff hks hdistinct, and_comm,
    meetsProfile_iff _ rule.classPath category]
  refine and_congr_right fun _ => ?_
  simp only [meetsIn_settleAll_iff hks hdistinct, Demand.metBy_iff _ hprofile hcategory]
  constructor
  · intro h k hk hdescribed
    exact h k.respect hdescribed k hk rfl
  · rintro h r hdescribed k hk rfl
    exact h k hk hdescribed

theorem meets_settleAll_iff (hks : ∀ k ∈ ks, k.Sound)
    (hdistinct : (ks.map Demand.respect).Nodup) {rule : Rule} (hrule : rule.Rankable) :
    (settleAll {} ks).meets rule = true ↔ ∀ k ∈ ks, k.MetBy rule := by
  obtain ⟨p, category, hprofile, hcategory⟩ := hrule.exists_profile
  have hvalid := (chain_eq valid_default hks).2
  rw [(accepts_of_profile hvalid hprofile hcategory).2]
  simp only [meetsIn_settleAll_iff hks hdistinct, Demand.metBy_iff _ hprofile hcategory]
  constructor
  · intro h k hk
    exact h k.respect k hk rfl
  · intro h r k hk _
    exact h k hk

/-- Either all rules are judged, or the one failure that can happen does. -/
theorem select_of_judges_or {c : Criteria} {f : Failure} {rules : List Rule}
    (h : ∀ rule ∈ rules, c.Judges rule ∨ c.accepts rule = .error f) :
    ((∃ rule ∈ rules, c.accepts rule = .error f) ∧ c.select rules = .error f) ∨
      (∀ rule ∈ rules, c.Judges rule) ∧ c.select rules = .ok (rules.filter c.meets) := by
  induction rules with
  | nil => exact Or.inr ⟨List.forall_mem_nil _, rfl⟩
  | cons rule rest ih =>
      obtain ⟨hrule, hrest⟩ := List.forall_mem_cons.mp h
      rw [select, List.exists_mem_cons_iff, List.forall_mem_cons]
      rcases hrule with hjudges | hfails
      · rcases ih hrest with ⟨hsome, hselect⟩ | ⟨hall, hselect⟩
        · exact Or.inl ⟨Or.inr hsome, by rw [hjudges, hselect]; rfl⟩
        · refine Or.inr ⟨⟨hjudges, hall⟩, ?_⟩
          rw [hjudges, hselect, List.filter_cons]
          rfl
      · exact Or.inl ⟨Or.inl hfails, by rw [hfails]; rfl⟩

theorem select_settleAll (hks : ∀ k ∈ ks, k.Sound) (hdistinct : (ks.map Demand.respect).Nodup)
    {rules : List Rule} (hrules : ∀ rule ∈ rules, rule.Rankable) :
    (BreakOff ks rules ∧ (settleAll {} ks).select rules = .error misusedPattern) ∨
      ¬BreakOff ks rules ∧
        (settleAll {} ks).select rules = .ok (rules.filter (settleAll {} ks).meets) := by
  have hvalid := (chain_eq valid_default hks).2
  -- at one rule, the failure is to misuse the pattern
  have hstep : ∀ rule ∈ rules,
      (((∃ k ∈ ks, k.InBytes) ∧ ∀ k ∈ ks, k.respect.isDescribed = true → k.MetBy rule) ∧
          (settleAll {} ks).accepts rule = .error misusedPattern) ∨
        ¬((∃ k ∈ ks, k.InBytes) ∧ ∀ k ∈ ks, k.respect.isDescribed = true → k.MetBy rule) ∧
          (settleAll {} ks).Judges rule := by
    intro rule hrule
    obtain ⟨p, category, hprofile, hcategory⟩ := (hrules rule hrule).exists_profile
    rw [← misuses_settleAll_iff hks hdistinct hprofile hcategory]
    exact (accepts_of_profile hvalid hprofile hcategory).1
  have hfate : ∀ rule ∈ rules, (settleAll {} ks).Judges rule ∨
      (settleAll {} ks).accepts rule = .error misusedPattern :=
    fun rule hrule => (hstep rule hrule).elim (fun h => Or.inr h.2) fun h => Or.inl h.2
  rcases select_of_judges_or hfate with ⟨⟨rule, hrule, hfails⟩, hselect⟩ | ⟨hall, hselect⟩
  · refine Or.inl ⟨?_, hselect⟩
    rcases hstep rule hrule with ⟨⟨hbytes, hmet⟩, _⟩ | ⟨_, hjudges⟩
    · exact ⟨hbytes, rule, hrule, hmet⟩
    · exact absurd hjudges (not_judges_of_error hfails)
  · refine Or.inr ⟨?_, hselect⟩
    rintro ⟨hbytes, rule, hrule, hmet⟩
    rcases hstep rule hrule with ⟨_, hfails⟩ | ⟨hnot, _⟩
    · exact not_judges_of_error hfails (hall rule hrule)
    · exact hnot ⟨hbytes, hmet⟩

end Together

section InTurn

/-- Applies each criterion on its own to what those before it have left. -/
def selectEach : List Demand → List Rule → Except Failure (List Rule)
  | [], rules => .ok rules
  | k :: rest, rules => do
      let c ← k.alone
      let kept ← c.select rules
      selectEach rest kept

/-- One after another, criteria break off where the turn comes to a pattern for byte strings and
those before have left a rule. -/
def BreakOffInTurn (ks : List Demand) (rules : List Rule) : Prop :=
  ∃ before k after, ks = before ++ k :: after ∧ k.InBytes ∧
    ∃ rule ∈ rules, ∀ l ∈ before, l.MetBy rule

theorem breakOffInTurn_cons_iff {k : Demand} {rest : List Demand} {rules kept : List Rule}
    (hkept : ∀ rule, rule ∈ kept ↔ rule ∈ rules ∧ k.MetBy rule) :
    BreakOffInTurn (k :: rest) rules ↔
      (k.InBytes ∧ ∃ rule, rule ∈ rules) ∨ BreakOffInTurn rest kept := by
  constructor
  · rintro ⟨before, l, after, hsplit, hbytes, rule, hrule, hmet⟩
    cases before with
    | nil =>
        cases hsplit
        exact Or.inl ⟨hbytes, rule, hrule⟩
    | cons first before =>
        cases hsplit
        obtain ⟨hfirst, hmet⟩ := List.forall_mem_cons.mp hmet
        exact Or.inr ⟨before, l, after, rfl, hbytes, rule, (hkept rule).mpr ⟨hrule, hfirst⟩, hmet⟩
  · rintro (⟨hbytes, rule, hrule⟩ | ⟨before, l, after, rfl, hbytes, rule, hrule, hmet⟩)
    · exact ⟨[], k, rest, rfl, hbytes, rule, hrule, List.forall_mem_nil _⟩
    · obtain ⟨hrule, hfirst⟩ := (hkept rule).mp hrule
      exact ⟨k :: before, l, after, rfl, hbytes, rule, hrule,
        List.forall_mem_cons.mpr ⟨hfirst, hmet⟩⟩

theorem breakOff_singleton_iff {k : Demand} {rules : List Rule} :
    BreakOff [k] rules ↔ k.InBytes ∧ ∃ rule, rule ∈ rules := by
  simp only [BreakOff, List.mem_singleton, exists_eq_left, forall_eq]
  refine and_congr_right ?_
  rintro ⟨source, rfl⟩
  simp [Demand.respect, Respect.isDescribed]

theorem Demand.Sound.settleAll_singleton {k : Demand} (hk : k.Sound) :
    settleAll {} [k] = k.single := hk.settle_default

theorem Demand.Sound.meets_single_iff {k : Demand} (hk : k.Sound) {rule : Rule}
    (hrule : rule.Rankable) : k.single.meets rule = true ↔ k.MetBy rule := by
  rw [← hk.settleAll_singleton, meets_settleAll_iff (List.forall_mem_singleton.mpr hk)
    (List.nodup_singleton _) hrule, List.forall_mem_singleton]

theorem selectEach_cases {ks : List Demand} (hks : ∀ k ∈ ks, k.Sound) {rules : List Rule}
    (hrules : ∀ rule ∈ rules, rule.Rankable) :
    (BreakOffInTurn ks rules ∧ selectEach ks rules = .error misusedPattern) ∨
      ¬BreakOffInTurn ks rules ∧
        selectEach ks rules = .ok (rules.filter fun rule => ks.all (·.single.meets rule)) := by
  induction ks generalizing rules with
  | nil =>
      refine Or.inr ⟨?_, by simp [selectEach]⟩
      rintro ⟨before, _, _, hsplit, _⟩
      exact List.append_ne_nil_of_right_ne_nil before (List.cons_ne_nil _ _) hsplit.symm
  | cons k rest ih =>
      obtain ⟨hk, hrest⟩ := List.forall_mem_cons.mp hks
      have hkept : ∀ rule, rule ∈ rules.filter k.single.meets ↔ rule ∈ rules ∧ k.MetBy rule := by
        intro rule
        rw [List.mem_filter]
        exact and_congr_right fun hrule => hk.meets_single_iff (hrules rule hrule)
      have hselect := select_settleAll (List.forall_mem_singleton.mpr hk)
        (List.nodup_singleton _) hrules
      rw [hk.settleAll_singleton] at hselect
      rw [breakOffInTurn_cons_iff hkept, selectEach, hk.alone_eq, ← breakOff_singleton_iff]
      rcases hselect with ⟨hbreaks, hselect⟩ | ⟨hnot, hselect⟩
      · exact Or.inl ⟨Or.inl hbreaks, by simp only [bind, Except.bind, hselect]⟩
      · have hleft : ∀ rule ∈ rules.filter k.single.meets, rule.Rankable :=
          fun rule hrule => hrules rule (List.mem_filter.mp hrule).1
        simp only [bind, Except.bind, hselect, hnot, false_or, List.all_cons]
        have hrecurse := ih hrest hleft
        rw [List.filter_filter] at hrecurse
        simpa only [Bool.and_comm] using hrecurse

end InTurn

/-- Sound criteria can be chained. What a chain has settled passes its next check unchanged; a
further criterion changes its own respect only, where it replaces what was asked before. In
different respects the order does not matter: every order gives the criteria that the fields give
at once.

From rules whose descriptions are sound, criteria select in order those that meet each of them,
which is what applying the criteria one by one leaves. Only a pattern for byte strings can stand in
the way, and this depends on the order: given together the criteria break off at a rule whose
description meets the others, one by one they break off if a rule is left for the pattern. -/
theorem demands_intersect {ks : List Demand} (hks : ∀ k ∈ ks, k.Sound) {rules : List Rule}
    (hrules : ∀ rule ∈ rules, rule.Rankable) :
    ∃ c, chain {} ks = .ok c ∧ c.draft.check = .ok c ∧
      (∀ k : Demand, k.Sound → ∃ next, k.amend c = .ok next ∧
        (∀ r, r ≠ k.respect → takeFrom c r next = next) ∧
        chain {} (ks.filter (·.respect ≠ k.respect) ++ [k]) = .ok next) ∧
      (∀ kept, c.select rules = .ok kept → kept.Sublist rules ∧ c.select kept = .ok kept) ∧
      ((ks.map Demand.respect).Nodup →
        (BreakOff ks rules → c.select rules = .error misusedPattern) ∧
        (¬BreakOff ks rules → ∃ kept, c.select rules = .ok kept ∧
          ∀ rule, rule ∈ kept ↔ rule ∈ rules ∧ ∀ k ∈ ks, k.MetBy rule) ∧
        ∀ ls : List Demand, ls.Perm ks → chain {} ls = .ok c ∧
          (∀ given, List.Forall₂ Demand.GivenBy ls given → ofFields given.flatten = .ok c) ∧
          (BreakOffInTurn ls rules → selectEach ls rules = .error misusedPattern) ∧
          (¬BreakOffInTurn ls rules → ∃ left, selectEach ls rules = .ok left ∧
            (∀ kept, c.select rules = .ok kept → left = kept) ∧
            ∀ rule, rule ∈ left ↔ rule ∈ rules ∧ ∀ k ∈ ks, k.MetBy rule)) := by
  obtain ⟨hchain, hvalid⟩ := chain_eq valid_default hks
  refine ⟨settleAll {} ks, hchain, hvalid.recheck, ?_, ?_, ?_⟩
  · intro k hk
    refine ⟨k.settle _, hk.amend_eq hvalid, ?_, ?_⟩
    · intro r hr
      rw [Demand.settle, takeFrom_comm hr, takeFrom_self]
    · have hsound : ∀ l ∈ ks.filter (·.respect ≠ k.respect) ++ [k], l.Sound := by
        intro l hl
        rcases List.mem_append.mp hl with hl | hl
        · exact hks l (List.mem_filter.mp hl).1
        · exact List.mem_singleton.mp hl ▸ hk
      rw [(chain_eq valid_default hsound).1, settle_settleAll]
  · intro kept hkept
    have hjudges : ∀ rule ∈ rules, (settleAll {} ks).Judges rule := judges_of_select hkept
    rw [eq_filter_of_select hkept]
    refine ⟨List.filter_sublist, ?_⟩
    rw [select_of_judges fun rule hrule => hjudges rule (List.mem_filter.mp hrule).1,
      List.filter_filter]
    simp only [Bool.and_self]
  · intro hdistinct
    have hmem {p : Rule → Bool}
        (hp : ∀ rule ∈ rules, p rule = true ↔ ∀ k ∈ ks, k.MetBy rule) (rule : Rule) :
        rule ∈ rules.filter p ↔ rule ∈ rules ∧ ∀ k ∈ ks, k.MetBy rule := by
      rw [List.mem_filter]
      exact and_congr_right (hp rule)
    have hmeets : ∀ rule ∈ rules, (settleAll {} ks).meets rule = true ↔ ∀ k ∈ ks, k.MetBy rule :=
      fun rule hrule => meets_settleAll_iff hks hdistinct (hrules rule hrule)
    have htogether := select_settleAll hks hdistinct hrules
    refine ⟨fun h => ?_, fun h => ?_, ?_⟩
    · exact (htogether.resolve_right fun hnot => hnot.1 h).2
    · exact ⟨_, (htogether.resolve_left fun hbreaks => h hbreaks.1).2, hmem hmeets⟩
    intro ls hperm
    have hls : ∀ k ∈ ls, k.Sound := fun k hk => hks k (hperm.mem_iff.mp hk)
    have heach : ∀ rule ∈ rules,
        ls.all (·.single.meets rule) = true ↔ ∀ k ∈ ks, k.MetBy rule := by
      intro rule hrule
      rw [List.all_eq_true]
      simp only [← hperm.mem_iff]
      exact forall₂_congr fun k hk => (hls k hk).meets_single_iff (hrules rule hrule)
    have hinTurn := selectEach_cases hls hrules
    refine ⟨?_, ?_, fun h => ?_, fun h => ?_⟩
    · rw [(chain_eq valid_default hls).1, ← settleAll_perm hperm.symm hdistinct]
    · intro given hgiven
      rw [ofFields_given hgiven hls,
        ← settleAll_perm (hperm.symm.trans (List.reverse_perm ls).symm) hdistinct]
    · exact (hinTurn.resolve_right fun hnot => hnot.1 h).2
    · refine ⟨_, (hinTurn.resolve_left fun hbreaks => h hbreaks.1).2, fun kept hkept => ?_,
        hmem heach⟩
      rw [eq_filter_of_select hkept]
      refine List.filter_congr fun rule hrule => ?_
      rw [Bool.eq_iff_iff, heach rule hrule, hmeets rule hrule]

end Criteria

/-- A rule that repeats a tag and spells its severity loosely. -/
def Rule.injection : Rule :=
  { Rule.presence with
    typeName := "InjectionRule", category := .text "security", severity := .text "Error"
    tags := .list [.text "sql", .text "database", .text "sql"] }

def Rule.indexing : Rule :=
  { Rule.presence with
    typeName := "IndexingRule", category := .text "performance", tags := .tuple [.text "database"] }

/-- A rule of no standard category. -/
def Rule.layout : Rule :=
  { Rule.presence with category := .text "house_rules", tags := .tuple [.text "database"] }

theorem Rule.rankable_fixtures : ∀ rule ∈ [layout, injection, indexing], rule.Rankable := by
  rw [List.forall_mem_cons, List.forall_mem_cons, List.forall_mem_singleton]
  refine ⟨⟨⟨⟨_, rfl, .info, rfl⟩, _, rfl, ?_⟩, rfl⟩, ⟨⟨⟨_, rfl, .error, rfl⟩, _, rfl, ?_⟩, rfl⟩,
    ⟨⟨_, rfl, .info, rfl⟩, _, rfl, ?_⟩, rfl⟩
  all_goals
    intro tag htag
    simp only [List.mem_cons, List.not_mem_nil, or_false] at htag
  · rw [htag]; rfl
  · rcases htag with rfl | rfl | rfl <;> rfl
  · rw [htag]; rfl

namespace Criteria

/-- Criteria in five respects; of the categories one is given as a constant. -/
def urgentQueries : List Demand :=
  [.tags [.text "database"], .categories [.category .security, .text "performance"],
    .classPattern (.text "^Pres"), .priorities (.int 1) (.int 3), .enabled (.bool true)]

/-- The same as fields, with a bare text and a list. -/
def urgentFields : List (Mapping String Value) :=
  [[("tags", .text "database")],
    [("categories", .list [.category .security, .text "performance"])],
    [("class_pattern", .text "^Pres")], [("min_priority", .int 1), ("max_priority", .int 3)],
    [("enabled", .bool true)]]

theorem urgentQueries_sound : ∀ k ∈ urgentQueries, k.Sound := by
  rw [urgentQueries, List.forall_mem_cons, List.forall_mem_cons, List.forall_mem_cons,
    List.forall_mem_cons, List.forall_mem_singleton]
  exact ⟨⟨_, rfl⟩, ⟨_, rfl⟩, ⟨_, rfl⟩, ⟨_, rfl⟩, _, rfl⟩

theorem urgentQueries_givenBy : List.Forall₂ Demand.GivenBy urgentQueries urgentFields :=
  .cons (.tags rfl) (.cons (.categories rfl) (.cons (.classPattern _)
    (.cons (.priorities _ _) (.cons (.enabled _) .nil))))

/-- The rule of no standard category is dropped, whatever the order. A last criterion takes the
place of one before it. -/
theorem urgentQueries_intersect :
    ∃ c kept, chain {} urgentQueries = .ok c ∧ chain {} urgentQueries.reverse = .ok c ∧
      ofFields urgentFields.flatten = .ok c ∧
      c.select [.layout, .injection, .indexing] = .ok kept ∧
      selectEach urgentQueries.reverse [.layout, .injection, .indexing] = .ok kept ∧
      kept.map (·.typeName) = ["InjectionRule", "IndexingRule"] ∧
      ∃ next, (Demand.categories [.text "performance"]).amend c = .ok next ∧
        chain {} ((urgentQueries.eraseIdx 1).concat (.categories [.text "performance"])) =
          .ok next := by
  obtain ⟨c, hchain, _, hamend, _, horder⟩ :=
    demands_intersect urgentQueries_sound Rule.rankable_fixtures
  obtain ⟨_, htogether, horder⟩ := horder (by decide)
  have htextual : ∀ k ∈ urgentQueries, ¬k.InBytes := by
    rw [urgentQueries, List.forall_mem_cons, List.forall_mem_cons, List.forall_mem_cons,
      List.forall_mem_cons, List.forall_mem_singleton]
    refine ⟨?_, ?_, ?_, ?_, ?_⟩ <;> rintro ⟨_, ⟨⟩⟩
  obtain ⟨kept, hselect, _⟩ := htogether (by
    rintro ⟨⟨k, hk, hbytes⟩, _⟩
    exact htextual k hk hbytes)
  obtain ⟨hreversed, _, _, hinTurn⟩ := horder _ (List.reverse_perm _)
  obtain ⟨left, heach, hsame, _⟩ := hinTurn (by
    rintro ⟨before, k, after, hsplit, hbytes, _⟩
    have hk : k ∈ urgentQueries.reverse := hsplit ▸ List.mem_append_right before (.head after)
    exact htextual k (List.mem_reverse.mp hk) hbytes)
  cases hsame kept hselect
  have hnames : (((chain {} urgentQueries).bind fun c =>
      c.select [.layout, .injection, .indexing]).toOption.map fun kept => kept.map (·.typeName)) =
        some ["InjectionRule", "IndexingRule"] := by decide +kernel
  simp only [hchain, Except.bind, hselect, Except.toOption, Option.map_some] at hnames
  obtain ⟨next, hnext, _, hinstead⟩ := hamend (.categories [.text "performance"]) ⟨_, rfl⟩
  exact ⟨c, kept, hchain, hreversed, (horder _ (.refl _)).2.1 _ urgentQueries_givenBy, hselect,
    heach, Option.some.inj hnames, next, hnext, hinstead⟩

/-- A category that none of the rules is in, and a pattern for byte strings. -/
def unsearchable : List Demand := [.categories [.text "style"], .classPattern (.bytes [90, 113])]

/-- The category leaves nothing for the pattern. On its own, the pattern breaks off. -/
theorem unsearchable_depends_on_order :
    (∀ k ∈ unsearchable, k.Sound) ∧
      (∀ rule ∈ [Rule.layout, Rule.injection, Rule.indexing], rule.Rankable) ∧
      (∃ c, chain {} unsearchable = .ok c ∧ c.select [.layout, .injection, .indexing] = .ok []) ∧
      selectEach unsearchable [.layout, .injection, .indexing] = .ok [] ∧
      selectEach unsearchable.reverse [.layout, .injection, .indexing] = .error misusedPattern := by
  refine ⟨?_, Rule.rankable_fixtures, ⟨_, rfl, rfl⟩, rfl, rfl⟩
  rw [unsearchable, List.forall_mem_cons, List.forall_mem_singleton]
  exact ⟨⟨_, rfl⟩, _, rfl⟩

end Criteria

end PhpAudit
