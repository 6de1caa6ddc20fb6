import PhpAudit.Audit.Basic
import PhpAudit.Proofs.CriteriaChains
import PhpAudit.Proofs.SettingsReading

/-!
From a configuration to an audit and its session. Two layers decide: settings have to be described
with values in their bounds, and the criteria among them have to name categories and severities and
a range of priorities. What passes both gives an audit; everything else is refused as a
configuration, whatever its shape.
-/

namespace PhpAudit

section Optional

variable {α β : Type} {R : α → β → Prop}

theorem rel_none_iff {y : Option β} : Option.Rel R none y ↔ y = none := by
  constructor
  · rintro ⟨⟩
    rfl
  · rintro rfl
    exact .none

theorem rel_some_iff {a : α} {y : Option β} : Option.Rel R (some a) y ↔ ∃ b, R a b ∧ y = some b := by
  constructor
  · rintro ⟨h⟩
    exact ⟨_, h, rfl⟩
  · rintro ⟨b, h, rfl⟩
    exact .some h

theorem exists_rel_iff {x : Option α} : (∃ y, Option.Rel R x y) ↔ ∀ a ∈ x, ∃ b, R a b := by
  cases x with
  | none => simp [rel_none_iff]
  | some a => simp [rel_some_iff]

end Optional

structure CacheSettings.Workable (s : CacheSettings) : Prop where
  maxSize : 1 ≤ s.maxSize
  ttlSeconds : 0.0 < s.ttlSeconds

structure LimitSettings.Workable (s : LimitSettings) : Prop where
  slowCheckSeconds : 0.0 < s.slowCheckSeconds
  maxFileSeconds : ∀ seconds ∈ s.maxFileSeconds, 0.0 < seconds
  maxFileBytes : ∀ size ∈ s.maxFileBytes, 1 ≤ size

/-- Sizes, times and workers with which a run can go on. -/
structure EngineSettings.Workable (s : EngineSettings) : Prop where
  cache : s.cache.Workable
  limits : s.limits.Workable
  maxWorkers : 1 ≤ s.maxWorkers

/-- Priorities that there are, though maybe not in order. -/
structure FilterSettings.Ranked (s : FilterSettings) : Prop where
  minPriority : 1 ≤ s.minPriority ∧ s.minPriority ≤ 10
  maxPriority : 1 ≤ s.maxPriority ∧ s.maxPriority ≤ 10

theorem CacheSettings.workable_default : CacheSettings.Workable {} :=
  ⟨by decide, by decide +kernel⟩

theorem LimitSettings.workable_default : LimitSettings.Workable {} :=
  ⟨by decide +kernel, by simp, by simp⟩

theorem EngineSettings.workable_default : EngineSettings.Workable {} :=
  ⟨CacheSettings.workable_default, LimitSettings.workable_default, by decide⟩

namespace Settings

variable {m : Mapping String Value}

theorem CacheOf.workable {s : CacheSettings} (h : CacheOf m s) : s.Workable where
  maxSize := h.maxSize.ensures _ CacheSettings.workable_default.maxSize fun _ hv => hv.2
  ttlSeconds := h.ttlSeconds.ensures _ CacheSettings.workable_default.ttlSeconds fun _ hv => hv.2

theorem LimitsOf.workable {s : LimitSettings} (h : LimitsOf m s) : s.Workable where
  slowCheckSeconds :=
    h.slowCheckSeconds.ensures _ LimitSettings.workable_default.slowCheckSeconds fun _ hv => hv.2
  maxFileSeconds :=
    h.maxFileSeconds.ensures (fun limit => ∀ seconds ∈ limit, 0.0 < seconds)
      LimitSettings.workable_default.maxFileSeconds
      fun _ hv => hv.ensures fun _ hy => hy.2
  maxFileBytes :=
    h.maxFileBytes.ensures (fun limit => ∀ size ∈ limit, 1 ≤ size)
      LimitSettings.workable_default.maxFileBytes
      fun _ hv => hv.ensures fun _ hy => hy.2

theorem EngineOf.workable {s : EngineSettings} (h : EngineOf m s) : s.Workable where
  cache := by
    refine h.cache.ensures _ CacheSettings.workable_default ?_
    rintro v ⟨inner, _, hinner, _⟩
    exact hinner.workable
  limits := by
    refine h.limits.ensures _ LimitSettings.workable_default ?_
    rintro v ⟨inner, _, hinner, _⟩
    exact hinner.workable
  maxWorkers := h.maxWorkers.ensures _ EngineSettings.workable_default.maxWorkers fun _ hv => hv.2

theorem Describes.workable {config : Value} {s : RunSettings} (h : Describes config s) :
    s.engine.Workable := by
  obtain ⟨m, _, hm⟩ := h
  refine hm.engine.ensures _ EngineSettings.workable_default ?_
  rintro v ⟨inner, _, hinner, _⟩
  exact hinner.workable

theorem FilterOf.ranked {s : FilterSettings} (h : FilterOf m s) : s.Ranked where
  minPriority := h.minPriority.ensures (fun n => 1 ≤ n ∧ n ≤ 10) (by decide)
    fun _ hv => ⟨hv.1.2, hv.2⟩
  maxPriority := h.maxPriority.ensures (fun n => 1 ≤ n ∧ n ≤ 10) (by decide)
    fun _ hv => ⟨hv.1.2, hv.2⟩

theorem Describes.ranked {config : Value} {s : RunSettings} (h : Describes config s) :
    ∀ filter ∈ s.filter, filter.Ranked := by
  obtain ⟨m, _, hm⟩ := h
  refine hm.filter.ensures (fun filter => ∀ f ∈ filter, f.Ranked) (by simp) fun v hv => ?_
  refine hv.ensures ?_
  rintro filter ⟨inner, _, hinner, _⟩
  exact hinner.ranked

end Settings

theorem Category.isSome_ofName?_iff (name : String) :
    (Category.ofName? name).isSome = true ↔ ∃ category : Category, category.name = name := by
  simp only [Category.ofName?, List.find?_isSome, beq_iff_eq]
  constructor
  · rintro ⟨category, _, hname⟩
    exact ⟨category, hname⟩
  · rintro ⟨category, hname⟩
    exact ⟨category, by cases category <;> decide, hname⟩

theorem Severity.ofName?_eq_some_iff {name : String} {severity : Severity} :
    Severity.ofName? name = some severity ↔ severity.name = name := by
  constructor
  · intro h
    simpa using List.find?_some h
  · rintro rfl
    cases severity <;> rfl

/-- What is wrong with the pattern, if anything, is a fault of its form. -/
def ClassPattern.FaultsOfForm (source : String) : Prop :=
  ∀ e, Pattern.parse true source.toList = .error e → e.fault.valueFailure? = none

/-- Criteria that can be built: standard categories, severities, a well-formed pattern, and an
ordered range of priorities. -/
structure FilterSettings.Fits (s : FilterSettings) : Prop where
  categories : ∀ name ∈ s.categories, ∃ category : Category, category.name = name
  severities : ∀ name ∈ s.severities, ∃ severity : Severity,
    severity.name = Text.lower (Text.trim name)
  classPattern : ∀ source ∈ s.classPattern, ∃ pattern, Pattern.parse true source.toList = .ok pattern
  priorities : 1 ≤ s.minPriority ∧ s.minPriority ≤ s.maxPriority ∧ s.maxPriority ≤ 10

namespace Criteria

/-- The severity that a name stands for, in any case and with blanks around it. -/
def SeverityOf (name : String) (severity : Severity) : Prop :=
  severity.name = Text.lower (Text.trim name)

def PatternOf (source : String) (pattern : ClassPattern) : Prop :=
  ∃ p, Pattern.parse true source.toList = .ok p ∧ pattern = .ofText source p

/-- Criteria as the settings give them, item by item. -/
structure BuiltFrom (s : FilterSettings) (c : Criteria) : Prop where
  categories : c.categories = s.categories
  standard : ∀ name ∈ c.categories, ∃ category : Category, category.name = name
  severities : List.Forall₂ SeverityOf s.severities c.severities
  tags : c.tags = s.tags
  enabled : c.enabled = .ofOption .bool s.enabled
  authors : c.authors = s.authors
  classPattern : Option.Rel PatternOf s.classPattern c.classPattern
  minPriority : c.minPriority = .int s.minPriority
  maxPriority : c.maxPriority = .int s.maxPriority
  priorities : 1 ≤ s.minPriority ∧ s.minPriority ≤ s.maxPriority ∧ s.maxPriority ≤ 10

theorem checkCategories_decides (names : List String) :
    Decides (checkCategories (.texts names))
      (fun kept => kept = names ∧ ∀ name ∈ names, ∃ category : Category, category.name = name)
      Failure.IsConfiguration := by
  have hnames : (names.map Value.text).mapM categoryText = .ok names :=
    mapM_map (f := categoryText) (g := Value.text) (fun _ => rfl) names
  have hnil : (names.filter fun name => (Category.ofName? name).isNone) = [] ↔
      ∀ name ∈ names, ∃ category : Category, category.name = name := by
    simp [List.filter_eq_nil_iff, ← Category.isSome_ofName?_iff, Option.isSome_iff_ne_none]
  simp only [checkCategories, Value.texts, sequenceOf, Value.elements, Value.elements?, bind,
    Except.bind, hnames]
  cases hunknown : names.filter fun name => (Category.ofName? name).isNone with
  | nil => exact (Decides.of_ok names).congr fun kept => (and_iff_left (hnil.mp hunknown)).symm
  | cons name rest =>
      refine Decides.of_error ?_ ⟨_, rfl⟩
      rintro kept ⟨_, hall⟩
      rw [hnil.mpr hall] at hunknown
      cases hunknown

theorem toSeverity_text_decides (name : String) :
    Decides (Value.text name).toSeverity (SeverityOf name) Failure.HasText := by
  have hfound (severity : Severity) :
      Severity.ofName? (Text.lower (Text.trim name)) = some severity ↔ SeverityOf name severity :=
    Severity.ofName?_eq_some_iff
  simp only [Value.toSeverity, Value.written_text, bind, Except.bind]
  cases hread : Severity.ofName? (Text.lower (Text.trim name)) with
  | none =>
      refine Decides.of_error (fun severity hseverity => ?_) ⟨_, rfl⟩
      rw [(hfound severity).mpr hseverity] at hread
      cases hread
  | some severity =>
      refine (Decides.of_ok severity).congr fun other => ?_
      rw [← hfound, hread, Option.some.injEq, eq_comm]

theorem mapM_toSeverity_decides (names : List String) :
    Decides ((names.map Value.text).mapM Value.toSeverity) (List.Forall₂ SeverityOf names)
      Failure.HasText := by
  induction names with
  | nil => exact (Decides.of_ok []).congr fun _ => List.forall₂_nil_left_iff.symm
  | cons name rest ih =>
      rw [List.map_cons, List.mapM_cons]
      refine ((toSeverity_text_decides name).bind fun severity _ =>
        ih.bind fun others _ => Decides.of_ok (severity :: others)).congr fun severities => ?_
      simp only [List.forall₂_cons_left_iff]
      constructor
      · rintro ⟨severity, hseverity, others, hothers, rfl⟩
        exact ⟨severity, others, hseverity, hothers, rfl⟩
      · rintro ⟨severity, others, hseverity, hothers, rfl⟩
        exact ⟨severity, hseverity, others, hothers, rfl⟩

theorem checkSeverities_decides (names : List String) :
    Decides (checkSeverities (.texts names)) (List.Forall₂ SeverityOf names)
      Failure.IsConfiguration := by
  have hread := mapM_toSeverity_decides names
  simp only [checkSeverities, Value.texts, sequenceOf, Value.elements, Value.elements?, bind,
    Except.bind]
  cases hmapped : (names.map Value.text).mapM Value.toSeverity with
  | ok severities =>
      rw [hmapped] at hread
      exact ⟨hread.ok_iff, (by rintro _ ⟨⟩)⟩
  | error f =>
      rw [hmapped] at hread
      obtain ⟨text, htext⟩ := hread.error f rfl
      simp only [htext]
      refine Decides.of_error (fun severities h => ?_) ⟨_, rfl⟩
      cases (hread.ok_iff severities).mpr h

theorem ofText?_decides {source : String} (h : ClassPattern.FaultsOfForm source) :
    Decides (ClassPattern.ofText? source) (PatternOf source) Failure.IsConfiguration := by
  unfold ClassPattern.ofText? PatternOf
  cases hparse : Pattern.parse true source.toList with
  | ok p => exact (Decides.of_ok (ClassPattern.ofText source p)).congr fun pattern => by simp
  | error e =>
      refine Decides.of_error (by simp) ?_
      rw [ClassPattern.refusal, h e hparse]
      exact ⟨_, rfl⟩

theorem checkClassPattern_decides {source : Option String}
    (h : ∀ text ∈ source, ClassPattern.FaultsOfForm text) :
    Decides (checkClassPattern (.ofOption .text source)) (Option.Rel PatternOf source)
      Failure.IsConfiguration := by
  cases source with
  | none =>
      exact (Decides.of_ok none).congr fun pattern => rel_none_iff.symm
  | some text => exact (ofText?_decides (h text rfl)).map fun pattern => rel_some_iff

theorem atMost_int (a b : Int) : atMost (.int a) (.int b) = .ok (decide (a ≤ b)) := by
  simp only [atMost, Value.num?, Value.Num.le, Value.Num.compare?]
  cases h : compare a b with
  | lt => simp [(compare_lt_iff_lt.mp h).le]
  | eq => simp [(compare_eq_iff_eq.mp h).le]
  | gt => simp [compare_gt_iff_gt.mp h]

theorem exists_written {n : Int} (h : 1 ≤ n ∧ n ≤ 10) : ∃ text, (Value.int n).written = .ok text := by
  have hsize : n.natAbs < Nat.pow 10 Numeral.maxDecimalDigits := by
    have hten : Nat.pow 10 1 < Nat.pow 10 Numeral.maxDecimalDigits := by
      rw [Nat.pow_eq, Nat.pow_eq]
      exact Nat.pow_lt_pow_right (by decide) (by decide)
    have hsmall : n.natAbs ≤ Nat.pow 10 1 := by
      rw [Nat.pow_eq]
      omega
    exact hsmall.trans_lt hten
  exact ⟨_, by rw [Value.written, (Value.unwritable?_int_eq_none_iff n).mpr hsize]⟩

theorem checkPriorities_decides {low high : Int} (hlow : 1 ≤ low ∧ low ≤ 10)
    (hhigh : 1 ≤ high ∧ high ≤ 10) :
    Decides (checkPriorities (.int low) (.int high))
      (fun _ => 1 ≤ low ∧ low ≤ high ∧ high ≤ 10) Failure.IsConfiguration := by
  have hwithin : within (.int firstPriority) (.int low) (.int high) =
      .ok (decide (1 ≤ low ∧ low ≤ high)) := by
    by_cases hlow : 1 ≤ low <;>
      simp [within, atMost_int, firstPriority, bind, Except.bind, pure, Except.pure, hlow]
  have hlast : high ≤ lastPriority := hhigh.2
  obtain ⟨lowText, hlowText⟩ := exists_written hlow
  obtain ⟨highText, hhighText⟩ := exists_written hhigh
  unfold checkPriorities
  rw [hwithin, atMost_int, decide_eq_true hlast, hlowText, hhighText]
  by_cases hordered : 1 ≤ low ∧ low ≤ high
  · rw [decide_eq_true hordered]
    exact (Decides.of_ok ()).congr fun _ => iff_of_true rfl ⟨hordered.1, hordered.2, hhigh.2⟩
  · rw [decide_eq_false hordered]
    exact Decides.of_error (fun _ hall => hordered ⟨hall.1, hall.2.1⟩) ⟨_, rfl⟩

theorem texts_decides (items : List String) :
    Decides (texts (.texts items)) (· = items) Failure.IsConfiguration := by
  have hitems : texts (.texts items) = .ok items := texts_texts items
  rw [hitems]
  exact Decides.of_ok items

theorem ofSettings_decides {s : FilterSettings} (hranked : s.Ranked)
    (h : ∀ source ∈ s.classPattern, ClassPattern.FaultsOfForm source) :
    Decides (ofSettings s) (BuiltFrom s) Failure.IsConfiguration := by
  have hcheck := (checkCategories_decides s.categories).bind fun categories _ =>
    (checkSeverities_decides s.severities).bind fun severities _ =>
    (checkClassPattern_decides h).bind fun classPattern _ =>
    (checkPriorities_decides hranked.minPriority hranked.maxPriority).bind fun _ _ =>
    (texts_decides s.tags).bind fun tags _ =>
    (texts_decides s.authors).bind fun authors _ =>
    Decides.of_ok {
      categories := categories
      severities := severities
      tags := tags
      enabled := .ofOption .bool s.enabled
      authors := authors
      classPattern := classPattern
      minPriority := .int s.minPriority
      maxPriority := .int s.maxPriority : Criteria }
  refine hcheck.congr fun c => ⟨?_, fun hc => ?_⟩
  · rintro ⟨_, ⟨rfl, hstandard⟩, _, hseverities, _, hpattern, _, hpriorities, _, rfl, _, rfl, rfl⟩
    exact ⟨rfl, hstandard, hseverities, rfl, rfl, rfl, hpattern, rfl, rfl, hpriorities⟩
  · obtain ⟨categories, severities, tags, enabled, authors, classPattern, low, high⟩ := c
    obtain ⟨rfl, hstandard, hseverities, rfl, rfl, rfl, hpattern, rfl, rfl, hpriorities⟩ := hc
    exact ⟨_, ⟨rfl, hstandard⟩, _, hseverities, _, hpattern, (), hpriorities, _, rfl, _, rfl, rfl⟩

theorem exists_forall₂_severityOf_iff {names : List String} :
    (∃ severities, List.Forall₂ SeverityOf names severities) ↔
      ∀ name ∈ names, ∃ severity, SeverityOf name severity := by
  induction names with
  | nil => simp
  | cons name rest ih =>
      rw [List.forall_mem_cons, ← ih]
      constructor
      · rintro ⟨_, hseverities⟩
        obtain ⟨severity, others, hseverity, hothers, rfl⟩ :=
          List.forall₂_cons_left_iff.mp hseverities
        exact ⟨⟨severity, hseverity⟩, others, hothers⟩
      · rintro ⟨⟨severity, hseverity⟩, others, hothers⟩
        exact ⟨severity :: others, .cons hseverity hothers⟩

theorem exists_builtFrom_iff {s : FilterSettings} : (∃ c, BuiltFrom s c) ↔ s.Fits := by
  constructor
  · rintro ⟨c, hc⟩
    refine ⟨hc.categories ▸ hc.standard, exists_forall₂_severityOf_iff.mp ⟨_, hc.severities⟩,
      fun source hsource => ?_, hc.priorities⟩
    obtain ⟨_, p, hp, _⟩ := exists_rel_iff.mp ⟨_, hc.classPattern⟩ source hsource
    exact ⟨p, hp⟩
  · intro h
    obtain ⟨severities, hseverities⟩ := exists_forall₂_severityOf_iff.mpr h.severities
    obtain ⟨pattern, hpattern⟩ : ∃ pattern, Option.Rel PatternOf s.classPattern pattern := by
      refine exists_rel_iff.mpr fun source hsource => ?_
      obtain ⟨p, hp⟩ := h.classPattern source hsource
      exact ⟨_, p, hp, rfl⟩
    exact ⟨⟨s.categories, severities, s.tags, .ofOption .bool s.enabled, s.authors, pattern,
      .int s.minPriority, .int s.maxPriority⟩,
      ⟨rfl, h.categories, hseverities, rfl, rfl, rfl, hpattern, rfl, rfl, h.priorities⟩⟩

end Criteria

namespace Audit

open Settings

/-- The audit that settings give, once their criteria are built. -/
def madeFrom (settings : RunSettings) (catalogue : Catalogue) (criteria : Option Criteria) : Audit where
  entries := settings.rules.map .name
  ruleOptions := settings.ruleOptions
  catalogue := if catalogue.size = 0 then Catalogue.bundled else catalogue
  scanPaths := settings.scanPaths.map .text
  criteria := criteria

theorem readRuleOptions_map (options : Mapping String (Mapping String Value)) :
    readRuleOptions (.map (options.map fun e => (e.1, .map e.2))) = .ok options := by
  have hentries : ((options.map fun e => (e.1, Value.map e.2)).mapM
      fun e => (e.1, ·) <$> e.2.entries : Except Failure _) = .ok options := by
    induction options with
    | nil => rfl
    | cons e rest ih =>
        rw [List.map_cons, List.mapM_cons, ih]
        rfl
  cases options with
  | nil => rfl
  | cons e rest => exact hentries

theorem elements_orElse_texts (paths : List String) :
    ((Value.texts paths).orElse (.list [])).elements = .ok (paths.map .text) := by
  cases paths <;> rfl

theorem create_eq (settings : RunSettings) (catalogue : Catalogue) (criteria : Option Criteria) :
    create (settings.rules.map .name) (.map (settings.ruleOptions.map fun e => (e.1, .map e.2)))
      catalogue (.texts settings.scanPaths) criteria = .ok (madeFrom settings catalogue criteria) := by
  rw [create, readRuleOptions_map, elements_orElse_texts]
  rfl

theorem ofSettings_audit_decides {settings : RunSettings} (catalogue : Catalogue)
    (hranked : ∀ filter ∈ settings.filter, filter.Ranked)
    (h : ∀ filter ∈ settings.filter, ∀ source ∈ filter.classPattern,
      ClassPattern.FaultsOfForm source) :
    Decides (ofSettings settings catalogue)
      (fun audit => ∃ criteria, Option.Rel Criteria.BuiltFrom settings.filter criteria ∧
        audit = madeFrom settings catalogue criteria) Failure.IsConfiguration := by
  unfold ofSettings
  simp only [create_eq]
  cases hfilter : settings.filter with
  | none =>
      refine (Decides.of_ok (madeFrom settings catalogue none)).congr fun audit => ?_
      simp only [rel_none_iff, exists_eq_left]
  | some filter =>
      have hbuilt : Decides (some <$> Criteria.ofSettings filter)
          (Option.Rel Criteria.BuiltFrom (some filter)) Failure.IsConfiguration :=
        (Criteria.ofSettings_decides (hranked filter hfilter) (h filter hfilter)).map
          fun _ => rel_some_iff
      exact hbuilt.bind fun criteria _ => Decides.of_ok (madeFrom settings catalogue criteria)

end Audit

/-- The session that settings give. -/
def Session.madeFrom (settings : EngineSettings) (clock : Float) : Session where
  clock := clock
  settings := settings
  cache := { capacity := settings.cache.maxSize.toNat, ttl := .float settings.cache.ttlSeconds }

theorem Session.create_of_workable {settings : EngineSettings} (h : settings.Workable)
    (clock : Float) : Session.create settings clock = .ok (Session.madeFrom settings clock) := by
  have hsize : ¬settings.cache.maxSize < 1 := not_lt.mpr h.cache.maxSize
  simp only [Session.create, TreeCache.create, if_neg hsize]
  rfl

namespace Audit

open Settings

theorem configure_decides {config : Value} (hplain : config.isPlain)
    (hpattern : ∀ settings, Describes config settings → ∀ filter ∈ settings.filter,
      ∀ source ∈ filter.classPattern, ClassPattern.FaultsOfForm source)
    (catalogue : Catalogue) (clock : Float) :
    Decides (configure config catalogue clock)
      (fun made => ∃ settings, Describes config settings ∧
        ∃ criteria, Option.Rel Criteria.BuiltFrom settings.filter criteria ∧
          made = (madeFrom settings catalogue criteria, Session.madeFrom settings.engine clock))
      Failure.IsConfiguration := by
  refine (load_decides hplain).bind fun settings hsettings => ?_
  have hsession := Session.create_of_workable hsettings.workable clock
  rw [hsession]
  refine ((ofSettings_audit_decides catalogue hsettings.ranked
    (hpattern settings hsettings)).bind fun audit _ =>
      Decides.of_ok (audit, Session.madeFrom settings.engine clock)).congr fun made => ⟨?_, ?_⟩
  · rintro ⟨_, ⟨criteria, hcriteria, rfl⟩, rfl⟩
    exact ⟨criteria, hcriteria, rfl⟩
  · rintro ⟨criteria, hcriteria, rfl⟩
    exact ⟨_, ⟨criteria, hcriteria, rfl⟩, rfl⟩

/-- An audit and a session set up as the settings ask, with sizes and times a run can work with. -/
structure SetUp (settings : RunSettings) (audit : Audit) (session : Session) : Prop where
  entries : audit.entries = settings.rules.map .name
  ruleOptions : audit.ruleOptions = settings.ruleOptions
  scanPaths : audit.scanPaths = settings.scanPaths.map .text
  criteria : Option.Rel Criteria.BuiltFrom settings.filter audit.criteria
  settings : session.settings = settings.engine
  capacity : (session.cache.capacity : Int) = session.settings.cache.maxSize
  lifetime : session.cache.ttl = .float session.settings.cache.ttlSeconds
  workable : session.settings.Workable

theorem setUp_madeFrom {config : Value} {settings : RunSettings} (h : Describes config settings)
    (catalogue : Catalogue) (clock : Float) {criteria : Option Criteria}
    (hcriteria : Option.Rel Criteria.BuiltFrom settings.filter criteria) :
    SetUp settings (madeFrom settings catalogue criteria)
      (Session.madeFrom settings.engine clock) where
  entries := rfl
  ruleOptions := rfl
  scanPaths := rfl
  criteria := hcriteria
  settings := rfl
  capacity := Int.toNat_of_nonneg (zero_le_one.trans h.workable.cache.maxSize)
  lifetime := rfl
  workable := h.workable

theorem fits_iff {settings : RunSettings} :
    (∃ criteria, Option.Rel Criteria.BuiltFrom settings.filter criteria) ↔
      ∀ filter ∈ settings.filter, filter.Fits := by
  simp only [exists_rel_iff, Criteria.exists_builtFrom_iff]

/-- A configuration without named constants, and with a pattern that is wrong at most in its form,
either is refused as a configuration or sets up an audit and its session. It is refused exactly if
it describes no settings within their bounds whose criteria fit. -/
theorem configure_refused_or_set_up {config : Value} (hplain : config.isPlain)
    (hpattern : ∀ settings, Describes config settings → ∀ filter ∈ settings.filter,
      ∀ source ∈ filter.classPattern, ClassPattern.FaultsOfForm source)
    (catalogue : Catalogue) (clock : Float) :
    ((¬∃ settings, Describes config settings ∧ ∀ filter ∈ settings.filter, filter.Fits) ∧
        ∃ message, configure config catalogue clock = .error (.configuration message)) ∨
      ∃ settings audit session, Describes config settings ∧
        (∀ filter ∈ settings.filter, filter.Fits) ∧
        configure config catalogue clock = .ok (audit, session) ∧ 1 ≤ session.cache.capacity ∧
        SetUp settings audit session := by
  have hdecides := configure_decides hplain hpattern catalogue clock
  cases hmade : configure config catalogue clock with
  | ok made =>
      obtain ⟨settings, hsettings, criteria, hcriteria, rfl⟩ := (hdecides.ok_iff made).mp hmade
      have hsetUp := setUp_madeFrom hsettings catalogue clock hcriteria
      refine .inr ⟨settings, _, _, hsettings, fits_iff.mp ⟨criteria, hcriteria⟩, rfl, ?_, hsetUp⟩
      have hsize := hsetUp.workable.cache.maxSize
      rw [← hsetUp.capacity] at hsize
      omega
  | error f =>
      obtain ⟨message, rfl⟩ := hdecides.error f hmade
      refine .inl ⟨?_, message, rfl⟩
      rintro ⟨settings, hsettings, hfits⟩
      obtain ⟨criteria, hcriteria⟩ := fits_iff.mpr hfits
      have hok := (hdecides.ok_iff _).mpr ⟨settings, hsettings, criteria, hcriteria, rfl⟩
      rw [hmade] at hok
      cases hok

/-- Most settings in a loose spelling: encoded text, padded numerals, a whole double for a number of
workers and a truth value for a priority. -/
def nightlyConfig : Value :=
  .map [("rules", .list [.text "CodeStyleRule", .bytes [0x4D, 0x6F]]),
    ("scan_paths", .tuple [.text "src/b.php", .text "src/a.php"]),
    ("engine", .map [("cache", .map [("max_size", .text " 1_0 "), ("ttl_seconds", .int 60)]),
      ("performance", .map [("max_file_seconds", .text "2.5"), ("max_file_bytes", .null)]),
      ("max_workers", .float 4.0)]),
    ("filter", .map [("categories", .list [.text "security"]),
      ("severities", .list [.text " Error "]), ("class_pattern", .text "^app"),
      ("min_priority", .bool true), ("max_priority", .text "3")])]

theorem faultsOfForm_nightlyConfig (settings : RunSettings) (h : Describes nightlyConfig settings) :
    ∀ filter ∈ settings.filter, ∀ source ∈ filter.classPattern,
      ClassPattern.FaultsOfForm source := by
  obtain ⟨m, hm, hrun⟩ := h
  cases hm
  rintro filter hfilter source hsource e he
  have hgiven := hrun.filter
  rw [Option.mem_def.mp hfilter] at hgiven
  obtain ⟨_, inner, hinner, hof, _⟩ := hgiven
  cases hinner
  have hpattern := hof.classPattern
  rw [Option.mem_def.mp hsource] at hpattern
  obtain ⟨_, htext⟩ := hpattern
  have hparsed : (Pattern.parse true "^app".toList).isOk = true := by decide +kernel
  cases htext with
  | text htext =>
      cases htext
      rw [he] at hparsed
      cases hparsed
  | constant hconstant => cases hconstant

theorem nightlyConfig_set_up : nightlyConfig.isPlain ∧
    ∃ settings audit session, Describes nightlyConfig settings ∧
      configure nightlyConfig Catalogue.bundled 0.0 = .ok (audit, session) ∧
      1 ≤ session.cache.capacity ∧ SetUp settings audit session := by
  have hplain : nightlyConfig.isPlain := by decide
  have hok : (configure nightlyConfig Catalogue.bundled 0.0).isOk = true := by decide +kernel
  refine ⟨hplain, ?_⟩
  rcases configure_refused_or_set_up hplain faultsOfForm_nightlyConfig Catalogue.bundled 0.0 with
    ⟨_, message, hrefused⟩ | ⟨settings, audit, session, hsettings, _, hmade, hcapacity, hsetUp⟩
  · rw [hrefused] at hok
    cases hok
  · exact ⟨settings, audit, session, hsettings, hmade, hcapacity, hsetUp⟩

end Audit

end PhpAudit
