import PhpAudit.Proofs.DefaultLoading

/-!
Loading from entries. Each entry is a rule, or a name that the catalogue can build a rule for, or it
fails and is filed. The criteria come afterwards and drop rules only. So every entry is loaded,
failed or filtered, and no two of these at once. What ends the loading instead is an entry that fails
and cannot be filed, or a rule that the criteria cannot judge.
-/

namespace PhpAudit

/-- The rule that a factory made, if it made one. -/
def Product.rule? : Except Failure Product → Option Rule
  | .ok (.rule r) => some r
  | _ => none

namespace Catalogue

/-- The options that a name is built with: those given under the name itself, and where there are
none, those given under its identifier. -/
def optionsUnder (table : Mapping String (Mapping String Value)) (name identifier : String) :
    Mapping String Value :=
  match Mapping.get? table name with
  | some options => options
  | none => (Mapping.get? table identifier).getD []

/-- The rule of an entry, if it gives one: itself, or what the factory of its identifier makes. -/
def ruleOf? (c : Catalogue) (table : Mapping String (Mapping String Value)) : Entry → Option Rule
  | .rule r => some r
  | .other _ => none
  | .name name =>
      (c.resolve? name).bind fun identifier =>
        (Mapping.get? c.factories identifier).bind fun factory =>
          Product.rule? (factory (optionsUnder table name identifier))

theorem toOption_produce (identifier : String) (factory : Factory)
    (options : Mapping String Value) :
    (produce identifier factory (.map options)).toOption = Product.rule? (factory options) := by
  have hentries : ((Value.map options).orElse (.map [])).entries.bind factory =
      factory options := by
    cases options <;> rfl
  rw [produce, hentries]
  cases factory options with
  | error f => rfl
  | ok product => cases product <;> rfl

theorem toOption_create (c : Catalogue) (name : String) (options : Mapping String Value) :
    (c.create name (.map options)).toOption =
      (c.resolve? name).bind fun identifier =>
        (Mapping.get? c.factories identifier).bind fun factory =>
          Product.rule? (factory options) := by
  rw [create, resolve]
  cases c.resolve? name with
  | none => rfl
  | some identifier =>
      simp only [bind, Except.bind, Option.bind_some]
      cases Mapping.get? c.factories identifier with
      | none => rfl
      | some factory => exact toOption_produce identifier factory options

end Catalogue

/-- A record about an entry that gave no rule: it is about configuration and names the entry. -/
structure Incident.Blames (i : Incident) (entry : Entry) : Prop where
  topic : i.topic = .configuration
  named : ∃ title reason, entry.title = .ok title ∧ i.rule = .text title ∧
    i.message = "Configuration error for '" ++ title ++ "': " ++ reason

theorem Incident.map_rule_of_blames {records : List Incident} {entries : List Entry}
    {titles : List String} (h : List.Forall₂ Blames records entries)
    (htitles : entries.map Entry.title = titles.map .ok) :
    records.map (·.rule) = titles.map .text := by
  induction h generalizing titles with
  | nil =>
      cases titles with
      | nil => rfl
      | cons title rest => cases htitles
  | cons hblames _ ih =>
      cases titles with
      | nil => cases htitles
      | cons title rest =>
          obtain ⟨hfirst, hrest⟩ := List.cons.inj htitles
          obtain ⟨named, _, hnamed, hrule, _⟩ := hblames.named
          cases hnamed.symm.trans hfirst
          rw [List.map_cons, List.map_cons, hrule, ih hrest]

namespace Audit

theorem toOption_buildEntry (a : Audit) (entry : Entry) :
    (a.buildEntry entry).toOption = a.catalogue.ruleOf? a.ruleOptions entry := by
  cases entry with
  | rule r => rfl
  | other v => rfl
  | name name =>
      rw [buildEntry, optionsFor, Catalogue.ruleOf?]
      cases hown : Mapping.get? a.ruleOptions name with
      | some options =>
          have hunder (identifier : String) :
              Catalogue.optionsUnder a.ruleOptions name identifier = options := by
            rw [Catalogue.optionsUnder, hown]
          simp only [hunder]
          exact a.catalogue.toOption_create name options
      | none =>
          have hunder (identifier : String) : Catalogue.optionsUnder a.ruleOptions name identifier =
              (Mapping.get? a.ruleOptions identifier).getD [] := by
            rw [Catalogue.optionsUnder, hown]
          simp only [hunder]
          cases hresolve : a.catalogue.resolve? name with
          | none =>
              rw [Catalogue.resolve, hresolve]
              rfl
          | some identifier =>
              have hcreate := a.catalogue.toOption_create name
                ((Mapping.get? a.ruleOptions identifier).getD [])
              rw [hresolve] at hcreate
              rw [Catalogue.resolve, hresolve]
              exact hcreate

/-- What is filed of an entry names it. -/
theorem blames_of_entryReport {entry : Entry} {f : Failure} {now : Float} {r : Report}
    (h : entryReport entry f now = .ok r) : r.incident.Blames entry := by
  unfold entryReport at h
  split at h
  · obtain ⟨title, htitle, h⟩ := exists_ok_of_bind h
    obtain ⟨name, hname, h⟩ := exists_ok_of_bind h
    obtain ⟨described, _, h⟩ := exists_ok_of_bind h
    cases hname
    cases h
    exact ⟨rfl, title, described, htitle, rfl, rfl⟩
  · cases h

/-- Building files one record for each entry that gives no rule, in the order of the entries. -/
theorem buildEntries_files {a : Audit} {entries : List Entry} {s t : Session}
    {built : List Rule × Nat} (h : a.buildEntries entries s = (.ok built, t)) :
    ∃ records, List.Forall₂ Incident.Blames records
        (entries.filter fun entry => (a.catalogue.ruleOf? a.ruleOptions entry).isNone) ∧
      t.incidents.errors = s.incidents.errors ++ records ∧
      t.incidents.warnings = s.incidents.warnings := by
  induction entries generalizing s built with
  | nil =>
      cases h
      exact ⟨[], .nil, (List.append_nil _).symm, rfl⟩
  | cons entry rest ih =>
      have hrule := a.toOption_buildEntry entry
      rw [buildEntries] at h
      cases hbuilt : a.buildEntry entry with
      | ok rule =>
          rw [hbuilt] at hrule h
          obtain ⟨hrules, hlast⟩ := Prod.mk.inj h
          obtain ⟨others, hothers, _⟩ := exists_ok_of_map hrules
          obtain ⟨records, hblames, herrors, hwarnings⟩ := ih (Prod.ext hothers hlast)
          refine ⟨records, ?_, herrors, hwarnings⟩
          rw [List.filter_cons_of_neg (by simp [← hrule, Except.toOption])]
          exact hblames
      | error f =>
          rw [hbuilt] at hrule h
          dsimp only at h
          cases hreport : entryReport entry f s.clock with
          | error g =>
              rw [hreport] at h
              cases h
          | ok r =>
              simp only [hreport, Session.submit] at h
              obtain ⟨hrules, hlast⟩ := Prod.mk.inj h
              obtain ⟨others, hothers, _⟩ := exists_ok_of_map hrules
              obtain ⟨records, hblames, herrors, hwarnings⟩ := ih (Prod.ext hothers hlast)
              have hentry := blames_of_entryReport hreport
              have hadded : (s.file r).incidents =
                  { s.incidents with errors := s.incidents.errors ++ [r.incident] } := by
                simp [Session.file, IncidentLog.add, Incident.severity, hentry.topic, Topic.severity]
              rw [hadded] at herrors hwarnings
              refine ⟨r.incident :: records, ?_, ?_, hwarnings⟩
              · rw [List.filter_cons_of_pos (by simp [← hrule, Except.toOption])]
                exact .cons hentry hblames
              · rw [herrors, List.append_assoc]
                rfl

/-- What is neither a name nor a rule is filed if it can be written. -/
theorem unfiled?_other (a : Audit) (v : Value) : a.unfiled? (.other v) = v.unwritable? := by
  have hbuilt : a.unfiled? (.other v) = (Failure.of? v.written).or none := rfl
  rw [hbuilt, Option.or_none, Value.of?_written]

theorem rulesOf_eq (a : Audit) (entries : List Entry) :
    a.rulesOf entries = entries.filterMap (a.catalogue.ruleOf? a.ruleOptions) :=
  congrArg (List.filterMap · entries) (funext a.toOption_buildEntry)

/-- An entry gives a rule or fails. -/
theorem length_given_add_failed (c : Catalogue) (table : Mapping String (Mapping String Value))
    (entries : List Entry) :
    (entries.filterMap (c.ruleOf? table)).length +
      (entries.filter fun entry => (c.ruleOf? table entry).isNone).length = entries.length := by
  have hnone (entry : Entry) : (c.ruleOf? table entry).isNone =
      decide (¬(c.ruleOf? table entry).isSome = true) := by
    cases c.ruleOf? table entry <;> rfl
  simp only [hnone]
  rw [List.length_filterMap_eq_countP, ← List.countP_eq_length_filter,
    ← List.length_eq_countP_add_countP]

variable {a : Audit}

/-- Whether rules pass the criteria; where there are none, all do. -/
def keeps (criteria : Option Criteria) (rule : Rule) : Bool := criteria.all (·.meets rule)

theorem applyCriteria_of_judged {rules : List Rule}
    (h : ∀ criteria, a.criteria = some criteria → ∀ rule ∈ rules, criteria.Judges rule) :
    a.applyCriteria rules = .ok (rules.filter (keeps a.criteria),
      rules.length - (rules.filter (keeps a.criteria)).length) := by
  cases hcriteria : a.criteria with
  | none =>
      have hall : rules.filter (keeps none) = rules := List.filter_eq_self.mpr fun _ _ => rfl
      rw [applyCriteria, hcriteria, hall, Nat.sub_self]
  | some criteria =>
      rw [applyCriteria_some hcriteria, Criteria.select_of_judges (h criteria hcriteria)]
      rfl

/-- Loading from entries files what building them files. -/
theorem load_files (hentries : a.entries ≠ []) {s ended : Session} {loaded : LoadedRules}
    {after : Audit} (h : a.load s = (.ok loaded, after, ended)) :
    after.loaded = some loaded ∧ ∃ records, List.Forall₂ Incident.Blames records
        (a.entries.filter fun entry => (a.catalogue.ruleOf? a.ruleOptions entry).isNone) ∧
      ended.incidents.errors = s.incidents.errors ++ records ∧
      ended.incidents.warnings = s.incidents.warnings := by
  obtain ⟨loading, hloading⟩ : ∃ loading, loading = ({ a with state := .loading } : Audit) :=
    ⟨_, rfl⟩
  have heffective : loading.effectiveEntries = (.ok a.entries, []) := by
    simp only [hloading, effectiveEntries, List.isEmpty_iff, if_neg hentries]
  simp only [load, ← hloading, heffective, gather] at h
  cases hbuilt : loading.buildEntries a.entries (s.logAll []) with
  | mk result built =>
      rw [hbuilt] at h
      cases result with
      | error f => cases h
      | ok rules =>
          have hfiles := buildEntries_files hbuilt
          rw [hloading] at hfiles h
          cases happly : applyCriteria { a with state := .loading } rules.1 with
          | error f =>
              simp only [bind, Except.bind, happly] at h
              cases h
          | ok kept =>
              simp only [bind, Except.bind, happly] at h
              cases h
              exact ⟨rfl, hfiles⟩

theorem create_eq_ok {entries : List Entry} {ruleOptions scanPaths : Value} {c : Catalogue}
    {criteria : Option Criteria} (h : create entries ruleOptions c scanPaths criteria = .ok a) :
    a.entries = entries ∧ readRuleOptions ruleOptions = .ok a.ruleOptions ∧
      a.criteria = criteria ∧ a.catalogue = if c.size = 0 then .bundled else c := by
  obtain ⟨options, hread, h⟩ := exists_ok_of_bind h
  obtain ⟨paths, _, h⟩ := exists_ok_of_bind h
  cases h
  exact ⟨rfl, hread, rfl, rfl⟩

/-- An audit with entries and a catalogue that is not empty loads exactly if every entry that gives no
rule can be filed and the criteria can judge all other ones. Then every entry is loaded, failed or
filtered. The loaded rules are those of the entries that give one which the criteria keep, in the
order of the entries. One record is filed for each entry that gives none, in this order too, and
names it. -/
theorem every_entry_accounted {entries : List Entry} {ruleOptions scanPaths : Value}
    {c : Catalogue} {criteria : Option Criteria}
    (hcreated : create entries ruleOptions c scanPaths criteria = .ok a)
    (hentries : entries ≠ []) (hcatalogue : c.size ≠ 0)
    (hvalid : ∀ f, criteria = some f → f.Valid) (s : Session) :
    let given := entries.filterMap (c.ruleOf? a.ruleOptions)
    readRuleOptions ruleOptions = .ok a.ruleOptions ∧
      ((∃ loaded, (a.load s).1 = .ok loaded) ↔ (∀ entry ∈ entries, a.unfiled? entry = none) ∧
        ∀ f, criteria = some f → ∀ rule ∈ given, ¬f.Unjudged rule) ∧
      ∀ loaded after ended, a.load s = (.ok loaded, after, ended) →
        after.loaded = some loaded ∧
        loaded.rules.length + loaded.failed + loaded.filtered = entries.length ∧
        loaded.rules = given.filter (keeps criteria) ∧
        ∃ records, records.length = loaded.failed ∧
          ended.incidents.errors = s.incidents.errors ++ records ∧
          ended.incidents.warnings = s.incidents.warnings ∧
          List.Forall₂ Incident.Blames records
            (entries.filter fun entry => (c.ruleOf? a.ruleOptions entry).isNone) := by
  obtain ⟨rfl, hread, rfl, hused⟩ := create_eq_ok hcreated
  rw [if_neg hcatalogue] at hused
  subst hused
  intro given
  have hgiven : a.rulesOf a.entries = given := a.rulesOf_eq a.entries
  have heffective : a.effectiveEntries.1 = .ok a.entries := by
    simp only [effectiveEntries, List.isEmpty_iff, if_neg hentries]
  have hloads : (∃ loaded, (a.load s).1 = .ok loaded) ↔
      (∀ entry ∈ a.entries, a.unfiled? entry = none) ∧
        ∀ f, a.criteria = some f → ∀ rule ∈ given, ¬f.Unjudged rule := by
    rw [load_result, heffective, ← hgiven]
    exact exists_gathered_iff hvalid a.entries
  refine ⟨hread, hloads, fun loaded after ended hload => ?_⟩
  obtain ⟨hfiled, hjudged⟩ := hloads.mp ⟨loaded, by rw [hload]⟩
  obtain ⟨hafter, records, hblames, herrors, hwarnings⟩ := load_files hentries hload
  have happly := applyCriteria_of_judged (a := a)
    fun f hf rule hrule => (Criteria.judges_iff (hvalid f hf).bounded rule).mpr
      (hjudged f hf rule hrule)
  have hresult : (a.load s).1 = a.gathered a.entries := by
    rw [load_result, heffective]
    rfl
  rw [hload, gathered, List.findSome?_eq_none_iff.mpr hfiled, Failure.barring_none, hgiven] at hresult
  simp only [bind, Except.bind, happly] at hresult
  cases hresult
  have hcount : records.length = a.entries.countP fun entry =>
      (a.buildEntry entry).toOption.isNone := by
    rw [hblames.length_eq, ← List.countP_eq_length_filter]
    simp only [a.toOption_buildEntry]
  refine ⟨hafter, ?_, rfl, records, hcount, herrors, hwarnings, hblames⟩
  have hkept : (given.filter (keeps a.criteria)).length ≤ given.length := List.length_filter_le _ _
  have htotal : given.length + records.length = a.entries.length := by
    rw [hblames.length_eq]
    exact length_given_add_failed a.catalogue a.ruleOptions a.entries
  dsimp only
  omega

end Audit

/-- One factory insists on options, and has a second name; the other makes no rule. -/
def Catalogue.choosy : Catalogue where
  factories :=
    [("guard", fun options =>
        if options.isEmpty then .error (.wrongValue "no level")
        else .ok (.rule { Rule.presence with chosen := options })),
      ("hollow", fun _ => .ok (.other .null))]
  aliases := [("Guard", "guard"), ("Hollow", "hollow")]

def Audit.guarded (level : Int) : Rule := { Rule.presence with chosen := [("level", .int level)] }

/-- Names with options of their own and without, names that give no rule, a number, two rules. -/
def Audit.mixedEntries : List Entry :=
  [.name "Guard", .name "Hollow", .name "guard", .other (.int 7), .rule .presence, .name "absent",
    .name "guard", .rule { Rule.presence with category := .text "security" }]

/-- Options for both names of one rule. -/
def Audit.guardLevels : Value :=
  .map [("guard", .map [("level", .int 1)]), ("Guard", .map [("level", .int 2)])]

/-- Of eight entries four are loaded, each with its options, three fail and one is filtered. A number
of too many digits among the entries ends the loading. -/
theorem Audit.mixedEntries_accounted :
    (∃ a loaded after ended,
      Audit.create mixedEntries guardLevels .choosy .null (some .styleOnly) = .ok a ∧
      a.load .cold = (.ok loaded, after, ended) ∧
      loaded.rules.map (·.chosen) =
        [[("level", .int 2)], [("level", .int 1)], [], [("level", .int 1)]] ∧
      loaded.failed = 3 ∧ loaded.filtered = 1 ∧
      ended.incidents.errors.map (·.rule) = [.text "Hollow", .text "7", .text "absent"]) ∧
    ∃ a, Audit.create [.other (.int (Nat.pow 10 Numeral.maxDecimalDigits))] .null .choosy .null
        none = .ok a ∧ ¬∃ loaded, (a.load .cold).1 = .ok loaded := by
  constructor
  · obtain ⟨a, hcreated⟩ : ∃ a,
        Audit.create mixedEntries guardLevels .choosy .null (some .styleOnly) = .ok a := ⟨_, rfl⟩
    have hvalid : ∀ f, some Criteria.styleOnly = some f → f.Valid := by
      rintro _ ⟨⟩
      exact Criteria.styleOnly_valid
    have hjudged : ∀ f, some Criteria.styleOnly = some f →
        ∀ rule ∈ mixedEntries.filterMap (Catalogue.choosy.ruleOf? a.ruleOptions),
          ¬f.Unjudged rule := by
      rintro _ ⟨⟩ rule hrule
      rw [← Criteria.judges_iff Criteria.styleOnly_valid.bounded]
      cases hcreated
      have hgiven : rule ∈ [guarded 2, guarded 1, .presence, guarded 1,
          { Rule.presence with category := .text "security" }] := hrule
      simp only [List.mem_cons, List.not_mem_nil, or_false] at hgiven
      rcases hgiven with rfl | rfl | rfl | rfl | rfl <;> exact Criteria.judges_of_accepts rfl
    obtain ⟨_, hloads, haccounted⟩ :=
      Audit.every_entry_accounted hcreated (by decide) (by decide) hvalid .cold
    have hfiled : ∀ entry ∈ mixedEntries, a.unfiled? entry = none := by
      cases hcreated
      simp only [mixedEntries, List.forall_mem_cons, List.not_mem_nil, false_imp_iff, implies_true,
        and_true]
      exact ⟨rfl, rfl, rfl, rfl, rfl, rfl, rfl, rfl⟩
    obtain ⟨loaded, after, ended, hload⟩ : ∃ loaded after ended,
        a.load .cold = (.ok loaded, after, ended) := by
      obtain ⟨loaded, hloaded⟩ := hloads.mpr ⟨hfiled, hjudged⟩
      exact ⟨loaded, _, _, Prod.ext hloaded rfl⟩
    obtain ⟨_, htotal, hrules, records, hfailed, herrors, _, hblames⟩ :=
      haccounted loaded after ended hload
    cases hcreated
    have hthree : loaded.failed = 3 := hfailed.symm.trans hblames.length_eq
    have hfour : loaded.rules.length = 4 := by
      rw [hrules]
      rfl
    have height : mixedEntries.length = 8 := rfl
    refine ⟨_, loaded, after, ended, rfl, hload, ?_, hthree, by omega, ?_⟩
    · rw [hrules]
      rfl
    · have htitles : [Entry.name "Hollow", .other (.int 7), .name "absent"].map Entry.title =
          ["Hollow", "7", "absent"].map .ok := rfl
      rw [herrors]
      exact Incident.map_rule_of_blames hblames htitles
  · obtain ⟨a, hcreated⟩ : ∃ a, Audit.create
        [.other (.int (Nat.pow 10 Numeral.maxDecimalDigits))] .null .choosy .null none = .ok a :=
      ⟨_, rfl⟩
    refine ⟨a, hcreated, fun hloaded => ?_⟩
    have hloads := (Audit.every_entry_accounted hcreated (List.cons_ne_nil _ _) (by decide)
      (by rintro _ ⟨⟩) .cold).2.1.mp hloaded
    have hwritten := hloads.1 _ List.mem_cons_self
    rw [Audit.unfiled?_other, Value.unwritable?_int_eq_none_iff, Int.natAbs_natCast] at hwritten
    exact Nat.lt_irrefl _ hwritten

end PhpAudit
