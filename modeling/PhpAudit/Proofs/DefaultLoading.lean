import PhpAudit.Proofs.LoadFailures
import PhpAudit.Proofs.ReferenceRun

/-!
Loading without entries. The audit asks its catalogue for the rules that are enabled by default, has
them built once more, and lets its criteria drop some; the catalogue can be asked for the rules that
meet criteria, too. Both ways select the same rules, whichever of the factories fail, as long as the
failures can be told. The exception is an empty catalogue: an audit that is given one has the bundled
catalogue instead.
-/

namespace PhpAudit

namespace Criteria

/-- Whether a rule is judged, and meets the criteria. -/
def meets (c : Criteria) (rule : Rule) : Bool :=
  match c.accepts rule with
  | .ok accepted => accepted
  | .error _ => false

/-- Whether the criteria come to a judgement. -/
def Judges (c : Criteria) (rule : Rule) : Prop := c.accepts rule = .ok (c.meets rule)

theorem accepts_eq_ok {c : Criteria} {rule : Rule} {accepted : Bool}
    (h : c.accepts rule = .ok accepted) : accepted = c.meets rule := by
  simp only [meets, h]

theorem judges_of_accepts {c : Criteria} {rule : Rule} {accepted : Bool}
    (h : c.accepts rule = .ok accepted) : c.Judges rule := by
  rw [Judges, h, accepts_eq_ok h]

theorem not_judges_of_error {c : Criteria} {rule : Rule} {f : Failure}
    (h : c.accepts rule = .error f) : ¬c.Judges rule := by
  intro hjudges
  rw [Judges, h] at hjudges
  cases hjudges

theorem judges_or_fails (c : Criteria) (rule : Rule) :
    c.Judges rule ∨ ∃ f, c.accepts rule = .error f := by
  cases h : c.accepts rule with
  | ok accepted => exact Or.inl (judges_of_accepts h)
  | error f => exact Or.inr ⟨f, rfl⟩

theorem judges_iff {c : Criteria} (hbounded : c.Bounded) (rule : Rule) :
    c.Judges rule ↔ ¬c.Unjudged rule := by
  rcases accepts_cases hbounded rule with ⟨hjudged, answer, haccepts⟩ | ⟨hunjudged, f, hfail⟩
  · exact ⟨fun _ => hjudged, fun _ => judges_of_accepts haccepts⟩
  · exact ⟨fun hjudges => absurd hjudges (not_judges_of_error hfail),
      fun hnot => absurd hunjudged hnot⟩

theorem select_of_judges {c : Criteria} {rules : List Rule} (h : ∀ rule ∈ rules, c.Judges rule) :
    c.select rules = .ok (rules.filter c.meets) := by
  induction rules with
  | nil => rfl
  | cons rule rest ih =>
      obtain ⟨hrule, hrest⟩ := List.forall_mem_cons.mp h
      rw [select, hrule, ih hrest, List.filter_cons]
      rfl

theorem eq_filter_of_select {c : Criteria} {rules kept : List Rule}
    (h : c.select rules = .ok kept) : kept = rules.filter c.meets := by
  induction rules generalizing kept with
  | nil =>
      cases h
      rfl
  | cons rule rest ih =>
      obtain ⟨accepted, haccepts, h⟩ := exists_ok_of_bind h
      obtain ⟨others, hothers, h⟩ := exists_ok_of_bind h
      cases h
      rw [accepts_eq_ok haccepts, ih hothers, List.filter_cons]

theorem judges_of_select {c : Criteria} {rules kept : List Rule} (h : c.select rules = .ok kept) :
    ∀ rule ∈ rules, c.Judges rule := by
  induction rules generalizing kept with
  | nil => exact List.forall_mem_nil _
  | cons rule rest ih =>
      obtain ⟨accepted, haccepts, h⟩ := exists_ok_of_bind h
      obtain ⟨others, hothers, h⟩ := exists_ok_of_bind h
      exact List.forall_mem_cons.mpr ⟨judges_of_accepts haccepts, ih hothers⟩

end Criteria

namespace Catalogue

/-- The rules of the names, built without options; names that give none are left out. -/
def rulesOf (c : Catalogue) (names : List String) : List Rule :=
  names.filterMap fun name => (c.create name .null).toOption

/-- The rules that can be built and are enabled by default. -/
def defaultRules (c : Catalogue) : List Rule :=
  (c.rulesOf c.identifiers).filter (!·.enabledByDefault.isEmpty)

theorem rulesOf_cons_ok {c : Catalogue} {name : String} {rule : Rule}
    (h : c.create name .null = .ok rule) (rest : List String) :
    c.rulesOf (name :: rest) = rule :: c.rulesOf rest := by
  rw [rulesOf, List.filterMap_cons, h]
  rfl

theorem rulesOf_cons_error {c : Catalogue} {name : String} {f : Failure}
    (h : c.create name .null = .error f) (rest : List String) :
    c.rulesOf (name :: rest) = c.rulesOf rest := by
  rw [rulesOf, List.filterMap_cons, h]
  rfl

/-- A name that gave a rule gives it again. -/
theorem create_of_mem_pairsOf {c : Catalogue} {names : List String} {e : String × Rule}
    (h : e ∈ c.pairsOf names) : c.create e.1 .null = .ok e.2 := by
  obtain ⟨name, _, hpair⟩ := List.mem_filterMap.mp h
  cases hbuilt : c.create name .null with
  | error f =>
      rw [hbuilt] at hpair
      cases hpair
  | ok rule =>
      rw [hbuilt] at hpair
      cases hpair
      exact hbuilt

theorem map_snd_pairsOf (c : Catalogue) (names : List String) :
    (c.pairsOf names).map (·.2) = c.rulesOf names := by
  simp only [pairsOf, rulesOf, List.map_filterMap]
  refine congrArg (List.filterMap · names) (funext fun name => ?_)
  cases c.create name .null <;> rfl

/-- Names that come from built rules give these rules. -/
theorem rulesOf_map_fst {c : Catalogue} {built : List (String × Rule)}
    (h : ∀ e ∈ built, c.create e.1 .null = .ok e.2) :
    c.rulesOf (built.map (·.1)) = built.map (·.2) := by
  induction built with
  | nil => rfl
  | cons e rest ih =>
      obtain ⟨he, hrest⟩ := List.forall_mem_cons.mp h
      rw [List.map_cons, List.map_cons, rulesOf_cons_ok he, ih hrest]

/-- The names of the rules that can be built and are enabled by default. -/
def defaultNames (c : Catalogue) : List String :=
  ((c.pairsOf c.identifiers).filter (!·.2.enabledByDefault.isEmpty)).map (·.1)

theorem defaults_eq (c : Catalogue) :
    c.defaults.1 = Failure.barring (c.identifiers.findSome? c.unskippable?) c.defaultNames := by
  simp only [defaults, builtFrom_eq]
  cases c.identifiers.findSome? c.unskippable? <;> rfl

theorem create_of_mem_defaultNames {c : Catalogue} {name : String} (h : name ∈ c.defaultNames) :
    ∃ rule, c.create name .null = .ok rule := by
  obtain ⟨e, he, rfl⟩ := List.mem_map.mp h
  exact ⟨e.2, create_of_mem_pairsOf (List.mem_filter.mp he).1⟩

theorem rulesOf_defaultNames (c : Catalogue) : c.rulesOf c.defaultNames = c.defaultRules := by
  have hbuilt : ∀ e ∈ (c.pairsOf c.identifiers).filter (!·.2.enabledByDefault.isEmpty),
      c.create e.1 .null = .ok e.2 := by
    intro e he
    exact create_of_mem_pairsOf (List.mem_filter.mp he).1
  rw [defaultRules, ← map_snd_pairsOf c c.identifiers, List.filter_map]
  exact rulesOf_map_fst hbuilt

/-- Every rule that cannot be built can be skipped, and every other one is judged. -/
def Selectable (c : Catalogue) (criteria : Criteria) (names : List String) : Prop :=
  (∀ name ∈ names, c.unskippable? name = none) ∧ ∀ rule ∈ c.rulesOf names, criteria.Judges rule

/-- Selection by the catalogue, name by name. -/
theorem matchingFrom_cases (c : Catalogue) (criteria : Criteria) (names : List String) :
    (c.Selectable criteria names ∧
        ∃ kept, (c.matchingFrom criteria names).1 = .ok kept ∧ kept.Sublist names ∧
          c.rulesOf kept = (c.rulesOf names).filter criteria.meets) ∨
      (¬c.Selectable criteria names ∧ ∃ f, (c.matchingFrom criteria names).1 = .error f) := by
  unfold Selectable
  induction names with
  | nil =>
      exact Or.inl ⟨⟨List.forall_mem_nil _, List.forall_mem_nil _⟩, [], rfl, .refl [], rfl⟩
  | cons name rest ih =>
      rw [matchingFrom, List.forall_mem_cons]
      cases hbuilt : c.create name .null with
      | error f =>
          have hskipped : c.unskippable? name = Failure.of? (skippedLine name f) := by
            rw [unskippable?, hbuilt, of?_skippedLine]
          rw [rulesOf_cons_error hbuilt, hskipped]
          dsimp only
          cases skippedLine name f with
          | error g => exact Or.inr ⟨(by rintro ⟨⟨⟨⟩, _⟩, _⟩), g, rfl⟩
          | ok line =>
              rcases ih with ⟨⟨hskip, hall⟩, kept, hkept, hsub, hrules⟩ | ⟨hnot, hfails⟩
              · exact Or.inl ⟨⟨⟨rfl, hskip⟩, hall⟩, kept, hkept, hsub.cons name, hrules⟩
              · exact Or.inr ⟨fun h => hnot ⟨h.1.2, h.2⟩, hfails⟩
      | ok rule =>
          have hskipped : c.unskippable? name = none := by rw [unskippable?, hbuilt]
          rw [rulesOf_cons_ok hbuilt, hskipped, List.forall_mem_cons]
          rcases criteria.judges_or_fails rule with hjudges | ⟨f, hfail⟩
          · have haccepts : criteria.accepts rule = .ok (criteria.meets rule) := hjudges
            simp only [haccepts]
            rcases ih with ⟨⟨hskip, hall⟩, kept, hkept, hsub, hrules⟩ | ⟨hnot, f, hfail⟩
            · refine Or.inl ⟨⟨⟨trivial, hskip⟩, hjudges, hall⟩, ?_⟩
              rw [hkept, List.filter_cons]
              cases criteria.meets rule with
              | true =>
                  refine ⟨name :: kept, rfl, hsub.cons_cons name, ?_⟩
                  rw [rulesOf_cons_ok hbuilt, hrules]
                  rfl
              | false => exact ⟨kept, rfl, hsub.cons name, hrules⟩
            · refine Or.inr ⟨fun h => hnot ⟨h.1.2, h.2.2⟩, f, ?_⟩
              rw [hfail]
              rfl
          · exact Or.inr ⟨fun h => Criteria.not_judges_of_error hfail h.2.1, f,
              by simp only [hfail]⟩

theorem exists_matching_iff (c : Catalogue) {criteria : Criteria} (hvalid : criteria.Valid) :
    (∃ names, (c.matching criteria).1 = .ok names) ↔
      (∀ name ∈ c.identifiers, c.unskippable? name = none) ∧
        ∀ rule ∈ c.rulesOf c.identifiers, ¬criteria.Unjudged rule := by
  simp only [← Criteria.judges_iff hvalid.bounded]
  rcases c.matchingFrom_cases criteria c.identifiers with
    ⟨hselectable, kept, hkept, _⟩ | ⟨hnot, f, hfail⟩
  · exact ⟨fun _ => hselectable, fun _ => ⟨kept, hkept⟩⟩
  · refine ⟨?_, fun hselectable => absurd hselectable hnot⟩
    rintro ⟨names, hnames⟩
    cases hfail.symm.trans hnames

theorem sublist_of_matching {c : Catalogue} {criteria : Criteria} {names : List String}
    (h : (c.matching criteria).1 = .ok names) : names.Sublist c.identifiers := by
  rcases c.matchingFrom_cases criteria c.identifiers with ⟨_, kept, hkept, hsub, _⟩ | ⟨_, f, hfail⟩
  · obtain rfl : kept = names := Except.ok.inj (hkept.symm.trans h)
    exact hsub
  · cases hfail.symm.trans h

/-- A factory is given the same options by an empty mapping as by none. -/
theorem create_map_nil (c : Catalogue) (name : String) :
    c.create name (.map []) = c.create name .null := rfl

end Catalogue

namespace Audit

variable {a : Audit}

theorem buildEntry_name (hoptions : a.ruleOptions = []) (name : String) :
    a.buildEntry (.name name) = a.catalogue.create name .null := by
  rw [buildEntry, optionsFor, hoptions, ← a.catalogue.create_map_nil]
  cases hresolve : a.catalogue.resolve name with
  | ok identifier => rfl
  | error f =>
      rw [Catalogue.create, hresolve]
      rfl

theorem buildEntries_names (hoptions : a.ruleOptions = []) {names : List String}
    (h : ∀ name ∈ names, ∃ rule, a.catalogue.create name .null = .ok rule) (s : Session) :
    a.buildEntries (names.map .name) s = (.ok (a.catalogue.rulesOf names, 0), s) := by
  induction names with
  | nil => rfl
  | cons name rest ih =>
      obtain ⟨⟨rule, hrule⟩, hrest⟩ := List.forall_mem_cons.mp h
      rw [List.map_cons, buildEntries, buildEntry_name hoptions, hrule, ih hrest,
        Catalogue.rulesOf_cons_ok hrule]
      rfl

/-- What an audit without entries and options loads: none of its rules fails a second time. -/
theorem load_defaults (hentries : a.entries = []) (hoptions : a.ruleOptions = [])
    (hskippable : ∀ name ∈ a.catalogue.identifiers, a.catalogue.unskippable? name = none)
    (s : Session) :
    a.load s =
      match a.applyCriteria a.catalogue.defaultRules with
      | .error f => (.error f, { a with state := .loading }, s.logAll a.catalogue.defaults.2)
      | .ok (kept, filtered) =>
          (.ok ⟨kept, 0, filtered⟩,
            { a with state := .loading, loaded := some ⟨kept, 0, filtered⟩ },
            (s.logAll a.catalogue.defaults.2).log (loadedLine ⟨kept, 0, filtered⟩)) := by
  obtain ⟨loading, hloading⟩ : ∃ loading, loading = ({ a with state := .loading } : Audit) :=
    ⟨_, rfl⟩
  have hdefaults : a.catalogue.defaults.1 = .ok a.catalogue.defaultNames := by
    rw [Catalogue.defaults_eq, List.findSome?_eq_none_iff.mpr hskippable, Failure.barring_none]
  have heffective : loading.effectiveEntries =
      (.ok (a.catalogue.defaultNames.map .name), a.catalogue.defaults.2) := by
    simp only [hloading, effectiveEntries, hentries, List.isEmpty_nil, if_true, hdefaults]
    rfl
  have hbuilt := buildEntries_names (a := loading) (by rw [hloading, hoptions])
    (fun name => by rw [hloading]; exact Catalogue.create_of_mem_defaultNames)
    (s.logAll a.catalogue.defaults.2)
  have hrules : loading.catalogue.rulesOf a.catalogue.defaultNames = a.catalogue.defaultRules := by
    rw [hloading]
    exact a.catalogue.rulesOf_defaultNames
  have hcriteria (rules : List Rule) : loading.applyCriteria rules = a.applyCriteria rules := by
    rw [hloading]
    rfl
  simp only [load, ← hloading, heffective, gather, hbuilt, hrules, bind, Except.bind, hcriteria]
  cases a.applyCriteria a.catalogue.defaultRules with
  | error f => rfl
  | ok result => rfl

/-- Loading succeeds, keeps exactly the rules of the names that are enabled by default, files no
incident, and counts as filtered the other rules that can be built and are enabled by default. -/
def LoadsMatching (a : Audit) (c : Catalogue) (criteria : Criteria) (names : List String)
    (s : Session) : Prop :=
  ∃ loaded after ended, a.load s = (.ok loaded, after, ended) ∧ after.loaded = some loaded ∧
    loaded.rules = (c.rulesOf names).filter (!·.enabledByDefault.isEmpty) ∧ loaded.failed = 0 ∧
    loaded.filtered = (c.defaultRules.filter fun rule => !criteria.meets rule).length ∧
    ended.incidents = s.incidents

variable {criteria : Criteria}

theorem applyCriteria_some (hcriteria : a.criteria = some criteria) (rules : List Rule) :
    a.applyCriteria rules =
      (fun kept => (kept, rules.length - kept.length)) <$> criteria.select rules := by
  rw [applyCriteria, hcriteria]

theorem loadsMatching (hentries : a.entries = []) (hoptions : a.ruleOptions = [])
    (hcriteria : a.criteria = some criteria) {names : List String}
    (hnames : (a.catalogue.matching criteria).1 = .ok names) (s : Session) :
    a.LoadsMatching a.catalogue criteria names s := by
  rcases a.catalogue.matchingFrom_cases criteria a.catalogue.identifiers with
    ⟨⟨hskippable, hjudged⟩, kept, hkept, _, hrules⟩ | ⟨_, f, hfail⟩
  · obtain rfl : kept = names := Except.ok.inj (hkept.symm.trans hnames)
    have hselect : criteria.select a.catalogue.defaultRules =
        .ok (a.catalogue.defaultRules.filter criteria.meets) :=
      Criteria.select_of_judges fun rule h => hjudged rule (List.mem_filter.mp h).1
    have hsplit := List.length_eq_length_filter_add (l := a.catalogue.defaultRules) criteria.meets
    have hload := load_defaults hentries hoptions hskippable s
    rw [applyCriteria_some hcriteria, hselect] at hload
    refine ⟨_, _, _, hload, rfl, ?_, rfl, ?_, rfl⟩
    · rw [hrules, List.filter_filter, Catalogue.defaultRules, List.filter_filter]
      exact List.filter_congr fun rule _ => Bool.and_comm _ _
    · exact Nat.sub_eq_of_eq_add' hsplit
  · cases hfail.symm.trans hnames

/-- Every rule that can be built and is enabled by default is kept or counted as filtered. -/
theorem length_rules_add_filtered (hentries : a.entries = []) (hoptions : a.ruleOptions = [])
    (hcriteria : a.criteria = some criteria) {s ended : Session} {loaded : LoadedRules}
    {after : Audit} (h : a.load s = (.ok loaded, after, ended)) :
    loaded.rules.length + loaded.filtered = a.catalogue.defaultRules.length := by
  have hskippable := by
    refine a.exists_effectiveEntries_iff.mp ?_ hentries
    obtain ⟨entries, heffective, _⟩ := exists_ok_of_bind ((a.load_result s).symm.trans (by rw [h]))
    exact ⟨entries, heffective⟩
  rw [load_defaults hentries hoptions hskippable, applyCriteria_some hcriteria] at h
  cases hselect : criteria.select a.catalogue.defaultRules with
  | error f => rw [hselect] at h; cases h
  | ok kept =>
      rw [hselect] at h
      cases h
      rw [Criteria.eq_filter_of_select hselect]
      exact Nat.add_sub_cancel' (List.length_filter_le _ _)

theorem readRuleOptions_of_isEmpty {v : Value} (h : v.isEmpty = true) :
    readRuleOptions v = .ok [] := by
  rw [readRuleOptions, Value.orElse, if_pos h]
  rfl

/-- A new audit without entries or options, and the catalogue that it has. -/
theorem create_defaults {ruleOptions scanPaths : Value} {c : Catalogue}
    (h : create [] ruleOptions c scanPaths (some criteria) = .ok a)
    (hoptions : ruleOptions.isEmpty = true) :
    a.entries = [] ∧ a.ruleOptions = [] ∧ a.criteria = some criteria ∧
      a.catalogue = if c.size = 0 then .bundled else c := by
  obtain ⟨options, hread, h⟩ := exists_ok_of_bind h
  obtain ⟨paths, _, h⟩ := exists_ok_of_bind h
  rw [readRuleOptions_of_isEmpty hoptions] at hread
  cases hread
  cases h
  exact ⟨rfl, rfl, rfl, rfl⟩

theorem length_defaultRules_bundled : Catalogue.bundled.defaultRules.length = 3 := rfl

/-- The catalogue's selection has a result unless a rule that cannot be built cannot be skipped, or a
rule that can be built is not judged; loading agrees with the selection unless the catalogue is
empty. An audit with an empty one loads bundled rules, or counts them as filtered, though the
selection has none. -/
theorem default_loading_agrees_iff {ruleOptions scanPaths : Value} {c : Catalogue}
    (hcreated : create [] ruleOptions c scanPaths (some criteria) = .ok a)
    (hoptions : ruleOptions.isEmpty = true) (hvalid : criteria.Valid) (s : Session) :
    ((∃ names, (c.matching criteria).1 = .ok names) ↔
        (∀ name ∈ c.identifiers, c.unskippable? name = none) ∧
          ∀ rule ∈ c.rulesOf c.identifiers, ¬criteria.Unjudged rule) ∧
      (∀ names, (c.matching criteria).1 = .ok names →
        names.Sublist c.identifiers ∧ (a.LoadsMatching c criteria names s ↔ c.size ≠ 0)) ∧
      (c.size = 0 → ∀ names, (Catalogue.bundled.matching criteria).1 = .ok names →
        a.LoadsMatching .bundled criteria names s) := by
  obtain ⟨hentries, hnone, hcriteria, hcatalogue⟩ := create_defaults hcreated hoptions
  refine ⟨c.exists_matching_iff hvalid, ?_, ?_⟩
  · intro names hnames
    have hsub := Catalogue.sublist_of_matching hnames
    refine ⟨hsub, ?_, ?_⟩
    · rintro ⟨loaded, after, ended, hload, _, hrules, _, hfiltered, _⟩ hsize
      -- All of the bundled rules are accounted for, and none of them is the empty catalogue's.
      have htotal := length_rules_add_filtered hentries hnone hcriteria hload
      rw [hcatalogue, if_pos hsize, length_defaultRules_bundled] at htotal
      have hempty : c.identifiers = [] := by
        rw [Catalogue.identifiers, List.eq_nil_of_length_eq_zero hsize]
        rfl
      rw [hempty, List.sublist_nil] at hsub
      rw [hrules, hfiltered, Catalogue.defaultRules, hempty, hsub] at htotal
      cases htotal
    · intro hsize
      rw [if_neg hsize] at hcatalogue
      rw [← hcatalogue] at hnames ⊢
      exact loadsMatching hentries hnone hcriteria hnames s
  · intro hsize names hnames
    rw [if_pos hsize] at hcatalogue
    rw [← hcatalogue] at hnames ⊢
    exact loadsMatching hentries hnone hcriteria hnames s

end Audit

/-- One factory fails, one makes a rule that is not enabled, and two make rules that are. -/
def Catalogue.mixed : Catalogue where
  factories :=
    [("broken", fun _ => .error (.wrongValue "out of order")),
      ("quiet", fun _ => .ok (.rule { Rule.presence with enabledByDefault := .bool false })),
      ("guard", fun _ => .ok (.rule { Rule.presence with category := .text "security" })),
      ("presence", fun _ => .ok (.rule .presence))]

def Criteria.styleOnly : Criteria := { categories := ["style"] }

theorem Criteria.styleOnly_valid : Criteria.styleOnly.Valid :=
  ⟨{ categories := .text "style" }, rfl⟩

/-- Of the mixed catalogue one rule is loaded; for the empty one no audit agrees. -/
theorem Audit.mixed_agrees_and_empty_differs :
    (∃ a, Audit.create [] .null .mixed .null (some .styleOnly) = .ok a ∧
      a.LoadsMatching .mixed .styleOnly ["quiet", "presence"] .cold) ∧
    ∃ a, Audit.create [] .null {} .null (some .styleOnly) = .ok a ∧
      ¬a.LoadsMatching {} .styleOnly [] .cold := by
  have hmixed : Audit.create [] .null .mixed .null (some .styleOnly) =
      .ok { catalogue := .mixed, criteria := some .styleOnly } := rfl
  have hempty : Audit.create [] .null {} .null (some .styleOnly) =
      .ok { criteria := some .styleOnly } := rfl
  refine ⟨⟨_, hmixed, ?_⟩, _, hempty, ?_⟩
  · have hagrees := Audit.default_loading_agrees_iff hmixed rfl Criteria.styleOnly_valid .cold
    exact (hagrees.2.1 ["quiet", "presence"] rfl).2.mpr (by decide)
  · have hagrees := Audit.default_loading_agrees_iff hempty rfl Criteria.styleOnly_valid .cold
    exact fun hloads => (hagrees.2.1 [] rfl).2.mp hloads rfl

end PhpAudit
