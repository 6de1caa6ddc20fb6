import PhpAudit.Proofs.DefaultLoading

/-!
Criteria that are given one after another. Each step checks all criteria again, those that have been
checked before included. Checking leaves these as they are, so a step changes one respect only, and
criteria in different respects can be given in any order, or at once.
-/

namespace PhpAudit

namespace Criteria

/-- What criteria ask about. -/
inductive Respect where
  | categories
  | severities
  | tags
  | enabled
  | authors
  | classPattern
  | priorities
  deriving DecidableEq, Repr

/-- One criterion, as loosely as it may be given. -/
inductive Demand where
  | categories (values : List Value)
  | severities (values : List Value)
  | tags (values : List Value)
  | enabled (value : Value)
  | authors (values : List Value)
  | classPattern (pattern : Value)
  | priorities (low high : Value)

namespace Demand

def respect : Demand → Respect
  | .categories _ => .categories
  | .severities _ => .severities
  | .tags _ => .tags
  | .enabled _ => .enabled
  | .authors _ => .authors
  | .classPattern _ => .classPattern
  | .priorities _ _ => .priorities

/-- The criteria with this one in the place of what they asked in its respect. -/
def amend (c : Criteria) : Demand → Except Failure Criteria
  | .categories values => c.byCategory values
  | .severities values => c.bySeverity values
  | .tags values => c.byTags values
  | .enabled value => c.byEnabled value
  | .authors values => c.byAuthor values
  | .classPattern pattern => c.byClassName pattern
  | .priorities low high => c.byPriority low high

/-- The named fields that give a criterion. Whatever stands for the sequence of its values will do:
a tuple, a list, and for one text, severity or category the value itself. -/
inductive GivenBy : Demand → Mapping String Value → Prop where
  | categories {v : Value} {values : List Value} (h : sequenceOf v = .ok values) :
      GivenBy (.categories values) [("categories", v)]
  | severities {v : Value} {values : List Value} (h : sequenceOf v = .ok values) :
      GivenBy (.severities values) [("severities", v)]
  | tags {v : Value} {values : List Value} (h : sequenceOf v = .ok values) :
      GivenBy (.tags values) [("tags", v)]
  | enabled (v : Value) : GivenBy (.enabled v) [("enabled", v)]
  | authors {v : Value} {values : List Value} (h : sequenceOf v = .ok values) :
      GivenBy (.authors values) [("authors", v)]
  | classPattern (v : Value) : GivenBy (.classPattern v) [("class_pattern", v)]
  | priorities (low high : Value) :
      GivenBy (.priorities low high) [("min_priority", low), ("max_priority", high)]

/-- The criterion alone. -/
def alone (k : Demand) : Except Failure Criteria := k.amend {}

/-- A criterion that passes its check. -/
def Sound (k : Demand) : Prop := ∃ c, k.alone = .ok c

/-- A draft with the criterion entered. -/
def enter (k : Demand) (d : Draft) : Draft :=
  match k with
  | .categories values => { d with categories := .tuple values }
  | .severities values => { d with severities := .tuple values }
  | .tags values => { d with tags := .tuple values }
  | .enabled value => { d with enabled := value }
  | .authors values => { d with authors := .tuple values }
  | .classPattern pattern => { d with classPattern := pattern }
  | .priorities low high => { d with minPriority := low, maxPriority := high }

theorem amend_eq (k : Demand) (c : Criteria) : k.amend c = (k.enter c.draft).check := by
  cases k <;> rfl

theorem alone_eq (k : Demand) : k.alone = (k.enter {}).check := k.amend_eq {}

end Demand

/-- Gives criteria one after another. -/
def chain (c : Criteria) : List Demand → Except Failure Criteria
  | [] => .ok c
  | k :: rest => do
      let next ← k.amend c
      next.chain rest

/-- These criteria, but in one respect the others. -/
def takeFrom (other : Criteria) (r : Respect) (c : Criteria) : Criteria :=
  match r with
  | .categories => { c with categories := other.categories }
  | .severities => { c with severities := other.severities }
  | .tags => { c with tags := other.tags }
  | .enabled => { c with enabled := other.enabled }
  | .authors => { c with authors := other.authors }
  | .classPattern => { c with classPattern := other.classPattern }
  | .priorities => { c with minPriority := other.minPriority, maxPriority := other.maxPriority }

theorem takeFrom_comm {r s : Respect} (h : r ≠ s) (a b c : Criteria) :
    takeFrom a r (takeFrom b s c) = takeFrom b s (takeFrom a r c) := by
  cases r <;> cases s <;> first | rfl | exact absurd rfl h

@[simp] theorem takeFrom_takeFrom (r : Respect) (a b c : Criteria) :
    takeFrom a r (takeFrom b r c) = takeFrom a r c := by
  cases r <;> rfl

@[simp] theorem takeFrom_self (r : Respect) (c : Criteria) : takeFrom c r c = c := by
  cases r <;> rfl

/-- A draft reads as criteria: each of its fields passes its own check. -/
structure Draft.Reads (d : Draft) (c : Criteria) : Prop where
  categories : checkCategories d.categories = .ok c.categories
  severities : checkSeverities d.severities = .ok c.severities
  classPattern : checkClassPattern d.classPattern = .ok c.classPattern
  priorities : checkPriorities d.minPriority d.maxPriority = .ok ()
  tags : texts d.tags = .ok c.tags
  authors : texts d.authors = .ok c.authors
  enabled : d.enabled = c.enabled
  minPriority : d.minPriority = c.minPriority
  maxPriority : d.maxPriority = c.maxPriority

theorem Draft.check_eq_ok_iff {d : Draft} {c : Criteria} : d.check = .ok c ↔ d.Reads c := by
  constructor
  · intro h
    obtain ⟨categories, hcategories, h⟩ := exists_ok_of_bind h
    obtain ⟨severities, hseverities, h⟩ := exists_ok_of_bind h
    obtain ⟨pattern, hpattern, h⟩ := exists_ok_of_bind h
    obtain ⟨_, hpriorities, h⟩ := exists_ok_of_bind h
    obtain ⟨tags, htags, h⟩ := exists_ok_of_bind h
    obtain ⟨authors, hauthors, h⟩ := exists_ok_of_bind h
    cases h
    exact ⟨hcategories, hseverities, hpattern, hpriorities, htags, hauthors, rfl, rfl, rfl⟩
  · intro h
    rw [check, h.categories, h.severities, h.classPattern, h.priorities, h.tags, h.authors]
    simp only [bind, Except.bind, pure, Except.pure, h.enabled, h.minPriority, h.maxPriority]

/-- Entering a criterion changes how a draft reads in one respect, which the criterion alone
decides. -/
theorem Draft.Reads.enter {d : Draft} {c e : Criteria} {k : Demand} (h : d.Reads c)
    (hk : (k.enter {}).Reads e) : (k.enter d).Reads (takeFrom e k.respect c) := by
  cases k with
  | categories => exact { h with categories := hk.categories }
  | severities => exact { h with severities := hk.severities }
  | tags => exact { h with tags := hk.tags }
  | enabled => exact { h with enabled := hk.enabled }
  | authors => exact { h with authors := hk.authors }
  | classPattern => exact { h with classPattern := hk.classPattern }
  | priorities =>
      exact { h with
        priorities := hk.priorities, minPriority := hk.minPriority, maxPriority := hk.maxPriority }

section Rechecking

theorem sequenceOf_tuple (values : List Value) : sequenceOf (.tuple values) = .ok values := rfl

theorem checkCategories_names {names : List String}
    (h : ∀ name ∈ names, (Category.ofName? name).isSome) :
    checkCategories (.tuple (names.map .text)) = .ok names := by
  have hnames : (names.map Value.text).mapM categoryText = .ok names :=
    mapM_map (f := categoryText) (g := Value.text) (fun _ => rfl) names
  have hknown : (names.filter fun name => (Category.ofName? name).isNone) = [] := by
    rw [List.filter_eq_nil_iff]
    intro name hname
    rw [Option.isNone_iff_eq_none, ← Option.not_isSome_iff_eq_none, h name hname]
    simp
  simp only [checkCategories, sequenceOf_tuple, bind, Except.bind, hnames, hknown, pure,
    Except.pure]

theorem known_of_checkCategories {v : Value} {names : List String}
    (h : checkCategories v = .ok names) : ∀ name ∈ names, (Category.ofName? name).isSome := by
  obtain ⟨values, _, h⟩ := exists_ok_of_bind h
  obtain ⟨read, _, h⟩ := exists_ok_of_bind h
  split at h
  · next hnone =>
      cases h
      intro name hname
      have := List.filter_eq_nil_iff.mp hnone name hname
      simpa [Option.isSome_iff_ne_none] using this
  · cases h

theorem checkSeverities_severities (severities : List Severity) :
    checkSeverities (.tuple (severities.map .severity)) = .ok severities := by
  have hread : (severities.map Value.severity).mapM Value.toSeverity = .ok severities :=
    mapM_map (f := Value.toSeverity) (g := Value.severity) (fun _ => rfl) severities
  simp only [checkSeverities, sequenceOf_tuple, bind, Except.bind, hread, pure, Except.pure]

theorem texts_texts (items : List String) : texts (.tuple (items.map .text)) = .ok items :=
  mapM_map Value.written_text items

theorem checkClassPattern_source {v : Value} {pattern : Option ClassPattern}
    (h : checkClassPattern v = .ok pattern) :
    checkClassPattern (.ofOption ClassPattern.source pattern) = .ok pattern := by
  cases v with
  | null => cases h; rfl
  | text source =>
      have h' := h
      rw [checkClassPattern, ClassPattern.ofText?] at h
      split at h
      · cases h
        exact h'
      · cases h
  | bytes source =>
      have h' := h
      rw [checkClassPattern, ClassPattern.ofBytes?] at h
      split at h
      · cases h
        exact h'
      · cases h
  | _ =>
      simp only [checkClassPattern] at h
      split at h <;> cases h

/-- Only null, texts and byte strings pass, and a text passes as what it is parsed to. -/
theorem checkClassPattern_cases {v : Value} {pattern : Option ClassPattern}
    (h : checkClassPattern v = .ok pattern) :
    (v = .null ∧ pattern = none) ∨
      (∃ source parsed, v = .text source ∧ Pattern.parse true source.toList = .ok parsed ∧
        pattern = some (.ofText source parsed)) ∨
      ∃ source, v = .bytes source ∧ pattern = some (.ofBytes source) := by
  cases v with
  | null =>
      cases h
      exact Or.inl ⟨rfl, rfl⟩
  | text source =>
      rw [checkClassPattern, ClassPattern.ofText?] at h
      split at h <;> cases h
      next parsed hparsed => exact Or.inr (Or.inl ⟨source, parsed, rfl, hparsed, rfl⟩)
  | bytes source =>
      simp only [checkClassPattern, ClassPattern.ofBytes?] at h
      split at h <;> cases h
      exact Or.inr (Or.inr ⟨source, rfl, rfl⟩)
  | _ =>
      simp only [checkClassPattern] at h
      split at h <;> cases h

/-- What has been checked passes again, unchanged. -/
theorem Draft.Reads.draft {d : Draft} {c : Criteria} (h : d.Reads c) : c.draft.Reads c where
  categories := checkCategories_names (known_of_checkCategories h.categories)
  severities := checkSeverities_severities _
  classPattern := checkClassPattern_source h.classPattern
  priorities := by
    show checkPriorities c.minPriority c.maxPriority = .ok ()
    rw [← h.minPriority, ← h.maxPriority, h.priorities]
  tags := texts_texts _
  authors := texts_texts _
  enabled := rfl
  minPriority := rfl
  maxPriority := rfl

theorem valid_default : Valid {} := ⟨{}, rfl⟩

theorem Valid.recheck {c : Criteria} (h : c.Valid) : c.draft.check = .ok c := by
  obtain ⟨d, hd⟩ := h
  exact Draft.check_eq_ok_iff.mpr (Draft.check_eq_ok_iff.mp hd).draft

end Rechecking

namespace Demand

/-- The criterion alone, where it passes its check. -/
def single (k : Demand) : Criteria := k.alone.toOption.getD {}

/-- What a step comes to: one respect is settled by the criterion alone. -/
def settle (k : Demand) (c : Criteria) : Criteria := takeFrom k.single k.respect c

theorem Sound.alone_eq {k : Demand} (h : k.Sound) : k.alone = .ok k.single := by
  obtain ⟨c, hc⟩ := h
  rw [single, hc]
  rfl

theorem Sound.reads {k : Demand} (h : k.Sound) : (k.enter {}).Reads k.single :=
  Draft.check_eq_ok_iff.mp (k.alone_eq.symm.trans h.alone_eq)

theorem Sound.amend_eq {k : Demand} (h : k.Sound) {c : Criteria} (hc : c.Valid) :
    k.amend c = .ok (k.settle c) := by
  rw [k.amend_eq, Draft.check_eq_ok_iff]
  exact (Draft.check_eq_ok_iff.mp hc.recheck).enter h.reads

/-- Alone, a criterion leaves all other respects open. -/
theorem Sound.settle_default {k : Demand} (h : k.Sound) : k.settle {} = k.single := by
  have halone := h.amend_eq valid_default
  rw [← alone, h.alone_eq] at halone
  exact (Except.ok.inj halone).symm

theorem Sound.valid_settle {k : Demand} (h : k.Sound) {c : Criteria} (hc : c.Valid) :
    (k.settle c).Valid := ⟨k.enter c.draft, by rw [← k.amend_eq, h.amend_eq hc]⟩

theorem settle_comm {k l : Demand} (h : k.respect ≠ l.respect) (c : Criteria) :
    k.settle (l.settle c) = l.settle (k.settle c) := takeFrom_comm h _ _ _

end Demand

section Chaining

/-- Criteria after a number of steps. -/
def settleAll (c : Criteria) (ks : List Demand) : Criteria := ks.foldl (fun c k => k.settle c) c

@[simp] theorem settleAll_cons (c : Criteria) (k : Demand) (ks : List Demand) :
    c.settleAll (k :: ks) = (k.settle c).settleAll ks := rfl

/-- Sound criteria never break off a chain; each of them settles its respect. -/
theorem chain_eq {c : Criteria} (hc : c.Valid) {ks : List Demand} (h : ∀ k ∈ ks, k.Sound) :
    c.chain ks = .ok (c.settleAll ks) ∧ (c.settleAll ks).Valid := by
  induction ks generalizing c with
  | nil => exact ⟨rfl, hc⟩
  | cons k rest ih =>
      obtain ⟨hk, hrest⟩ := List.forall_mem_cons.mp h
      obtain ⟨hchain, hvalid⟩ := ih (hk.valid_settle hc) hrest
      refine ⟨?_, hvalid⟩
      rw [chain, hk.amend_eq hc]
      exact hchain

theorem settleAll_perm {ks ls : List Demand} (hperm : ks.Perm ls)
    (hdistinct : (ks.map Demand.respect).Nodup) (c : Criteria) :
    c.settleAll ks = c.settleAll ls := by
  refine hperm.foldl_eq' ?_ c
  intro k hk l hl c
  by_cases hsame : k.respect = l.respect
  · rw [List.inj_on_of_nodup_map hdistinct hk hl hsame]
  · exact Demand.settle_comm (Ne.symm hsame) c

/-- Of the criteria before it, a further one undoes those in its own respect. -/
theorem takeFrom_settleAll (e : Criteria) (r : Respect) (ks : List Demand) (c : Criteria) :
    takeFrom e r (c.settleAll ks) =
      (takeFrom e r c).settleAll (ks.filter (·.respect ≠ r)) := by
  induction ks generalizing c with
  | nil => rfl
  | cons k rest ih =>
      rw [settleAll_cons, ih]
      by_cases hsame : k.respect = r
      · rw [List.filter_cons_of_neg (by simpa using hsame), Demand.settle, hsame,
          takeFrom_takeFrom]
      · rw [List.filter_cons_of_pos (by simpa using hsame), settleAll_cons, Demand.settle,
          Demand.settle, takeFrom_comm (Ne.symm hsame)]

theorem settle_settleAll (k : Demand) (ks : List Demand) (c : Criteria) :
    k.settle (c.settleAll ks) =
      c.settleAll (ks.filter (·.respect ≠ k.respect) ++ [k]) := by
  have hlast : c.settleAll (ks.filter (·.respect ≠ k.respect) ++ [k]) =
      k.settle (c.settleAll (ks.filter (·.respect ≠ k.respect))) := List.foldl_append
  rw [hlast, Demand.settle, Demand.settle, takeFrom_settleAll, takeFrom_settleAll,
    List.filter_filter]
  simp only [Bool.and_self]

/-- In its respect, a criterion among others in other respects has its way. -/
theorem settle_settleAll_of_mem {ks : List Demand} (hdistinct : (ks.map Demand.respect).Nodup)
    {k : Demand} (hk : k ∈ ks) (c : Criteria) : k.settle (c.settleAll ks) = c.settleAll ks := by
  rw [settle_settleAll]
  refine (settleAll_perm ?_ hdistinct c).symm
  have hmoved : (ks.filter (·.respect ≠ k.respect) ++ [k]).Nodup := by
    rw [List.nodup_append]
    refine ⟨hdistinct.of_map.filter _, List.nodup_singleton k, ?_⟩
    rintro l hl _ hlast rfl
    rw [List.mem_singleton.mp hlast] at hl
    simp at hl
  rw [List.perm_ext_iff_of_nodup hdistinct.of_map hmoved]
  intro l
  rw [List.mem_append, List.mem_filter, List.mem_singleton, decide_eq_true_eq]
  constructor
  · intro hl
    by_cases hsame : l.respect = k.respect
    · exact Or.inr (List.inj_on_of_nodup_map hdistinct hl hk hsame)
    · exact Or.inl ⟨hl, hsame⟩
  · rintro (⟨hl, _⟩ | rfl)
    · exact hl
    · exact hk

/-- Respects that no criterion is about stay open. -/
theorem takeFrom_default_settleAll {ks : List Demand} {r : Respect}
    (h : ∀ k ∈ ks, k.respect ≠ r) : takeFrom {} r (settleAll {} ks) = settleAll {} ks := by
  rw [takeFrom_settleAll, takeFrom_self, List.filter_eq_self.mpr]
  intro k hk
  simpa using h k hk

end Chaining

section Fields

/-- The draft that named fields make up. -/
def draftOf (data : Mapping String Value) : Draft where
  categories := (Mapping.get? data "categories").getD (.tuple [])
  severities := (Mapping.get? data "severities").getD (.tuple [])
  tags := (Mapping.get? data "tags").getD (.tuple [])
  enabled := (Mapping.get? data "enabled").getD .null
  authors := (Mapping.get? data "authors").getD (.tuple [])
  classPattern := (Mapping.get? data "class_pattern").getD .null
  minPriority := (Mapping.get? data "min_priority").getD (.int firstPriority)
  maxPriority := (Mapping.get? data "max_priority").getD (.int lastPriority)

theorem ofFields_eq {data : Mapping String Value} (h : ∀ e ∈ data, fieldNames.contains e.1) :
    ofFields data = (draftOf data).check := by
  have hknown : (data.find? fun e => !fieldNames.contains e.1) = none := by
    rw [List.find?_eq_none]
    intro e he
    simpa using h e he
  rw [ofFields, hknown]
  rfl

section

-- only the sequence that a value stands for is read
variable {v : Value} {values : List Value} (h : sequenceOf v = .ok values)
include h

theorem checkCategories_eq : checkCategories v = checkCategories (.tuple values) := by
  rw [checkCategories, checkCategories, h, sequenceOf_tuple]

theorem checkSeverities_eq : checkSeverities v = checkSeverities (.tuple values) := by
  rw [checkSeverities, checkSeverities, h, sequenceOf_tuple]

theorem texts_eq : texts v = texts (.tuple values) := by
  rw [texts, texts, h, sequenceOf_tuple]

end

theorem Demand.GivenBy.reads {k : Demand} {given data : Mapping String Value} {c : Criteria}
    (h : k.GivenBy given) (hk : k.Sound) (hdata : (draftOf data).Reads c) :
    (draftOf (given ++ data)).Reads (k.settle c) := by
  have hreads := hk.reads
  cases h with
  | categories h =>
      exact { hdata with categories := (checkCategories_eq h).trans hreads.categories }
  | severities h =>
      exact { hdata with severities := (checkSeverities_eq h).trans hreads.severities }
  | tags h => exact { hdata with tags := (texts_eq h).trans hreads.tags }
  | enabled => exact { hdata with enabled := hreads.enabled }
  | authors h => exact { hdata with authors := (texts_eq h).trans hreads.authors }
  | classPattern => exact { hdata with classPattern := hreads.classPattern }
  | priorities =>
      exact { hdata with
        priorities := hreads.priorities, minPriority := hreads.minPriority
        maxPriority := hreads.maxPriority }

theorem Demand.GivenBy.contains_fieldNames {k : Demand} {given : Mapping String Value}
    (h : k.GivenBy given) : ∀ e ∈ given, fieldNames.contains e.1 := by
  have hall : (given.all fun e => fieldNames.contains e.1) = true := by cases h <;> rfl
  exact List.all_eq_true.mp hall

theorem ofFields_given {ks : List Demand} {given : List (Mapping String Value)}
    (hgiven : List.Forall₂ Demand.GivenBy ks given) (h : ∀ k ∈ ks, k.Sound) :
    ofFields given.flatten = .ok (settleAll {} ks.reverse) := by
  have hnames : ∀ e ∈ given.flatten, fieldNames.contains e.1 := by
    clear h
    induction hgiven with
    | nil => exact List.forall_mem_nil _
    | cons hfirst _ ih =>
        intro e he
        rcases List.mem_append.mp he with he | he
        · exact hfirst.contains_fieldNames e he
        · exact ih e he
  rw [ofFields_eq hnames, Draft.check_eq_ok_iff, settleAll, List.foldl_reverse]
  clear hnames
  induction hgiven with
  | nil => exact Draft.check_eq_ok_iff.mp rfl
  | cons hfirst _ ih =>
      obtain ⟨hk, hrest⟩ := List.forall_mem_cons.mp h
      exact hfirst.reads hk (ih hrest)

end Fields

end Criteria

end PhpAudit
