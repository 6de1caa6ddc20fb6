import PhpAudit.Proofs.OptionTypes
import PhpAudit.Settings.Load

/-!
What settings are read from a value. Each group of settings has a relation between a value and the
settings it describes, with its keys, defaults and bounds, and reading succeeds exactly where the
relation holds. Everything else is reported as faults, and a value without named constants has none
that ends the reading early.
-/

namespace PhpAudit

/-- The result is whatever satisfies `P`, and an error satisfies `Q`. -/
structure Decides {ε α : Type} (r : Except ε α) (P : α → Prop) (Q : ε → Prop) : Prop where
  ok_iff : ∀ x, r = .ok x ↔ P x
  error : ∀ e, r = .error e → Q e

namespace Decides

variable {ε ε' α β : Type} {r : Except ε α} {P P' : α → Prop} {Q : ε → Prop} {Q' : ε' → Prop}

theorem of_ok (x : α) : Decides (.ok x) (· = x) Q where
  ok_iff y := by rw [Except.ok.injEq, eq_comm]
  error e h := by cases h

theorem of_error {e : ε} (hnone : ∀ x, ¬P x) (he : Q e) : Decides (.error e) P Q where
  ok_iff x := iff_of_false (by simp) (hnone x)
  error e' h := by
    cases h
    exact he

theorem congr (h : Decides r P Q) (heq : ∀ x, P x ↔ P' x) : Decides r P' Q :=
  ⟨fun x => (h.ok_iff x).trans (heq x), h.error⟩

theorem mapError (h : Decides r P Q) {g : ε → ε'} (hg : ∀ e, Q e → Q' (g e)) :
    Decides (r.mapError g) P Q' := by
  cases r with
  | ok x =>
      refine ⟨fun y => ?_, fun e he => by cases he⟩
      rw [← h.ok_iff y]
      simp [Except.mapError]
  | error e =>
      refine of_error (fun x hx => ?_) (hg e (h.error e rfl))
      cases (h.ok_iff x).mpr hx

theorem bind (h : Decides r P Q) {f : α → Except ε β} {R : α → β → Prop}
    (hf : ∀ x, P x → Decides (f x) (R x) Q) : Decides (r.bind f) (fun y => ∃ x, P x ∧ R x y) Q := by
  cases r with
  | ok x =>
      -- nothing but `x` satisfies `P`, so there is one way to go on
      have hx : P x := (h.ok_iff x).mp rfl
      refine (hf x hx).congr fun y => ⟨fun hy => ⟨x, hx, hy⟩, ?_⟩
      rintro ⟨x', hx', hy⟩
      cases (h.ok_iff x').mpr hx'
      exact hy
  | error e =>
      refine of_error ?_ (h.error e rfl)
      rintro y ⟨x, hx, _⟩
      cases (h.ok_iff x).mpr hx

theorem map (h : Decides r P Q) {f : α → β} {R : β → Prop} (hR : ∀ y, R y ↔ ∃ x, P x ∧ y = f x) :
    Decides (f <$> r) R Q := by
  have hmap : f <$> r = r.bind fun x => .ok (f x) := by cases r <;> rfl
  rw [hmap]
  exact (h.bind fun x _ => of_ok (f x)).congr fun y => (hR y).symm

end Decides

namespace Value

mutual

/-- Whether a value consists of null, truth values, numbers, texts, byte strings, sequences and
mappings alone, without a severity or a category. -/
def isPlain : Value → Bool
  | .severity _ => false
  | .category _ => false
  | .list items => arePlain items
  | .tuple items => arePlain items
  | .map entries => entriesArePlain entries
  | _ => true

def arePlain : List Value → Bool
  | [] => true
  | v :: rest => isPlain v && arePlain rest

def entriesArePlain : List (String × Value) → Bool
  | [] => true
  | (_, v) :: rest => isPlain v && entriesArePlain rest

end

theorem constantName?_of_isPlain {v : Value} (h : v.isPlain) : Coercion.constantName? v = none := by
  cases v with
  | severity _ => cases h
  | category _ => cases h
  | _ => rfl

theorem isPlain_of_get? {entries : Mapping String Value} (h : entriesArePlain entries) {key : String}
    {v : Value} (hv : Mapping.get? entries key = some v) : v.isPlain := by
  induction entries with
  | nil => cases hv
  | cons e rest ih =>
      obtain ⟨key', w⟩ := e
      rw [entriesArePlain, Bool.and_eq_true] at h
      rw [Mapping.get?] at hv
      by_cases hkey : key' = key
      · rw [if_pos hkey] at hv
        cases hv
        exact h.1
      · rw [if_neg hkey] at hv
        exact ih h.2 hv

end Value

namespace Coercion

section Faults

theorem plainInteger_ne_unordered (cs : List Char) : plainInteger cs ≠ .error .unordered := by
  unfold plainInteger
  dsimp only
  split_ifs <;> simp

theorem integerText_ne_unordered (s : String) : integerText s ≠ .error .unordered := by
  unfold integerText
  cases cleanInteger? (Text.trimWhile Text.isNumeralBlank s.toList) with
  | none => simp
  | some cs => exact plainInteger_ne_unordered cs

theorem integerFloat_ne_unordered (x : Float) : integerFloat x ≠ .error .unordered := by
  unfold integerFloat
  dsimp only
  cases (Binary.ofFloat x).truncate? with
  | none => simp
  | some n =>
      by_cases hfraction : (!(Binary.ofFloat x).isWhole) = true
      · simp [hfraction]
      · simp only [hfraction]
        split_ifs <;> simp

theorem numberText_ne_unordered (s : String) : numberText s ≠ .error .unordered := by
  unfold numberText
  cases Numeral.plainFloat? (Text.trimWhile Text.isNumeralBlank s.toList) with
  | some x => simp
  | none => cases (withoutUnderscores? s.toList).bind Numeral.plainFloat? <;> simp

theorem truthText_ne_unordered (s : String) : truthText s ≠ .error .unordered := by
  unfold truthText
  dsimp only
  split_ifs <;> simp

theorem truthInteger_ne_unordered (n : Int) : truthInteger n ≠ .error .unordered := by
  unfold truthInteger
  split_ifs <;> simp

theorem viaText_ne_unordered {α : Type} {read : String → Except FaultKind α}
    {unreadable mistyped : FaultKind} (hread : ∀ s, read s ≠ .error .unordered)
    (hunreadable : unreadable ≠ .unordered) (hmistyped : mistyped ≠ .unordered) (v : Value) :
    viaText read unreadable mistyped v ≠ .error .unordered := by
  unfold viaText
  cases isText v with
  | false => simpa using hmistyped
  | true =>
      cases textOf? v with
      | none => simpa using hunreadable
      | some s => simpa using hread s

end Faults

variable (v : Value)

/-- Reading one value finds at most a fault of its own. -/
theorem decides_of_ne_unordered {α : Type} {r : Except FaultKind α} {P : α → Prop}
    (hok : ∀ x, r = .ok x ↔ P x) (hfault : r ≠ .error .unordered) : Decides r P (· ≠ .unordered) :=
  ⟨hok, fun _ he hkind => hfault (hkind ▸ he)⟩

theorem integer_decides : Decides (integer v) (IntegerOf v) (· ≠ .unordered) := by
  refine decides_of_ne_unordered (fun _ => integer_eq_ok_iff) ?_
  cases hnum : v.num? with
  | none =>
      rw [(eq_viaText_of_num? hnum).1]
      exact viaText_ne_unordered integerText_ne_unordered (by simp) (by simp) v
  | some k =>
      cases v with
      | bool b => simp [integer]
      | int n => simp [integer]
      | float x => exact integerFloat_ne_unordered x
      | _ => cases hnum

theorem number_decides : Decides (number v) (NumberOf v) (· ≠ .unordered) := by
  refine decides_of_ne_unordered (fun _ => number_eq_ok_iff) ?_
  cases hnum : v.num? with
  | none =>
      rw [(eq_viaText_of_num? hnum).2.1]
      exact viaText_ne_unordered numberText_ne_unordered (by simp) (by simp) v
  | some k =>
      cases v with
      | bool b => simp [number]
      | int n => cases hn : Binary.ofInt? n <;> simp [number, hn]
      | float x => simp [number]
      | _ => cases hnum

theorem truth_decides : Decides (truth v) (TruthOf v) (· ≠ .unordered) := by
  refine decides_of_ne_unordered (fun _ => truth_eq_ok_iff) ?_
  cases hnum : v.num? with
  | none =>
      rw [(eq_viaText_of_num? hnum).2.2]
      exact viaText_ne_unordered truthText_ne_unordered (by simp) (by simp) v
  | some k =>
      cases v with
      | bool b => simp [truth]
      | int n => exact truthInteger_ne_unordered n
      | float x =>
          rw [truth]
          cases integerFloat x with
          | ok n => exact truthInteger_ne_unordered n
          | error kind => simp
      | _ => cases hnum

theorem text_decides : Decides (text v) (TextOf v) (· ≠ .unordered) := by
  refine decides_of_ne_unordered (fun _ => text_eq_ok_iff) ?_
  cases v with
  | bytes b => cases hb : Utf8.decode? b <;> simp [text, hb]
  | _ => simp [text, constantName?]

theorem list_decides :
    Decides (list v) (fun items => v = .list items ∨ v = .tuple items) (· ≠ .unordered) := by
  refine decides_of_ne_unordered (fun _ => list_eq_ok_iff) ?_
  cases v <;> simp [list]

theorem mapping_decides : Decides (mapping v) (v = .map ·) (· ≠ .unordered) := by
  refine decides_of_ne_unordered (fun _ => mapping_eq_ok_iff) ?_
  cases v <;> simp [mapping]

end Coercion

def Failure.IsConfiguration (f : Failure) : Prop := ∃ message, f = .configuration message

/-- No fault is a comparison that cannot be made. -/
def Orderly (faults : List Fault) : Prop := ∀ fault ∈ faults, fault.kind ≠ .unordered

namespace Checked

variable {α β : Type} {P : α → Prop} {R : β → Prop}

/-- What is read is whatever satisfies `P`; anything else is a matter of orderly faults. -/
abbrev Reads (r : Checked α) (P : α → Prop) : Prop := Decides r P Orderly

theorem orderly_single {place : List Place} {kind : FaultKind} (h : kind ≠ .unordered) :
    Orderly [⟨place, kind⟩] := by
  intro fault hfault
  cases List.mem_singleton.mp hfault
  exact h

theorem reads_single {r : Except FaultKind α} (h : Decides r P (· ≠ .unordered)) :
    Reads (single r) P :=
  h.mapError fun _ => orderly_single

theorem reads_under {r : Checked α} (step : Place) (h : Reads r P) : Reads (under step r) P := by
  refine h.mapError fun faults hfaults fault hfault => ?_
  obtain ⟨inner, hinner, rfl⟩ := List.mem_map.mp hfault
  exact hfaults inner hinner

theorem orderly_faults {r : Checked α} (h : Reads r P) : Orderly (faults r) := by
  cases r with
  | ok x => exact List.forall_mem_nil _
  | error fs => exact h.error fs rfl

theorem both_eq_ok_iff {a : Checked α} {b : Checked β} {z : α × β} :
    both a b = .ok z ↔ a = .ok z.1 ∧ b = .ok z.2 := by
  obtain ⟨x, y⟩ := z
  cases a <;> cases b <;> simp [both]

theorem faults_of_both {a : Checked α} {b : Checked β} {fs : List Fault}
    (h : both a b = .error fs) : fs = faults a ++ faults b := by
  cases a <;> cases b <;> cases h <;> rfl

theorem reads_both {a : Checked α} {b : Checked β} (ha : Reads a P) (hb : Reads b R) :
    Reads (both a b) fun z => P z.1 ∧ R z.2 where
  ok_iff z := by rw [both_eq_ok_iff, ha.ok_iff, hb.ok_iff]
  error fs h := by
    rw [faults_of_both h]
    intro fault hfault
    rcases List.mem_append.mp hfault with hfault | hfault
    · exact orderly_faults ha fault hfault
    · exact orderly_faults hb fault hfault

theorem reads_ensure {r : Checked α} {ok : α → Bool} {kind : FaultKind} (hkind : kind ≠ .unordered)
    (h : Reads r P) : Reads (ensure ok kind r) fun x => P x ∧ ok x := by
  have htest (x : α) : Reads (if ok x then .ok x else .error [⟨[], kind⟩]) fun y => y = x ∧ ok y := by
    cases hx : ok x with
    | true =>
        refine (Decides.of_ok x).congr fun y => ⟨?_, And.left⟩
        rintro rfl
        exact ⟨rfl, hx⟩
    | false =>
        refine Decides.of_error ?_ (orderly_single hkind)
        rintro y ⟨rfl, hy⟩
        rw [hx] at hy
        cases hy
  refine (h.bind fun x _ => htest x).congr fun y => ?_
  constructor
  · rintro ⟨x, hx, rfl, hy⟩
    exact ⟨hx, hy⟩
  · rintro ⟨hx, hy⟩
    exact ⟨y, hx, rfl, hy⟩

/-- Null for an absent setting, otherwise what the value stands for. -/
def OptionalOf (Of : Value → α → Prop) (v : Value) : Option α → Prop
  | none => v = .null
  | some x => v ≠ .null ∧ Of v x

theorem OptionalOf.ensures {Of : Value → α → Prop} {v : Value} {x : Option α}
    (h : OptionalOf Of v x) {P : α → Prop} (hgiven : ∀ y, Of v y → P y) : ∀ y ∈ x, P y := by
  rintro y rfl
  exact hgiven y h.2

theorem reads_optional {read : Value → Checked α} {Of : Value → α → Prop} {v : Value}
    (h : Reads (read v) (Of v)) : Reads (optional read v) (OptionalOf Of v) := by
  by_cases hnull : v = .null
  · subst hnull
    refine (Decides.of_ok none).congr fun x => ?_
    cases x <;> simp [OptionalOf]
  · have hread : optional read v = some <$> read v := by
      cases v with
      | null => exact absurd rfl hnull
      | _ => rfl
    rw [hread]
    refine h.map fun x => ?_
    cases x <;> simp [OptionalOf, hnull]

theorem reads_itemsFrom {read : Value → Checked α} {Of : Value → α → Prop} {items : List Value}
    (h : ∀ v ∈ items, Reads (read v) (Of v)) (index : Nat) :
    Reads (itemsFrom read index items) (List.Forall₂ Of items) := by
  induction items generalizing index with
  | nil => exact (Decides.of_ok []).congr fun xs => List.forall₂_nil_left_iff.symm
  | cons v rest ih =>
      have hfirst := reads_under (.index index) (h v List.mem_cons_self)
      have hrest := ih (fun w hw => h w (List.mem_cons_of_mem v hw)) (index + 1)
      refine (reads_both hfirst hrest).map fun xs => ?_
      rw [List.forall₂_cons_left_iff]
      constructor
      · rintro ⟨x, others, hx, hothers, rfl⟩
        exact ⟨(x, others), ⟨hx, hothers⟩, rfl⟩
      · rintro ⟨⟨x, others⟩, ⟨hx, hothers⟩, rfl⟩
        exact ⟨x, others, hx, hothers, rfl⟩

/-- An entry with the key kept. -/
def EntryOf (Of : Value → α → Prop) (e : String × Value) (e' : String × α) : Prop :=
  e'.1 = e.1 ∧ Of e.2 e'.2

theorem reads_entriesOf {read : Value → Checked α} {Of : Value → α → Prop}
    (h : ∀ v, Reads (read v) (Of v)) (entries : Mapping String Value) :
    Reads (entriesOf read entries) (List.Forall₂ (EntryOf Of) entries) := by
  induction entries with
  | nil => exact (Decides.of_ok []).congr fun es => List.forall₂_nil_left_iff.symm
  | cons e rest ih =>
      obtain ⟨key, v⟩ := e
      refine (reads_both (reads_under (.key key) (h v)) ih).map fun es => ?_
      rw [List.forall₂_cons_left_iff]
      constructor
      · rintro ⟨⟨key', x⟩, others, ⟨rfl, hx⟩, hothers, rfl⟩
        exact ⟨(x, others), ⟨hx, hothers⟩, rfl⟩
      · rintro ⟨⟨x, others⟩, ⟨hx, hothers⟩, rfl⟩
        exact ⟨(key, x), others, ⟨rfl, hx⟩, hothers, rfl⟩

end Checked

namespace Settings

open Checked Coercion

/-- What the value of a key stands for, or the default where the mapping has no such key. -/
def FieldOf {α : Type} (m : Mapping String Value) (name : String) (Of : Value → α → Prop)
    (default x : α) : Prop :=
  match Mapping.get? m name with
  | some v => Of v x
  | none => x = default

/-- What holds of the default and of everything that can be given holds of a field. -/
theorem FieldOf.ensures {α : Type} {m : Mapping String Value} {name : String}
    {Of : Value → α → Prop} {default x : α} (h : FieldOf m name Of default x)
    (P : α → Prop) (hdefault : P default) (hgiven : ∀ v, Of v x → P x) : P x := by
  unfold FieldOf at h
  cases hv : Mapping.get? m name with
  | none =>
      rw [hv] at h
      exact h ▸ hdefault
  | some v =>
      rw [hv] at h
      exact hgiven v h

def IntegerFrom (low : Int) (v : Value) (n : Int) : Prop := IntegerOf v n ∧ low ≤ n

def IntegerWithin (low high : Int) (v : Value) (n : Int) : Prop := IntegerFrom low v n ∧ n ≤ high

def PositiveOf (v : Value) (x : Float) : Prop := NumberOf v x ∧ 0.0 < x

/-- A sequence of what stands for texts, and these texts in its order. -/
def TextsOf (v : Value) (names : List String) : Prop :=
  ∃ items, (v = .list items ∨ v = .tuple items) ∧ List.Forall₂ TextOf items names

/-- Mappings by key, as they are. -/
def OptionsOf (v : Value) (options : Mapping String (Mapping String Value)) : Prop :=
  ∃ entries, v = .map entries ∧ List.Forall₂ (EntryOf fun w m => w = .map m) entries options

/-- A mapping with these keys and no others is described by `Of`. -/
def GroupOf {α : Type} (names : List String) (Of : Mapping String Value → α → Prop) (v : Value)
    (x : α) : Prop :=
  ∃ m, v = .map m ∧ Of m x ∧ ∀ e ∈ m, e.1 ∈ names

structure CacheOf (m : Mapping String Value) (s : CacheSettings) : Prop where
  maxSize : FieldOf m "max_size" (IntegerFrom 1) 100 s.maxSize
  ttlSeconds : FieldOf m "ttl_seconds" PositiveOf 300.0 s.ttlSeconds

def cacheKeys : List String := ["max_size", "ttl_seconds"]

structure LimitsOf (m : Mapping String Value) (s : LimitSettings) : Prop where
  slowCheckSeconds : FieldOf m "slow_check_seconds" PositiveOf 1.0 s.slowCheckSeconds
  maxFileSeconds : FieldOf m "max_file_seconds" (OptionalOf PositiveOf) none s.maxFileSeconds
  maxFileBytes :
    FieldOf m "max_file_bytes" (OptionalOf (IntegerFrom 1)) (some 5242880) s.maxFileBytes

def limitKeys : List String := ["slow_check_seconds", "max_file_seconds", "max_file_bytes"]

structure EngineOf (m : Mapping String Value) (s : EngineSettings) : Prop where
  cache : FieldOf m "cache" (GroupOf cacheKeys CacheOf) {} s.cache
  limits : FieldOf m "performance" (GroupOf limitKeys LimitsOf) {} s.limits
  maxWorkers : FieldOf m "max_workers" (IntegerFrom 1) 1 s.maxWorkers

def engineKeys : List String := ["cache", "performance", "max_workers"]

structure FilterOf (m : Mapping String Value) (s : FilterSettings) : Prop where
  categories : FieldOf m "categories" TextsOf [] s.categories
  severities : FieldOf m "severities" TextsOf [] s.severities
  tags : FieldOf m "tags" TextsOf [] s.tags
  enabled : FieldOf m "enabled" (OptionalOf TruthOf) none s.enabled
  authors : FieldOf m "authors" TextsOf [] s.authors
  classPattern : FieldOf m "class_pattern" (OptionalOf TextOf) none s.classPattern
  minPriority : FieldOf m "min_priority" (IntegerWithin 1 10) 1 s.minPriority
  maxPriority : FieldOf m "max_priority" (IntegerWithin 1 10) 10 s.maxPriority

def filterKeys : List String :=
  ["categories", "severities", "tags", "enabled", "authors", "class_pattern", "min_priority",
    "max_priority"]

/-- Settings of a run; other keys than theirs are kept. -/
structure RunOf (m : Mapping String Value) (s : RunSettings) : Prop where
  scanPaths : FieldOf m "scan_paths" TextsOf [] s.scanPaths
  rules : FieldOf m "rules" TextsOf [] s.rules
  ruleOptions : FieldOf m "rule_options" OptionsOf [] s.ruleOptions
  engine : FieldOf m "engine" (GroupOf engineKeys EngineOf) {} s.engine
  filter : FieldOf m "filter" (OptionalOf (GroupOf filterKeys FilterOf)) none s.filter
  extra : s.extra = m.filter fun e => !runKeys.contains e.1

/-- A configuration is a mapping, and describes the settings of a run. -/
def Describes (config : Value) (s : RunSettings) : Prop := ∃ m, config = .map m ∧ RunOf m s

section Reading

variable {v : Value} {m : Mapping String Value}

theorem integerFrom_reads (h : v.isPlain) (low : Int) :
    Reads (integerFrom low v) (IntegerFrom low v) := by
  -- the comparison with the bound fails for named constants only
  have hbounded : boundedInteger v = integer v := by
    simp [boundedInteger, Value.constantName?_of_isPlain h]
  rw [integerFrom, hbounded]
  refine (reads_ensure (by simp) (reads_single (integer_decides v))).congr fun n => ?_
  rw [IntegerFrom, decide_eq_true_iff]

theorem integerWithin_reads (h : v.isPlain) (low high : Int) :
    Reads (integerWithin low high v) (IntegerWithin low high v) := by
  refine (reads_ensure (by simp) (integerFrom_reads h low)).congr fun n => ?_
  rw [IntegerWithin, decide_eq_true_iff]

theorem positiveNumber_reads (v : Value) : Reads (positiveNumber v) (PositiveOf v) := by
  refine (reads_ensure (by simp) (reads_single (number_decides v))).congr fun x => ?_
  rw [PositiveOf, decide_eq_true_iff]

theorem text_reads (v : Value) : Reads (text v) (TextOf v) := reads_single (text_decides v)

theorem truth_reads (v : Value) : Reads (truth v) (TruthOf v) := reads_single (truth_decides v)

theorem anyMapping_reads (v : Value) : Reads (anyMapping v) (v = .map ·) :=
  reads_single (mapping_decides v)

theorem texts_reads (v : Value) : Reads (texts v) (TextsOf v) :=
  (reads_single (list_decides v)).bind fun _ _ =>
    reads_itemsFrom (fun w _ => text_reads w) 0

theorem field_reads {α : Type} {read : Value → Checked α} {Of : Value → α → Prop}
    (hm : Value.entriesArePlain m) (name : String) (default : α)
    (h : ∀ v : Value, v.isPlain → Reads (read v) (Of v)) :
    Reads (field m name read default) (FieldOf m name Of default) := by
  unfold field FieldOf
  cases hv : Mapping.get? m name with
  | none => exact Decides.of_ok default
  | some v => exact reads_under (.key name) (h v (Value.isPlain_of_get? hm hv))

theorem onlyKeys_reads (m : Mapping String Value) (names : List String) :
    Reads (onlyKeys m names) fun _ => ∀ e ∈ m, e.1 ∈ names := by
  have hnil : (m.filter fun e => !names.contains e.1) = [] ↔ ∀ e ∈ m, e.1 ∈ names := by
    simp [List.filter_eq_nil_iff]
  unfold onlyKeys
  cases hextra : m.filter fun e => !names.contains e.1 with
  | nil => exact (Decides.of_ok ()).congr fun _ => iff_of_true rfl (hnil.mp hextra)
  | cons e rest =>
      refine Decides.of_error (fun _ hall => ?_) fun fault hfault => ?_
      · rw [hnil.mpr hall] at hextra
        cases hextra
      · obtain ⟨entry, _, rfl⟩ := List.mem_map.mp hfault
        simp

theorem group_reads (title : String) (v : Value) : Reads (group title v) (v = .map ·) := by
  cases v with
  | map entries => exact (Decides.of_ok entries).congr fun m => by rw [Value.map.injEq, eq_comm]
  | _ => exact Decides.of_error (by simp) (orderly_single (by simp))

theorem group_bind_reads {α : Type} {title : String} {names : List String}
    {Of : Mapping String Value → α → Prop} {read : Mapping String Value → Checked α}
    (hv : v.isPlain) (h : ∀ m, Value.entriesArePlain m →
      Reads (read m) fun x => Of m x ∧ ∀ e ∈ m, e.1 ∈ names) :
    Reads ((group title v).bind read) (GroupOf names Of v) := by
  refine (group_reads title v).bind fun m hm => ?_
  subst hm
  exact h m hv

theorem cache_reads (h : v.isPlain) : Reads (cache v) (GroupOf cacheKeys CacheOf v) := by
  refine group_bind_reads h fun m hm => ?_
  have hsize := field_reads hm "max_size" 100 fun _ hv => integerFrom_reads hv 1
  have hlifetime := field_reads hm "ttl_seconds" 300.0 fun w _ => positiveNumber_reads w
  refine (reads_both (reads_both hsize hlifetime) (onlyKeys_reads m cacheKeys)).map
    fun s => ⟨?_, ?_⟩
  · rintro ⟨hs, hkeys⟩
    exact ⟨((s.maxSize, s.ttlSeconds), ()), ⟨⟨hs.maxSize, hs.ttlSeconds⟩, hkeys⟩, rfl⟩
  · rintro ⟨_, ⟨⟨hsize, hlifetime⟩, hkeys⟩, rfl⟩
    exact ⟨⟨hsize, hlifetime⟩, hkeys⟩

theorem limits_reads (h : v.isPlain) : Reads (limits v) (GroupOf limitKeys LimitsOf v) := by
  refine group_bind_reads h fun m hm => ?_
  have hslow := field_reads hm "slow_check_seconds" 1.0 fun w _ => positiveNumber_reads w
  have hseconds := field_reads hm "max_file_seconds" none
    fun w _ => reads_optional (positiveNumber_reads w)
  have hbytes := field_reads hm "max_file_bytes" (some 5242880)
    fun _ hv => reads_optional (integerFrom_reads hv 1)
  refine (reads_both (reads_both (reads_both hslow hseconds) hbytes)
    (onlyKeys_reads m limitKeys)).map fun s => ⟨?_, ?_⟩
  · rintro ⟨hs, hkeys⟩
    exact ⟨(((s.slowCheckSeconds, s.maxFileSeconds), s.maxFileBytes), ()),
      ⟨⟨⟨hs.slowCheckSeconds, hs.maxFileSeconds⟩, hs.maxFileBytes⟩, hkeys⟩, rfl⟩
  · rintro ⟨_, ⟨⟨⟨hslow, hseconds⟩, hbytes⟩, hkeys⟩, rfl⟩
    exact ⟨⟨hslow, hseconds, hbytes⟩, hkeys⟩

theorem engine_reads (h : v.isPlain) : Reads (engine v) (GroupOf engineKeys EngineOf v) := by
  refine group_bind_reads h fun m hm => ?_
  have hcache := field_reads hm "cache" {} fun _ hv => cache_reads hv
  have hlimits := field_reads hm "performance" {} fun _ hv => limits_reads hv
  have hworkers := field_reads hm "max_workers" 1 fun _ hv => integerFrom_reads hv 1
  refine (reads_both (reads_both (reads_both hcache hlimits) hworkers)
    (onlyKeys_reads m engineKeys)).map fun s => ⟨?_, ?_⟩
  · rintro ⟨hs, hkeys⟩
    exact ⟨(((s.cache, s.limits), s.maxWorkers), ()),
      ⟨⟨⟨hs.cache, hs.limits⟩, hs.maxWorkers⟩, hkeys⟩, rfl⟩
  · rintro ⟨_, ⟨⟨⟨hcache, hlimits⟩, hworkers⟩, hkeys⟩, rfl⟩
    exact ⟨⟨hcache, hlimits, hworkers⟩, hkeys⟩

theorem filter_reads (h : v.isPlain) : Reads (filter v) (GroupOf filterKeys FilterOf v) := by
  refine group_bind_reads h fun m hm => ?_
  have htexts (name : String) := field_reads hm name [] fun w _ => texts_reads w
  have henabled := field_reads hm "enabled" none fun w _ => reads_optional (truth_reads w)
  have hpattern := field_reads hm "class_pattern" none fun w _ => reads_optional (text_reads w)
  have hpriority (name : String) (default : Int) :=
    field_reads hm name default fun _ hv => integerWithin_reads hv 1 10
  have hlists := reads_both (reads_both (htexts "categories") (htexts "severities")) (htexts "tags")
  have hpeople := reads_both (reads_both henabled (htexts "authors")) hpattern
  have hrange := reads_both (hpriority "min_priority" 1) (hpriority "max_priority" 10)
  refine (reads_both (reads_both (reads_both hlists hpeople) hrange)
    (onlyKeys_reads m filterKeys)).map fun s => ⟨?_, ?_⟩
  · rintro ⟨hs, hkeys⟩
    exact ⟨(((((s.categories, s.severities), s.tags), (s.enabled, s.authors), s.classPattern),
        s.minPriority, s.maxPriority), ()),
      ⟨⟨⟨⟨⟨hs.categories, hs.severities⟩, hs.tags⟩, ⟨hs.enabled, hs.authors⟩, hs.classPattern⟩,
        hs.minPriority, hs.maxPriority⟩, hkeys⟩, rfl⟩
  · rintro ⟨_, ⟨⟨⟨⟨⟨hcategories, hseverities⟩, htags⟩, ⟨henabled, hauthors⟩, hpattern⟩, hmin, hmax⟩,
      hkeys⟩, rfl⟩
    exact ⟨⟨hcategories, hseverities, htags, henabled, hauthors, hpattern, hmin, hmax⟩, hkeys⟩

theorem run_reads (hm : Value.entriesArePlain m) : Reads (run m) (RunOf m) := by
  have hgiven (w : Value) : Reads ((anyMapping w).bind (entriesOf anyMapping)) (OptionsOf w) :=
    (anyMapping_reads w).bind fun entries _ => reads_entriesOf anyMapping_reads entries
  have htexts (name : String) := field_reads hm name [] fun w _ => texts_reads w
  have hoptions := field_reads hm "rule_options" [] fun w _ => hgiven w
  have hengine := field_reads hm "engine" {} fun _ hv => engine_reads hv
  have hfilter := field_reads hm "filter" none fun _ hv => reads_optional (filter_reads hv)
  refine (reads_both (reads_both (reads_both (reads_both (htexts "scan_paths") (htexts "rules"))
    hoptions) hengine) hfilter).map fun s => ⟨fun hs => ?_, ?_⟩
  · obtain ⟨scanPaths, rules, ruleOptions, engine, filter, extra⟩ := s
    cases hs.extra
    exact ⟨((((scanPaths, rules), ruleOptions), engine), filter),
      ⟨⟨⟨⟨hs.scanPaths, hs.rules⟩, hs.ruleOptions⟩, hs.engine⟩, hs.filter⟩, rfl⟩
  · rintro ⟨_, ⟨⟨⟨⟨hpaths, hrules⟩, hoptions⟩, hengine⟩, hfilter⟩, rfl⟩
    exact ⟨hpaths, hrules, hoptions, hengine, hfilter, rfl⟩

theorem failure_of_orderly (report : List Fault → Failure) {faults : List Fault}
    (h : Orderly faults) : failure report faults = report faults := by
  have hnone : faults.any (·.kind == .unordered) = false := by
    rw [List.any_eq_false]
    exact fun fault hfault => by simpa using h fault hfault
  simp [failure, hnone]

/-- A configuration without named constants is read as the settings it describes, and is refused
as a configuration if it describes none. -/
theorem load_decides {config : Value} (h : config.isPlain) :
    Decides (load config) (Describes config) Failure.IsConfiguration := by
  cases config with
  | map m =>
      have hrun : Reads (run m) (Describes (.map m)) :=
        (run_reads h).congr fun s => by simp [Describes]
      refine hrun.mapError fun faults hfaults => ?_
      rw [failure_of_orderly _ hfaults]
      exact ⟨_, rfl⟩
  | _ => exact Decides.of_error (by simp [Describes]) ⟨_, rfl⟩

end Reading

end Settings

end PhpAudit
