import PhpAudit.Incident

/-!
What it takes to file something. A report tells what failed, where and under which rule, and each of
these has to be put into words first: the text of the failure, the file, a line that is a number. The
first of them that cannot be told is what the filing fails with, and then nothing is filed. In all
other cases there is a report, made in the same way whatever it is about.
-/

namespace PhpAudit

/-- What comes first in a computation that succeeds has succeeded. -/
theorem exists_ok_of_bind {α β : Type} {x : Except Failure α} {f : α → Except Failure β} {b : β}
    (h : x >>= f = .ok b) : ∃ a, x = .ok a ∧ f a = .ok b := by
  cases x with
  | error e => cases h
  | ok a => exact ⟨a, rfl, h⟩

theorem exists_ok_of_map {α β : Type} {f : α → β} {x : Except Failure α} {b : β}
    (h : f <$> x = .ok b) : ∃ a, x = .ok a ∧ f a = b := by
  cases x with
  | error e => cases h
  | ok a => exact ⟨a, rfl, Except.ok.inj h⟩

theorem exists_ok_map_iff {α β : Type} (f : α → β) {x : Except Failure α} :
    (∃ b, f <$> x = .ok b) ↔ ∃ a, x = .ok a := by
  cases x with
  | error e => exact ⟨(by rintro ⟨_, ⟨⟩⟩), (by rintro ⟨_, ⟨⟩⟩)⟩
  | ok a => exact ⟨fun _ => ⟨a, rfl⟩, fun _ => ⟨f a, rfl⟩⟩

/-- A list of computations gives results if each of them does. -/
theorem exists_mapM_iff {α β : Type} (f : α → Except Failure β) (xs : List α) :
    (∃ ys, xs.mapM f = .ok ys) ↔ ∀ x ∈ xs, ∃ y, f x = .ok y := by
  induction xs with
  | nil => exact ⟨fun _ => by simp, fun _ => ⟨[], rfl⟩⟩
  | cons x rest ih =>
      rw [List.forall_mem_cons, ← ih, List.mapM_cons]
      cases f x with
      | error e => exact ⟨(by rintro ⟨_, ⟨⟩⟩), (by rintro ⟨⟨_, ⟨⟩⟩, _⟩)⟩
      | ok y =>
          simp only [Except.ok.injEq, exists_eq', true_and]
          cases rest.mapM f with
          | error e => exact ⟨(by rintro ⟨_, ⟨⟩⟩), (by rintro ⟨_, ⟨⟩⟩)⟩
          | ok ys => exact ⟨fun _ => ⟨ys, rfl⟩, fun _ => ⟨y :: ys, rfl⟩⟩

theorem mapM_eq_ok {α β : Type} {f : α → Except Failure β} {g : α → β} {xs : List α}
    (h : ∀ x ∈ xs, f x = .ok (g x)) : xs.mapM f = .ok (xs.map g) := by
  induction xs with
  | nil => rfl
  | cons x rest ih =>
      obtain ⟨hx, hrest⟩ := List.forall_mem_cons.mp h
      rw [List.mapM_cons, hx, ih hrest]
      rfl

/-- What is read from what was written is what was there before. -/
theorem mapM_map {α β : Type} {f : α → Except Failure β} {g : β → α} (h : ∀ y, f (g y) = .ok y)
    (ys : List β) : (ys.map g).mapM f = .ok ys := by
  have hall : ∀ y ∈ ys, (f ∘ g) y = .ok (id y) := fun y _ => h y
  rw [List.mapM_map, mapM_eq_ok hall, List.map_id]

namespace Failure

/-- The text of the failure can be made. -/
def HasText (f : Failure) : Prop := ∃ text, f.text = .ok text

theorem of?_eq_none_iff {α : Type} (x : Except Failure α) : of? x = none ↔ ∃ a, x = .ok a := by
  cases x <;> simp [of?]

theorem of?_eq_some_iff {α : Type} (x : Except Failure α) (f : Failure) :
    of? x = some f ↔ x = .error f := by
  cases x <;> simp [of?]

@[simp] theorem of?_map {α β : Type} (g : α → β) (x : Except Failure α) : of? (g <$> x) = of? x := by
  cases x <;> rfl

end Failure

namespace Value

@[simp] theorem written_text (s : String) : (Value.text s).written = .ok s := rfl

@[simp] theorem of?_written (v : Value) : Failure.of? v.written = v.unwritable? := by
  unfold written
  cases v.unwritable? <;> rfl

/-- Only so many digits are written. -/
theorem unwritable?_int_eq_none_iff (n : Int) :
    (Value.int n).unwritable? = none ↔ n.natAbs < Nat.pow 10 Numeral.maxDecimalDigits := by
  have hdigits : 0 < Numeral.maxDecimalDigits := by decide
  simp only [unwritable?, unquotable?, Nat.length_toDigits_le_iff (by decide : 1 < 10) hdigits]
  split <;> simp_all [Nat.pow_eq]

theorem eq_tooManyDigits {n : Int} {f : Failure} (h : (Value.int n).unwritable? = some f) :
    f = .tooManyDigits := by
  simp only [unwritable?, unquotable?] at h
  split at h <;> cases h
  rfl

/-- What a line fails with when it is recorded. Only what is neither empty nor a number does. -/
def unnumbered? (v : Value) : Option Failure :=
  if v.isEmpty ∨ v.num?.isSome then none else some (.unordered ">=" v (.int 1))

@[simp] theorem of?_lineNumber (v : Value) :
    Failure.of? (v.orElse (.int 1)).lineNumber = v.unnumbered? := by
  unfold unnumbered? orElse
  cases hempty : v.isEmpty with
  | true => rfl
  | false => cases hnum : v.num? <;> simp [lineNumber, hempty, hnum, Failure.of?]

end Value

/-- Something that has to be told in a report. -/
inductive Need where
  | text (f : Failure)
  | value (v : Value)
  | line (v : Value)
  | threshold (v : Value)

/-- Why it cannot be told, if it cannot be. -/
def Need.obstacle? : Need → Option Failure
  | .text f => Failure.of? f.text
  | .value v => v.unwritable?
  | .line v => v.unnumbered?
  | .threshold v => Failure.of? v.generalText

namespace Report

/-- At any time the report is made once the needs are met, and fails at the first that is not. -/
def Tells (needs : List Need) (topic : Topic) (report : Float → Except Failure Report) : Prop :=
  (∃ f, needs.findSome? Need.obstacle? = some f ∧ ∀ now, report now = .error f) ∨
    (needs.findSome? Need.obstacle? = none ∧
      ∃ file rule line message fix shownMessage shownFix, ∀ now,
        report now = .ok (.make topic file rule line now message fix shownMessage shownFix))

section

variable {needs : List Need} {topic : Topic}

/-- One need more: it is met by the result of a computation that comes first. -/
theorem Tells.bind {α : Type} {need : Need} {x : Except Failure α}
    {report : α → Float → Except Failure Report} (hneed : need.obstacle? = Failure.of? x)
    (hrest : ∀ a, Tells needs topic (report a)) :
    Tells (need :: needs) topic fun now => x >>= fun a => report a now := by
  unfold Tells
  rw [List.findSome?_cons, hneed]
  cases x with
  | error f => exact Or.inl ⟨f, rfl, fun _ => rfl⟩
  | ok a => exact hrest a

theorem Tells.exists_report {report : Float → Except Failure Report}
    (h : Tells needs topic report) (hmet : needs.findSome? Need.obstacle? = none) (now : Float) :
    ∃ r, report now = .ok r := by
  rcases h with ⟨f, hf, _⟩ | ⟨_, _, _, _, _, _, _, _, hreport⟩
  · cases hmet.symm.trans hf
  · exact ⟨_, hreport now⟩

theorem Tells.of?_report {report : Float → Except Failure Report} (h : Tells needs topic report)
    (now : Float) : Failure.of? (report now) = needs.findSome? Need.obstacle? := by
  rcases h with ⟨f, hf, hreport⟩ | ⟨hnone, _, _, _, _, _, _, _, hreport⟩
  · rw [hf, hreport]
    rfl
  · rw [hnone, hreport]
    rfl

theorem tells_nil {report : Float → Report}
    (h : ∃ file rule line message fix shownMessage shownFix, ∀ now,
      report now = .make topic file rule line now message fix shownMessage shownFix) :
    Tells [] topic fun now => .ok (report now) := by
  obtain ⟨file, rule, line, message, fix, shownMessage, shownFix, hreport⟩ := h
  exact Or.inr ⟨rfl, file, rule, line, message, fix, shownMessage, shownFix,
    fun now => congrArg Except.ok (hreport now)⟩

end

variable (file : Value) (f : Failure) (rule : Value)

/-- The last need of most reports is their file. -/
theorem tells_about {topic : Topic} (file : Value) {report : Float → Report}
    (h : ∃ file rule line message fix shownMessage shownFix, ∀ now,
      report now = .make topic file rule line now message fix shownMessage shownFix) :
    Tells [.value file] topic fun now => about file (report now) := by
  have hbind : (fun now => about file (report now)) =
      fun now => file.written >>= fun _ => .ok (report now) := by
    funext now
    rw [about]
    cases file.written <;> rfl
  rw [hbind]
  exact .bind file.of?_written.symm fun _ => tells_nil h

/-- Before that many describe a failure. -/
theorem tells_described {topic : Topic} {report : String → Float → Report}
    (h : ∀ described, ∃ file rule line message fix shownMessage shownFix, ∀ now,
      report described now = .make topic file rule line now message fix shownMessage shownFix) :
    Tells [.text f, .value file] topic fun now =>
      f.describe >>= fun described => about file (report described now) :=
  .bind (Failure.of?_map _ f.text).symm fun described => tells_about file (h described)

theorem tells_parsing : Tells [.text f, .value file, .line f.line] .parsing (parsing file f rule) :=
  .bind rfl fun _ => .bind file.of?_written.symm fun _ => .bind f.line.of?_lineNumber.symm fun _ =>
    tells_nil ⟨_, _, _, _, _, _, _, fun _ => rfl⟩

/-- A failure to parse that has a text and a number for its line is always reported. -/
theorem exists_parsing (path text : String) (line : Int) (now : Float) :
    ∃ r, parsing (.text path) (.parsing text line) rule now = .ok r := by
  refine (tells_parsing (.text path) (.parsing text line) rule).exists_report ?_ now
  simp [List.findSome?_cons, Need.obstacle?, Failure.parsing, Failure.of?, Value.unwritable?,
    Value.unquotable?, Value.unnumbered?, Value.num?]

theorem tells_validation : Tells [.text f, .value file] .validation (validation file f rule) :=
  tells_described file f fun _ => ⟨_, _, _, _, _, _, _, fun _ => rfl⟩

theorem tells_fileAccess : Tells [.text f, .value file] .fileAccess (fileAccess file f rule) :=
  tells_described file f fun _ => ⟨_, _, _, _, _, _, _, fun _ => rfl⟩

theorem tells_memory : Tells [.text f, .value file] .memory (memory file f rule) :=
  tells_described file f fun _ => ⟨_, _, _, _, _, _, _, fun _ => rfl⟩

theorem tells_performance (message : String) (threshold : Value) :
    Tells [.threshold threshold, .value file] .performance
      (performance file message threshold rule) :=
  .bind rfl fun _ => tells_about file ⟨_, _, _, _, _, _, _, fun _ => rfl⟩

theorem tells_configuration (identifier : Value) :
    Tells [.value identifier, .text f, .value file] .configuration
      (configuration identifier f file) :=
  .bind identifier.of?_written.symm fun _ => tells_described file f fun _ =>
    ⟨_, _, _, _, _, _, _, fun _ => rfl⟩

theorem tells_ruleProcessing (message : String) :
    Tells (if message.isEmpty then [.text f, .value file] else [.value file]) .ruleProcessing
      (ruleProcessing file f rule message) := by
  unfold ruleProcessing
  cases message.isEmpty with
  | true => exact tells_described file f fun _ => ⟨_, _, _, _, _, _, _, fun _ => rfl⟩
  | false => exact tells_about file ⟨_, _, _, _, _, _, _, fun _ => rfl⟩

end Report

namespace Filing

def topic : Filing → Topic
  | .failure _ f _ _ => .ofFailure f
  | .parsing .. => .parsing
  | .validation .. => .validation
  | .fileAccess .. => .fileAccess
  | .memory .. => .memory
  | .performance .. => .performance
  | .configuration .. => .configuration
  | .ruleProcessing .. => .ruleProcessing

/-- What has to be told, in order. A message stands in for the text of a time or rule failure. -/
def needs : Filing → List Need
  | .failure file f message rule =>
      match Topic.ofFailure f with
      | .parsing => [.text f, .value file, .line f.line]
      | .configuration => [.value (rule.orElse file), .text f, .value file]
      | .performance | .ruleProcessing =>
          if message.isEmpty then [.text f, .value file] else [.value file]
      | _ => [.text f, .value file]
  | .parsing file f _ => [.text f, .value file, .line f.line]
  | .validation file f _ | .fileAccess file f _ | .memory file f _ => [.text f, .value file]
  | .performance file _ threshold _ => [.threshold threshold, .value file]
  | .configuration identifier f file => [.value identifier, .text f, .value file]
  | .ruleProcessing file f _ message =>
      if message.isEmpty then [.text f, .value file] else [.value file]

/-- What a filing fails with, if it fails. -/
def obstacle? (filing : Filing) : Option Failure := filing.needs.findSome? Need.obstacle?

/-- A failure of time is a warning with its text and the threshold that is meant where none is
named. -/
theorem tells_overdue (file : Value) (f : Failure) (message : String) (rule : Value) :
    Report.Tells (if message.isEmpty then [.text f, .value file] else [.value file]) .performance
      (fun now => do
        let text ← if message.isEmpty then f.text else .ok message
        Report.performance file text Report.defaultThreshold rule now) := by
  have hwarning (text : String) : Report.Tells [.value file] .performance
      (Report.performance file text Report.defaultThreshold rule) :=
    Report.tells_about file ⟨_, _, _, _, _, _, _, fun _ => rfl⟩
  cases message.isEmpty with
  | true => exact .bind rfl hwarning
  | false => exact hwarning message

/-- However it is filed, a report is made in the same way, under the filing's own topic, unless
something cannot be told. -/
theorem report_tells (filing : Filing) :
    Report.Tells filing.needs filing.topic fun now => filing.report now := by
  cases filing with
  | failure file f message rule =>
      simp only [needs, topic, report, Report.ofFailure]
      cases Topic.ofFailure f with
      | parsing => exact Report.tells_parsing file f rule
      | validation => exact Report.tells_validation file f rule
      | fileAccess => exact Report.tells_fileAccess file f rule
      | memory => exact Report.tells_memory file f rule
      | performance => exact tells_overdue file f message rule
      | configuration => exact Report.tells_configuration file f (rule.orElse file)
      | ruleProcessing => exact Report.tells_ruleProcessing file f rule message
  | parsing file f rule => exact Report.tells_parsing file f rule
  | validation file f rule => exact Report.tells_validation file f rule
  | fileAccess file f rule => exact Report.tells_fileAccess file f rule
  | memory file f rule => exact Report.tells_memory file f rule
  | performance file message threshold rule =>
      exact Report.tells_performance file rule message threshold
  | configuration identifier f file => exact Report.tells_configuration file f identifier
  | ruleProcessing file f rule message => exact Report.tells_ruleProcessing file f rule message

end Filing

/-- What keeps a failure from being filed under its topic: it has no text, or it is about parsing and
its line is no number. -/
def Failure.untold? (f : Failure) : Option Failure :=
  (of? f.text).or (if f.isA .parsing then f.line.unnumbered? else none)

theorem Topic.ofFailure_eq_parsing_iff (f : Failure) :
    ofFailure f = .parsing ↔ f.isA .parsing = true := by
  unfold ofFailure
  cases f.isA .parsing with
  | true => simp
  | false =>
      simp only [Bool.false_eq_true, if_false, iff_false]
      repeat' split
      all_goals rintro ⟨⟩

theorem Report.of?_ofFailure (path : String) (f : Failure) (rule : String) (now : Float) :
    Failure.of? (ofFailure (.text path) f "" (.text rule) now) = f.untold? := by
  let filing : Filing := .failure (.text path) f "" (.text rule)
  have hfile : (Need.value (.text path)).obstacle? = none := rfl
  have hnamed : (Need.value ((Value.text rule).orElse (.text path))).obstacle? = none := by
    unfold Value.orElse
    split <;> rfl
  refine (filing.report_tells.of?_report now).trans ?_
  have htext : (Need.text f).obstacle? = Failure.of? f.text := rfl
  have hline : (Need.line f.line).obstacle? = f.line.unnumbered? := rfl
  simp only [filing, Filing.needs, Failure.untold?, ← Topic.ofFailure_eq_parsing_iff]
  generalize Failure.of? f.text = text at htext
  generalize f.line.unnumbered? = line at hline
  cases text <;> cases line <;> cases Topic.ofFailure f <;> simp [hfile, hnamed, htext, hline]

/-- The failure can be told of any file: it has a text, and a number for its line. -/
structure Failure.IsTold (f : Failure) : Prop where
  text : f.HasText
  line : f.line.unnumbered? = none

namespace Failure

theorem HasText.obstacle?_eq_none {f : Failure} (h : f.HasText) : (Need.text f).obstacle? = none :=
  (of?_eq_none_iff f.text).mpr h

theorem HasText.needs_met {f : Failure} (h : f.HasText) (path : String) :
    [Need.text f, .value (.text path)].findSome? Need.obstacle? = none := by
  rw [List.findSome?_cons, h.obstacle?_eq_none]
  rfl

theorem IsTold.untold?_eq_none {f : Failure} (h : f.IsTold) : f.untold? = none := by
  rw [untold?, (of?_eq_none_iff f.text).mpr h.text, h.line]
  split <;> rfl

/-- Such a failure is filed under whatever topic it belongs to. -/
theorem IsTold.exists_report {f : Failure} (h : f.IsTold) (path rule : String) (now : Float) :
    ∃ r, Report.ofFailure (.text path) f "" (.text rule) now = .ok r := by
  rw [← of?_eq_none_iff, Report.of?_ofFailure, h.untold?_eq_none]

end Failure

namespace Failure

/-- Whatever the computation fails with can be told of any file. -/
def OnlyTold {α : Type} (x : Except Failure α) : Prop := ∀ f, x = .error f → f.IsTold

section

variable {α β : Type}

theorem onlyTold_ok (a : α) : OnlyTold (.ok a) := by
  rintro _ ⟨⟩

theorem onlyTold_error {f : Failure} (h : f.IsTold) : OnlyTold (.error f : Except Failure α) := by
  rintro _ ⟨⟩
  exact h

theorem OnlyTold.bind {x : Except Failure α} {g : α → Except Failure β} (hx : OnlyTold x)
    (hg : ∀ a, OnlyTold (g a)) : OnlyTold (x >>= g) := by
  cases x with
  | error f => exact onlyTold_error (hx f rfl)
  | ok a => exact hg a

end

theorem isTold_plain (name text : String) : (plain name text).IsTold := ⟨⟨text, rfl⟩, rfl⟩

theorem isTold_wrongType (text : String) : (wrongType text).IsTold := ⟨⟨text, rfl⟩, rfl⟩

theorem isTold_noAttribute (text : String) : (noAttribute text).IsTold := ⟨⟨text, rfl⟩, rfl⟩

theorem isTold_ofComplaint (c : Complaint) : (ofComplaint c).IsTold := ⟨⟨c.text, rfl⟩, rfl⟩

theorem isTold_of_ofText? {text : Except Complaint String} {f : Failure}
    (h : ofText? text = some f) : f.IsTold := by
  cases text with
  | ok text => cases h
  | error c =>
      cases h
      exact isTold_ofComplaint c

end Failure

namespace Value

open Failure (IsTold OnlyTold onlyTold_ok onlyTold_error)

mutual

/-- That a value cannot be written can be told. -/
theorem isTold_of_unquotable? : ∀ {v : Value} {f : Failure}, v.unquotable? = some f → f.IsTold
  | .null, _, h | .bool _, _, h | .float _, _, h | .text _, _, h | .bytes _, _, h
  | .severity _, _, h | .category _, _, h => by cases h
  | .int n, f, h => by
      rw [unquotable?] at h
      split at h
      · cases h
      · cases h
        exact Failure.isTold_plain _ _
  | .list items, f, h | .tuple items, f, h => isTold_of_unquotableIn? h
  | .map entries, f, h => isTold_of_unquotableAt? h
  | .object thing, f, h => Failure.isTold_of_ofText? h

theorem isTold_of_unquotableIn? : ∀ {vs : List Value} {f : Failure},
    unquotableIn? vs = some f → f.IsTold
  | [], _, h => by cases h
  | v :: rest, f, h => by
      rcases Option.or_eq_some_iff.mp h with hfirst | ⟨_, hrest⟩
      · exact isTold_of_unquotable? hfirst
      · exact isTold_of_unquotableIn? hrest

theorem isTold_of_unquotableAt? : ∀ {es : List (String × Value)} {f : Failure},
    unquotableAt? es = some f → f.IsTold
  | [], _, h => by cases h
  | (_, v) :: rest, f, h => by
      rcases Option.or_eq_some_iff.mp h with hfirst | ⟨_, hrest⟩
      · exact isTold_of_unquotable? hfirst
      · exact isTold_of_unquotableAt? hrest

end

theorem isTold_of_unwritable? {v : Value} {f : Failure} (h : v.unwritable? = some f) :
    f.IsTold := by
  unfold unwritable? at h
  split at h
  · exact Failure.isTold_of_ofText? h
  · exact isTold_of_unquotable? h

theorem onlyTold_written (v : Value) : OnlyTold v.written := by
  unfold written
  split
  · next f hf => exact onlyTold_error (isTold_of_unwritable? hf)
  · exact onlyTold_ok _

end Value

end PhpAudit
