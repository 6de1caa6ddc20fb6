import PhpAudit.Proofs.LoadFailures
import PhpAudit.Proofs.ReferenceRun

/-!
What becomes of the items a rule hands back. Every item is assessed on its own: it is kept, imported
with the rule's own fields as defaults, or rejected for a reason. A rejection costs the item and one
warning, and nothing else: whatever a mapping fails to be imported with has a text. Two things can
stop the reading: the sequence itself may fail while it runs, and a rule whose own description cannot
be read fails at the first mapping. What was rejected before that stays on file.
-/

namespace PhpAudit

open Failure (OnlyTold onlyTold_ok onlyTold_error)

namespace Value

theorem onlyTold_toSeverity (v : Value) : OnlyTold v.toSeverity := by
  unfold toSeverity
  split
  · exact onlyTold_ok _
  · refine .bind (onlyTold_written _) fun text => ?_
    dsimp only
    split
    · exact onlyTold_ok _
    · exact onlyTold_error (Failure.isTold_plain _ _)

theorem onlyTold_elements (v : Value) : OnlyTold v.elements := by
  unfold elements
  split
  · exact onlyTold_ok _
  · exact onlyTold_error (Failure.isTold_wrongType _)

theorem onlyTold_pair (index : Nat) (v : Value) : OnlyTold (pair index v) := by
  unfold pair
  split
  · exact onlyTold_error (Failure.isTold_wrongType _)
  · split
    · exact onlyTold_error (Failure.isTold_wrongType _)
    · exact onlyTold_ok _
  · exact onlyTold_error (Failure.isTold_plain _ _)

theorem onlyTold_pairsFrom (index : Nat) (acc : Mapping String Value) (items : List Value) :
    OnlyTold (pairsFrom index acc items) := by
  induction items generalizing index acc with
  | nil => exact onlyTold_ok _
  | cons v rest ih =>
      rw [pairsFrom]
      split
      · next f hf => exact onlyTold_error (onlyTold_pair index v f hf)
      · exact ih _ _

theorem onlyTold_entries (v : Value) : OnlyTold v.entries := by
  unfold entries
  split
  · exact onlyTold_ok _
  · split
    · next f hf => exact onlyTold_error (onlyTold_elements _ f hf)
    · exact onlyTold_pairsFrom 0 [] _

end Value

namespace Finding

theorem onlyTold_categoryText (v : Value) : OnlyTold (categoryText v) := by
  unfold categoryText
  split
  · exact onlyTold_ok _
  · exact onlyTold_ok _
  · exact v.onlyTold_written

theorem Draft.onlyTold_finish (d : Draft) : OnlyTold d.finish :=
  .bind d.file.onlyTold_written fun _ => .bind d.severity.onlyTold_toSeverity fun _ =>
    .bind (onlyTold_categoryText d.category) fun _ => .bind d.tags.onlyTold_elements fun _ =>
      .bind d.metadata.onlyTold_entries fun _ => onlyTold_ok _

/-- What is wrong with a mapping can be told. -/
theorem onlyTold_ofMapping (data : Mapping String Value) (path : String) :
    OnlyTold (ofMapping data path) := by
  unfold ofMapping
  dsimp only
  split
  · exact onlyTold_error (Failure.isTold_plain _ _)
  · exact .bind (Value.onlyTold_entries _) fun _ => .bind (Value.onlyTold_written _) fun _ =>
      .bind (Value.onlyTold_written _) fun _ => .bind (Value.onlyTold_written _) fun _ =>
        .bind (Value.onlyTold_written _) fun _ => .bind (Value.onlyTold_elements _) fun _ =>
          Draft.onlyTold_finish _

end Finding

namespace IncidentLog

/-- `after` is `before` with the given incidents filed, up to their dates. -/
def Notes (before after : IncidentLog) (incidents : List Incident) : Prop :=
  ∃ filed : List Incident, after = filed.foldl add before ∧
    filed.map Incident.undated = incidents.map Incident.undated

variable {log mid after : IncidentLog} {first second : List Incident}

theorem Notes.refl (log : IncidentLog) : log.Notes log [] := ⟨[], rfl, rfl⟩

theorem Notes.trans (h : log.Notes mid first) (h' : mid.Notes after second) :
    log.Notes after (first ++ second) := by
  obtain ⟨one, hone, hfirst⟩ := h
  obtain ⟨two, htwo, hsecond⟩ := h'
  refine ⟨one ++ two, ?_, ?_⟩
  · rw [htwo, hone, List.foldl_append]
  · rw [List.map_append, List.map_append, hfirst, hsecond]

theorem Notes.of_add {i j : Incident} (h : i.undated = j.undated) : log.Notes (log.add i) [j] :=
  ⟨[i], rfl, by simp [h]⟩

end IncidentLog

/-- From one session to another neither settings nor cache nor samples change, and the given
incidents are filed. -/
structure Session.Notes (s t : Session) (incidents : List Incident) : Prop where
  settings : t.settings = s.settings
  cache : t.cache = s.cache
  timings : t.timings = s.timings
  filed : s.incidents.Notes t.incidents incidents

namespace Session

variable {s t u : Session} {first second : List Incident}

theorem Notes.refl (s : Session) : s.Notes s [] := ⟨rfl, rfl, rfl, .refl _⟩

theorem Notes.trans (h : s.Notes t first) (h' : t.Notes u second) :
    s.Notes u (first ++ second) where
  settings := h'.settings.trans h.settings
  cache := h'.cache.trans h.cache
  timings := h'.timings.trans h.timings
  filed := h.filed.trans h'.filed

theorem notes_wait (s : Session) (seconds : Float) : s.Notes (s.wait seconds) [] :=
  ⟨rfl, rfl, rfl, .refl _⟩

theorem notes_file (s : Session) {r : Report} {i : Incident}
    (h : r.incident.undated = i.undated) : s.Notes (s.file r) [i] :=
  ⟨rfl, rfl, rfl, .of_add h⟩

end Session

namespace Rule

/-- The fields of a mapping laid over the rule's own category, severity, type name and tags. -/
def withDefaults (rule : Rule) (p : RuleProfile) (entries : Mapping String Value) :
    Mapping String Value :=
  Mapping.overlay
    [("category", rule.category), ("severity", rule.severity), ("rule", .text rule.typeName),
      ("tags", .tuple p.tags)] entries

/-- How an item is assessed: a finding is kept as it is, a mapping is imported with the rule's own
fields as defaults or else rejected, and everything else is rejected. -/
inductive Assesses (rule : Rule) (path : String) : Item → Except Rejection Finding → Prop where
  | kept (finding : Finding) : Assesses rule path (.finding finding) (.ok finding)
  | imported {entries : Mapping String Value} {p : RuleProfile} {finding : Finding}
      (hprofile : rule.profile = .ok p)
      (himport : Finding.ofMapping (rule.withDefaults p entries) path = .ok finding) :
      Assesses rule path (.value (.map entries)) (.ok finding)
  | malformed {entries : Mapping String Value} {p : RuleProfile} {f : Failure} {text : String}
      (hprofile : rule.profile = .ok p)
      (himport : Finding.ofMapping (rule.withDefaults p entries) path = .error f)
      (htext : f.text = .ok text) :
      Assesses rule path (.value (.map entries)) (.error ("Invalid violation mapping: " ++ text))
  | stray {v : Value} (h : ∀ entries, v ≠ .map entries) :
      Assesses rule path (.value v) (.error ("Expected a Violation, got " ++ v.kindName))

theorem normaliseItem_map {rule : Rule} {p : RuleProfile} (hprofile : rule.profile = .ok p)
    (path : String) (entries : Mapping String Value) :
    rule.normaliseItem path (.value (.map entries)) =
      match Finding.ofMapping (rule.withDefaults p entries) path with
      | .ok finding => .ok (.ok finding)
      | .error f => (fun text => .error ("Invalid violation mapping: " ++ text)) <$> f.text := by
  simp only [normaliseItem, hprofile, withDefaults, bind, Except.bind]
  cases Finding.ofMapping _ path with
  | ok finding => rfl
  | error f => cases hf : f.text <;> simp only [hf] <;> rfl

/-- The verdict on an item is its assessment; only a mapping can find the rule without a
description. -/
theorem normaliseItem_cases (rule : Rule) (path : String) (item : Item) :
    (∃ verdict, rule.normaliseItem path item = .ok verdict ∧ rule.Assesses path item verdict) ∨
      ∃ entries f, item = .value (.map entries) ∧ rule.profile = .error f ∧
        rule.normaliseItem path item = .error f := by
  cases item with
  | finding f => exact Or.inl ⟨.ok f, rfl, .kept f⟩
  | value v =>
      cases v with
      | map entries =>
          cases hprofile : rule.profile with
          | error f =>
              refine Or.inr ⟨entries, f, rfl, rfl, ?_⟩
              simp only [normaliseItem, hprofile]
              rfl
          | ok p =>
              rw [normaliseItem_map hprofile]
              refine Or.inl ?_
              cases himport : Finding.ofMapping (rule.withDefaults p entries) path with
              | ok finding => exact ⟨_, rfl, .imported hprofile himport⟩
              | error f =>
                  obtain ⟨text, htext⟩ := (Finding.onlyTold_ofMapping _ path f himport).text
                  refine ⟨_, ?_, .malformed hprofile himport htext⟩
                  simp only [htext]
                  rfl
      | _ => exact Or.inl ⟨_, rfl, .stray fun _ h => by cases h⟩

/-- The findings among verdicts, and the reasons of the other ones. -/
def accepted : List (Except Rejection Finding) → List Finding
  | [] => []
  | .ok finding :: rest => finding :: accepted rest
  | .error _ :: rest => accepted rest

def rejected : List (Except Rejection Finding) → List Rejection
  | [] => []
  | .ok _ :: rest => rejected rest
  | .error reason :: rest => reason :: rejected rest

/-- What becomes of items that are read up to an ending: all of them are assessed, or the rule fails
at a mapping because of its own description. -/
inductive SettlesItems (rule : Rule) (path : String) :
    List Item → Option Failure → Except Failure (List Finding) → List Rejection → Prop where
  | finished {items : List Item} {verdicts : List (Except Rejection Finding)}
      (h : List.Forall₂ (rule.Assesses path) items verdicts) :
      SettlesItems rule path items none (.ok (accepted verdicts)) (rejected verdicts)
  | broken {items : List Item} {verdicts : List (Except Rejection Finding)} {f : Failure}
      (h : List.Forall₂ (rule.Assesses path) items verdicts) :
      SettlesItems rule path items (some f) (.error f) (rejected verdicts)
  | undescribed {items before after : List Item} {entries : Mapping String Value}
      {ending : Option Failure} {verdicts : List (Except Rejection Finding)} {f : Failure}
      (hitems : items = before ++ .value (.map entries) :: after)
      (h : List.Forall₂ (rule.Assesses path) before verdicts) (hprofile : rule.profile = .error f) :
      SettlesItems rule path items ending (.error f) (rejected verdicts)

section

variable {rule : Rule} {path : String} {item : Item} {items : List Item} {ending : Option Failure}
  {result : Except Failure (List Finding)} {reasons : List Rejection}

theorem SettlesItems.accept {finding : Finding} (hitem : rule.Assesses path item (.ok finding))
    (h : rule.SettlesItems path items ending result reasons) :
    rule.SettlesItems path (item :: items) ending ((finding :: ·) <$> result) reasons := by
  cases h with
  | finished hall => exact (SettlesItems.finished (hall.cons hitem) :)
  | broken hall => exact (SettlesItems.broken (hall.cons hitem) :)
  | undescribed hitems hall hprofile =>
      exact (SettlesItems.undescribed (congrArg (item :: ·) hitems) (hall.cons hitem) hprofile :)

theorem SettlesItems.reject {reason : Rejection} (hitem : rule.Assesses path item (.error reason))
    (h : rule.SettlesItems path items ending result reasons) :
    rule.SettlesItems path (item :: items) ending result (reason :: reasons) := by
  cases h with
  | finished hall => exact (SettlesItems.finished (hall.cons hitem) :)
  | broken hall => exact (SettlesItems.broken (hall.cons hitem) :)
  | undescribed hitems hall hprofile =>
      exact (SettlesItems.undescribed (congrArg (item :: ·) hitems) (hall.cons hitem) hprofile :)

end

/-- The items that a script emits, and the failure that ends it if there is one. -/
def emitted : List Step → List Item × Option Failure
  | [] => ([], none)
  | .wait _ :: rest => emitted rest
  | .fail f :: _ => ([], some f)
  | .emit item :: rest => (item :: (emitted rest).1, (emitted rest).2)

theorem emitted_emits (items : List Item) : emitted (items.map .emit) = (items, none) := by
  induction items with
  | nil => rfl
  | cons item rest ih => simp only [List.map_cons, emitted, ih]

/-- Reading a script settles what it emits, with a warning for every rejected item. -/
theorem normaliseSteps_settles (rule : Rule) (path : String) (steps : List Step) (s : Session) :
    ∃ reasons, rule.SettlesItems path (emitted steps).1 (emitted steps).2
        (rule.normaliseSteps path steps s).1 reasons ∧
      s.Notes (rule.normaliseSteps path steps s).2 (reasons.map (rule.warning path)) := by
  induction steps generalizing s with
  | nil => exact ⟨[], .finished .nil, .refl s⟩
  | cons step rest ih =>
      cases step with
      | wait seconds =>
          obtain ⟨reasons, hsettles, hnotes⟩ := ih (s.wait seconds)
          exact ⟨reasons, hsettles, (s.notes_wait seconds).trans hnotes⟩
      | fail f => exact ⟨[], .broken .nil, .refl s⟩
      | emit item =>
          simp only [normaliseSteps, emitted]
          rcases rule.normaliseItem_cases path item with
            ⟨verdict, hverdict, hassessed⟩ | ⟨entries, f, rfl, hprofile, hfailed⟩
          · rw [hverdict]
            cases verdict with
            | ok finding =>
                obtain ⟨reasons, hsettles, hnotes⟩ := ih s
                exact ⟨reasons, hsettles.accept hassessed, hnotes⟩
            | error reason =>
                -- the warning is filed before the rest is read
                have hwarned : s.Notes (rule.warn path reason s) [rule.warning path reason] :=
                  s.notes_file rfl
                obtain ⟨reasons, hsettles, hnotes⟩ := ih (rule.warn path reason s)
                exact ⟨reason :: reasons, hsettles.reject hassessed, hwarned.trans hnotes⟩
          · rw [hfailed]
            exact ⟨[], .undescribed rfl .nil hprofile, .refl s⟩

end Rule

/-- The items in an answer and the failure that ends it, if the answer can be read one by one. -/
def Answer.read? : Answer → Option (List Item × Option Failure)
  | .items xs => some (xs, none)
  | .stream steps => some (Rule.emitted steps)
  | .value v => (Rule.itemsOf? v).map fun xs => (xs.map .value, none)

namespace Rule

/-- What becomes of an answer: null is no item at all, a sequence is read, and any other value is
rejected as a whole. -/
inductive Settles (rule : Rule) (path : String) :
    Answer → Except Failure (List Finding) → List Rejection → Prop where
  | silent : Settles rule path (.value .null) (.ok []) []
  | unlisted {v : Value} (hnull : v ≠ .null) (hitems : itemsOf? v = none) :
      Settles rule path (.value v) (.ok [])
        ["Expected a list of violations, got " ++ v.kindName]
  | listed {answer : Answer} {items : List Item} {ending : Option Failure}
      {result : Except Failure (List Finding)} {reasons : List Rejection}
      (hread : answer.read? = some (items, ending))
      (h : rule.SettlesItems path items ending result reasons) :
      Settles rule path answer result reasons

/-- Normalising an answer settles it, with a warning for every rejection. -/
theorem normalise_settles (rule : Rule) (path : String) (answer : Answer) (s : Session) :
    ∃ reasons, rule.Settles path answer (rule.normalise path answer s).1 reasons ∧
      s.Notes (rule.normalise path answer s).2 (reasons.map (rule.warning path)) := by
  have hemits (items : List Item) := rule.normaliseSteps_settles path (items.map .emit) s
  simp only [emitted_emits] at hemits
  have hvalues (items : List Value) := hemits (items.map .value)
  simp only [List.map_map] at hvalues
  cases answer with
  | items items =>
      obtain ⟨reasons, hsettles, hnotes⟩ := hemits items
      exact ⟨reasons, .listed rfl hsettles, hnotes⟩
  | stream steps =>
      obtain ⟨reasons, hsettles, hnotes⟩ := rule.normaliseSteps_settles path steps s
      exact ⟨reasons, .listed rfl hsettles, hnotes⟩
  | value v =>
      cases v with
      | null => exact ⟨[], .silent, .refl s⟩
      | list items =>
          obtain ⟨reasons, hsettles, hnotes⟩ := hvalues items
          exact ⟨reasons, .listed rfl hsettles, hnotes⟩
      | tuple items =>
          obtain ⟨reasons, hsettles, hnotes⟩ := hvalues items
          exact ⟨reasons, .listed rfl hsettles, hnotes⟩
      | _ => exact ⟨_, .unlisted (by rintro ⟨⟩) rfl, s.notes_file rfl⟩

/-- An answer that can be read is settled item by item. -/
theorem Settles.items_of_read {rule : Rule} {path : String} {answer : Answer} {items : List Item}
    {ending : Option Failure} {result : Except Failure (List Finding)} {reasons : List Rejection}
    (h : rule.Settles path answer result reasons) (hread : answer.read? = some (items, ending)) :
    rule.SettlesItems path items ending result reasons := by
  cases h with
  | silent => cases hread
  | unlisted _ hitems =>
      rw [Answer.read?, hitems] at hread
      cases hread
  | listed hother hsettles =>
      rw [hother] at hread
      cases hread
      exact hsettles

end Rule

end PhpAudit
