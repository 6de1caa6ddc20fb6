import Mathlib.Data.List.Find
import PhpAudit.Proofs.BundledChecks

/-!
The names of a catalogue over a history of calls that register rules. A catalogue keeps two tables
that share one space of names, and a call writes to both only after it has looked at all of its own
names. So at any time the tables are just the calls accepted so far, no two of which have a name in
common, and a name stands for the identifier of the one call that has brought it.
-/

namespace PhpAudit

namespace Mapping

variable {κ ν : Type} [DecidableEq κ]

theorem get?_eq_none_iff {m : Mapping κ ν} {key : κ} : get? m key = none ↔ key ∉ keys m := by
  induction m with
  | nil => simp [get?, keys]
  | cons pair rest ih =>
      obtain ⟨k, v⟩ := pair
      by_cases hkey : k = key
      · simp [get?, keys, hkey]
      · simpa [get?, keys, hkey, Ne.symm hkey] using ih

/-- A new key is added at the end. -/
theorem put_of_get?_eq_none {m : Mapping κ ν} {key : κ} (h : get? m key = none) (value : ν) :
    put m key value = m ++ [(key, value)] := by
  induction m with
  | nil => rfl
  | cons pair rest ih =>
      obtain ⟨k, v⟩ := pair
      by_cases hkey : k = key
      · simp [get?, hkey] at h
      · rw [get?, if_neg hkey] at h
        rw [put, if_neg hkey, ih h, List.cons_append]

theorem get?_map_pair {α : Type} (key : α → κ) (value : α → ν) (xs : List α) (sought : κ) :
    get? (xs.map fun x => (key x, value x)) sought =
      (xs.find? fun x => key x = sought).map value := by
  induction xs with
  | nil => rfl
  | cons x rest ih =>
      by_cases hx : key x = sought
      · simp [get?, hx]
      · simpa [get?, hx] using ih

theorem get?_overlay_same (m : Mapping κ ν) (names : List κ) (value : ν) (sought : κ) :
    get? (overlay m (names.map fun name => (name, value))) sought =
      if sought ∈ names then some value else get? m sought := by
  induction names generalizing m with
  | nil => rfl
  | cons name rest ih =>
      have hstep : overlay m ((name :: rest).map fun name => (name, value)) =
          overlay (put m name value) (rest.map fun name => (name, value)) := rfl
      rw [hstep, ih, get?_put]
      by_cases hname : name = sought
      · simp [hname]
      · simp [hname, Ne.symm hname]

end Mapping

namespace Catalogue

theorem follow_refusals (c : Catalogue) (names : List String) (f : String → Failure)
    (rest : List Step) :
    c.follow (names.map (fun name => .refuse name (f name)) ++ rest) =
      ((names.find? c.isTaken).map fun name => (.error (f name), c)).getD (c.follow rest) := by
  induction names with
  | nil => rfl
  | cons name others ih =>
      cases htaken : c.isTaken name with
      | true => simp [follow, htaken]
      | false => simpa [follow, htaken] using ih

theorem follow_aliases (c : Catalogue) (identifier : String) (names : List String) :
    c.follow (names.map (.writeAlias identifier)) =
      (.ok (), { c with
        aliases := Mapping.overlay c.aliases (names.map fun name => (name, identifier)) }) := by
  induction names generalizing c with
  | nil => rfl
  | cons name others ih => rw [List.map_cons, follow, ih]; rfl

/-- Step by step or at once, a call is answered alike; a refused one leaves everything as it was. -/
theorem enter_cases (c : Catalogue) (call : Registration) :
    (∃ f, c.register call.identifier call.factory call.aliases = .error f ∧
        c.enter call = (.error f, c)) ∨
      ∃ next, c.register call.identifier call.factory call.aliases = .ok next ∧
        c.enter call = (.ok (), next) := by
  unfold enter Registration.steps register
  rw [List.cons_append, follow]
  by_cases htaken : c.isTaken call.identifier = true
  · rw [if_pos htaken, if_pos htaken]
    exact .inl ⟨_, rfl, rfl⟩
  · rw [if_neg htaken, if_neg htaken, follow_refusals]
    cases call.aliases.find? c.isTaken with
    | some name => exact .inl ⟨_, rfl, rfl⟩
    | none =>
        refine .inr ⟨_, rfl, ?_⟩
        rw [Option.map_none, Option.getD_none, follow, follow_aliases]

theorem isTaken_eq (c : Catalogue) (name : String) :
    c.isTaken name = (c.resolve? name).isSome := by
  unfold isTaken resolve?
  cases hfactory : Mapping.has c.factories name with
  | true => rfl
  | false => rfl

theorem isTaken_eq_false_iff {c : Catalogue} {name : String} :
    c.isTaken name = false ↔ c.resolve? name = none := by
  rw [isTaken_eq, Option.isSome_eq_false_iff, Option.isNone_iff_eq_none]

/-- The catalogue with one more call in it. -/
def extended (c : Catalogue) (call : Registration) : Catalogue where
  factories := Mapping.put c.factories call.identifier call.factory
  aliases := Mapping.overlay c.aliases (call.aliases.map fun name => (name, call.identifier))

theorem enter_of_free {c : Catalogue} {call : Registration}
    (h : ∀ name ∈ call.names, c.resolve? name = none) :
    c.enter call = (.ok (), c.extended call) := by
  obtain ⟨hidentifier, haliases⟩ := List.forall_mem_cons.mp h
  have hnone : call.aliases.find? c.isTaken = none := by
    rw [List.find?_eq_none]
    intro name hname
    rw [isTaken_eq_false_iff.mpr (haliases name hname)]
    exact Bool.false_ne_true
  have hregister : c.register call.identifier call.factory call.aliases = .ok (c.extended call) := by
    rw [register, isTaken_eq_false_iff.mpr hidentifier, hnone]
    rfl
  rcases c.enter_cases call with ⟨f, hrefused, _⟩ | ⟨next, haccepted, henter⟩
  · rw [hregister] at hrefused
    cases hrefused
  · rw [hregister] at haccepted
    cases haccepted
    exact henter

theorem enter_of_taken {c : Catalogue} {call : Registration} {name : String}
    (hname : name ∈ call.names) (h : c.resolve? name ≠ none) :
    ∃ f, c.enter call = (.error f, c) := by
  have htaken : c.isTaken name = true := by
    rw [← Bool.not_eq_false, isTaken_eq_false_iff]
    exact h
  have hregister (next : Catalogue) :
      c.register call.identifier call.factory call.aliases ≠ .ok next := by
    unfold register
    split
    · exact fun hok => by cases hok
    · next hidentifier =>
        have halias : name ∈ call.aliases := by
          rcases List.mem_cons.mp hname with rfl | halias
          · exact absurd htaken hidentifier
          · exact halias
        obtain ⟨first, hfirst⟩ := Option.isSome_iff_exists.mp
          (List.find?_isSome.mpr ⟨name, halias, htaken⟩)
        rw [hfirst]
        exact fun hok => by cases hok
  rcases c.enter_cases call with ⟨f, _, henter⟩ | ⟨next, haccepted, _⟩
  · exact ⟨f, henter⟩
  · exact absurd haccepted (hregister next)

/-- The catalogue is made up of these calls, in this order. -/
structure Holds (c : Catalogue) (calls : List Registration) : Prop where
  factories : c.factories = calls.map fun call => (call.identifier, call.factory)
  aliases : ∀ name, Mapping.get? c.aliases name =
    (calls.find? fun call => name ∈ call.aliases).map (·.identifier)
  /-- No two calls have a name in common. -/
  apart : calls.Pairwise fun earlier later => earlier.names.Disjoint later.names

/-- Where no two calls have a name in common, one that has a name is the first that has it. -/
theorem find?_of_apart {calls : List Registration}
    (hapart : calls.Pairwise fun earlier later => earlier.names.Disjoint later.names)
    {call : Registration} (hcall : call ∈ calls) {name : String} (hname : name ∈ call.names)
    {p : Registration → Bool} (hp : p call = true)
    (hbrings : ∀ other, p other = true → name ∈ other.names) : calls.find? p = some call := by
  induction calls with
  | nil => cases hcall
  | cons first rest ih =>
      obtain ⟨hfirst, hrest⟩ := List.pairwise_cons.mp hapart
      rcases List.mem_cons.mp hcall with rfl | hlater
      · exact List.find?_cons_of_pos hp
      · have hother : ¬p first = true := fun h => hfirst call hlater (hbrings first h) hname
        rw [List.find?_cons_of_neg hother]
        exact ih hrest hlater

theorem find?_names {calls : List Registration}
    (hapart : calls.Pairwise fun earlier later => earlier.names.Disjoint later.names)
    {call : Registration} (hcall : call ∈ calls) {name : String} (hname : name ∈ call.names) :
    (calls.find? fun call => name ∈ call.names) = some call :=
  find?_of_apart hapart hcall hname (by simpa using hname) fun _ h => by simpa using h

namespace Holds

variable {c : Catalogue} {calls : List Registration}

theorem get?_factories (h : Holds c calls) (identifier : String) :
    Mapping.get? c.factories identifier =
      (calls.find? fun call => call.identifier = identifier).map (·.factory) := by
  rw [h.factories, Mapping.get?_map_pair]

/-- A name stands for the identifier of the call that has brought it. -/
theorem resolve?_eq (h : Holds c calls) (name : String) :
    c.resolve? name = (calls.find? fun call => name ∈ call.names).map (·.identifier) := by
  rw [resolve?, Mapping.has, h.get?_factories, Option.isSome_map]
  cases hfound : calls.find? fun call => call.identifier = name with
  | some call =>
      have hidentifier : call.identifier = name := by simpa using List.find?_some hfound
      have hname : name ∈ call.names := by simp [Registration.names, hidentifier]
      rw [find?_names h.apart (List.mem_of_find?_eq_some hfound) hname, Option.isSome_some,
        if_pos rfl, Option.map_some, hidentifier]
  | none =>
      have hsame : (calls.find? fun call => name ∈ call.aliases) =
          calls.find? fun call => name ∈ call.names := by
        apply List.find?_congr
        intro call hcall
        have hother : ¬call.identifier = name := by simpa using List.find?_eq_none.mp hfound call hcall
        simp [Registration.names, Ne.symm hother]
      rw [Option.isSome_none, if_neg Bool.false_ne_true, h.aliases, hsame]

theorem resolve?_eq_some_iff (h : Holds c calls) {name identifier : String} :
    c.resolve? name = some identifier ↔
      ∃ call ∈ calls, name ∈ call.names ∧ call.identifier = identifier := by
  rw [h.resolve?_eq, Option.map_eq_some_iff]
  constructor
  · rintro ⟨call, hfound, hidentifier⟩
    exact ⟨call, List.mem_of_find?_eq_some hfound, by simpa using List.find?_some hfound, hidentifier⟩
  · rintro ⟨call, hcall, hname, hidentifier⟩
    exact ⟨call, find?_names h.apart hcall hname, hidentifier⟩

theorem resolve?_eq_none_iff (h : Holds c calls) {name : String} :
    c.resolve? name = none ↔ ∀ call ∈ calls, name ∉ call.names := by
  rw [h.resolve?_eq, Option.map_eq_none_iff, List.find?_eq_none]
  simp

theorem nil : Holds {} [] := ⟨rfl, fun _ => rfl, .nil⟩

/-- A call whose names are all free is added at the end. -/
theorem extended (h : Holds c calls) {call : Registration}
    (hfree : ∀ name ∈ call.names, c.resolve? name = none) :
    Holds (c.extended call) (calls ++ [call]) := by
  have hnew : ∀ name ∈ call.names, ∀ earlier ∈ calls, name ∉ earlier.names := fun name hname =>
    h.resolve?_eq_none_iff.mp (hfree name hname)
  constructor
  · have hunused : Mapping.get? c.factories call.identifier = none := by
      rw [h.get?_factories, Option.map_eq_none_iff, List.find?_eq_none]
      intro earlier hearlier hsame
      have hidentifier : earlier.identifier = call.identifier := by simpa using hsame
      apply hnew call.identifier List.mem_cons_self earlier hearlier
      rw [← hidentifier]
      exact List.mem_cons_self
    rw [Catalogue.extended, Mapping.put_of_get?_eq_none hunused, h.factories, List.map_append]
    rfl
  · intro name
    rw [Catalogue.extended, Mapping.get?_overlay_same, List.find?_append, Option.map_or, ← h.aliases]
    by_cases hname : name ∈ call.aliases
    · have hfirst : Mapping.get? c.aliases name = none := by
        rw [h.aliases, Option.map_eq_none_iff, List.find?_eq_none]
        intro earlier hearlier hsame
        refine hnew name (List.mem_cons_of_mem _ hname) earlier hearlier ?_
        exact List.mem_cons_of_mem _ (by simpa using hsame)
      simp [hname, hfirst]
    · simp [hname]
  · rw [List.pairwise_append]
    refine ⟨h.apart, List.pairwise_singleton _ _, ?_⟩
    intro earlier hearlier later hlater name hname hsame
    rw [List.mem_singleton.mp hlater] at hsame
    exact hnew name hsame earlier hearlier hname

theorem resolve?_identifier (h : Holds c calls) {name identifier : String}
    (hresolve : c.resolve? name = some identifier) : c.resolve? identifier = some identifier := by
  obtain ⟨call, hcall, _, hidentifier⟩ := h.resolve?_eq_some_iff.mp hresolve
  refine h.resolve?_eq_some_iff.mpr ⟨call, hcall, ?_, hidentifier⟩
  rw [← hidentifier]
  exact List.mem_cons_self

theorem identifiers_eq (h : Holds c calls) : c.identifiers = calls.map (·.identifier) := by
  rw [identifiers, Mapping.keys, h.factories, List.map_map]
  rfl

theorem nodup_identifiers (h : Holds c calls) : c.identifiers.Nodup := by
  rw [h.identifiers_eq, List.Nodup, List.pairwise_map]
  refine h.apart.imp fun {earlier later} hdisjoint hsame => ?_
  refine hdisjoint (a := earlier.identifier) List.mem_cons_self ?_
  rw [hsame]
  exact List.mem_cons_self

/-- A name that resolves has a factory, that of the call which has brought it. -/
theorem create_eq (h : Holds c calls) {name identifier : String}
    (hresolve : c.resolve? name = some identifier) :
    ∃ call ∈ calls, name ∈ call.names ∧ call.identifier = identifier ∧
      Mapping.get? c.factories identifier = some call.factory ∧
      ∀ options, c.create name options = produce identifier call.factory options := by
  obtain ⟨call, hcall, hname, hidentifier⟩ := h.resolve?_eq_some_iff.mp hresolve
  have hfactory : Mapping.get? c.factories identifier = some call.factory := by
    have hself : call.identifier ∈ call.names := List.mem_cons_self
    rw [h.get?_factories, find?_of_apart h.apart hcall hself (by simpa using hidentifier),
      Option.map_some]
    intro other hother
    have hsame : other.identifier = identifier := by simpa using hother
    rw [hidentifier, ← hsame]
    exact List.mem_cons_self
  refine ⟨call, hcall, hname, hidentifier, hfactory, fun options => ?_⟩
  rw [create, resolve, hresolve]
  simp only [bind, Except.bind, hfactory]

end Holds

/-- What one call makes of a catalogue and of the calls accepted before it. -/
theorem Holds.enter {c : Catalogue} {calls : List Registration} (h : Holds c calls)
    (call : Registration) :
    ((∃ f, c.enter call = (.error f, c)) ∧ ∃ name ∈ call.names, c.resolve? name ≠ none) ∨
      ∃ next, c.enter call = (.ok (), next) ∧ Holds next (calls ++ [call]) ∧
        ∀ name ∈ call.names, c.resolve? name = none := by
  by_cases hfree : ∀ name ∈ call.names, c.resolve? name = none
  · exact .inr ⟨_, enter_of_free hfree, h.extended hfree, hfree⟩
  · simp only [not_forall] at hfree
    obtain ⟨name, hname, htaken⟩ := hfree
    exact .inl ⟨enter_of_taken hname htaken, name, hname, htaken⟩

/-- The catalogue after some calls, accepted or not. -/
def enterAll (c : Catalogue) (calls : List Registration) : Catalogue :=
  calls.foldl (fun c call => (c.enter call).2) c

/-- Those of the calls that are accepted when they are made one after another. -/
def accepted (c : Catalogue) : List Registration → List Registration
  | [] => []
  | call :: rest =>
      if (c.enter call).1.isOk then call :: (c.enter call).2.accepted rest
      else (c.enter call).2.accepted rest

theorem accepted_of_refused {c next : Catalogue} {call : Registration} {f : Failure}
    (h : c.enter call = (.error f, next)) (rest : List Registration) :
    c.accepted (call :: rest) = next.accepted rest := by
  rw [accepted, h]
  exact if_neg Bool.false_ne_true

theorem accepted_of_entered {c next : Catalogue} {call : Registration}
    (h : c.enter call = (.ok (), next)) (rest : List Registration) :
    c.accepted (call :: rest) = call :: next.accepted rest := by
  rw [accepted, h]
  exact if_pos rfl

theorem Holds.enterAll {c : Catalogue} {calls : List Registration} (h : Holds c calls)
    (later : List Registration) : Holds (c.enterAll later) (calls ++ c.accepted later) := by
  induction later generalizing c calls with
  | nil =>
      rw [accepted, List.append_nil]
      exact h
  | cons call rest ih =>
      rw [Catalogue.enterAll, List.foldl_cons]
      rcases h.enter call with ⟨⟨f, hrefused⟩, _⟩ | ⟨next, hentered, hnext, _⟩
      · rw [accepted_of_refused hrefused, hrefused]
        exact ih h
      · rw [accepted_of_entered hentered, hentered, List.append_cons]
        exact ih hnext

/-- The bundled catalogue is what registering the bundled rules gives. -/
theorem bundled_eq_enterAll :
    bundled = enterAll {} (bundledRules.map fun (card, build) =>
      ⟨card.identifier, ruleFactory build, [card.typeName]⟩) := rfl

theorem resolve_eq_ok_iff {c : Catalogue} {name identifier : String} :
    c.resolve name = .ok identifier ↔ c.resolve? name = some identifier := by
  rw [resolve]
  cases c.resolve? name <;> simp

/-- Let some calls have been made, whatever names they asked for. A further one is answered alike
whether its steps are taken in place or all at once. It is refused exactly if one of its names
resolves, and then nothing has changed. What resolves goes on to resolve to the same identifier,
which resolves to itself and has the factory that builds the rule; every alias stands for an
identifier. The identifiers are those of the accepted calls, in their order and each once. -/
theorem names_stay_stable (calls : List Registration) :
    let c := enterAll {} calls
    (∀ call, c.register call.identifier call.factory call.aliases =
      (c.enter call).1.map fun _ => (c.enter call).2) ∧
    (∀ call f, (c.enter call).1 = .error f → (c.enter call).2 = c) ∧
    (∀ call, (∃ f, (c.enter call).1 = .error f) ↔
      ∃ name ∈ call.names, ∃ identifier, c.resolve name = .ok identifier) ∧
    (∀ later name identifier, c.resolve name = .ok identifier →
      (c.enterAll later).resolve name = .ok identifier) ∧
    (∀ name ∈ Mapping.keys c.aliases, ∃ identifier ∈ c.identifiers,
      Mapping.get? c.aliases name = some identifier) ∧
    (∀ name identifier, c.resolve name = .ok identifier → c.resolve identifier = .ok identifier ∧
      ∃ factory, Mapping.get? c.factories identifier = some factory ∧
        ∀ options, c.create name options = produce identifier factory options) ∧
    c.identifiers = (accepted {} calls).map (·.identifier) ∧ c.identifiers.Nodup := by
  intro c
  have hc : Holds c (accepted {} calls) := Holds.nil.enterAll calls
  refine ⟨fun call => ?_, fun call f hrefused => ?_, fun call => ?_, ?_, ?_, ?_, hc.identifiers_eq,
    hc.nodup_identifiers⟩
  · rcases c.enter_cases call with ⟨f, hregister, henter⟩ | ⟨next, hregister, henter⟩
    · rw [hregister, henter]
      rfl
    · rw [hregister, henter]
      rfl
  · rcases hc.enter call with ⟨⟨g, henter⟩, _⟩ | ⟨next, henter, _⟩
    · rw [henter]
    · rw [henter] at hrefused
      cases hrefused
  · constructor
    · rintro ⟨f, hrefused⟩
      rcases hc.enter call with ⟨_, name, hname, htaken⟩ | ⟨next, henter, _⟩
      · obtain ⟨identifier, hidentifier⟩ := Option.ne_none_iff_exists'.mp htaken
        exact ⟨name, hname, identifier, resolve_eq_ok_iff.mpr hidentifier⟩
      · rw [henter] at hrefused
        cases hrefused
    · rintro ⟨name, hname, identifier, hidentifier⟩
      have htaken : c.resolve? name ≠ none := by
        rw [resolve_eq_ok_iff.mp hidentifier]
        exact Option.some_ne_none identifier
      obtain ⟨f, henter⟩ := enter_of_taken hname htaken
      exact ⟨f, by rw [henter]⟩
  · intro later name identifier hresolve
    obtain ⟨call, hcall, hname, hidentifier⟩ :=
      hc.resolve?_eq_some_iff.mp (resolve_eq_ok_iff.mp hresolve)
    refine resolve_eq_ok_iff.mpr ((hc.enterAll later).resolve?_eq_some_iff.mpr ?_)
    exact ⟨call, List.mem_append_left _ hcall, hname, hidentifier⟩
  · intro name hname
    have hsome : Mapping.get? c.aliases name ≠ none := fun h => Mapping.get?_eq_none_iff.mp h hname
    obtain ⟨identifier, hidentifier⟩ := Option.ne_none_iff_exists'.mp hsome
    refine ⟨identifier, ?_, hidentifier⟩
    rw [hc.aliases, Option.map_eq_some_iff] at hidentifier
    obtain ⟨call, hfound, rfl⟩ := hidentifier
    rw [hc.identifiers_eq]
    exact List.mem_map_of_mem (List.mem_of_find?_eq_some hfound)
  · intro name identifier hresolve
    have hsome := resolve_eq_ok_iff.mp hresolve
    obtain ⟨call, _, _, _, hfactory, hcreate⟩ := hc.create_eq hsome
    exact ⟨resolve_eq_ok_iff.mpr (hc.resolve?_identifier hsome), call.factory, hfactory, hcreate⟩

end Catalogue

end PhpAudit
