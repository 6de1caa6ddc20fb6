import PhpAudit.Proofs.CatalogueNames
import PhpAudit.Proofs.DriverNames
import PhpAudit.Proofs.LaxNumbers
import PhpAudit.Rule.Scripted

/-!
What the options of a rule hold. A declared option that is given comes out as a value of its type,
read from whatever stands for one, and a value of the type stays as it is; so the options of a rule
build the same rule again. There is one exception: a severity or a category passes for an integer,
and comes out as a text, which is then refused. An option that does not fit is reported by the first
name in the order of declaration.
-/

namespace PhpAudit

namespace Coercion

/-- The text stands for the number, with blanks around it or else with underscores in it. -/
def NumberText (s : String) (x : Float) : Prop :=
  NumberNumeral (Text.trimWhile Text.isNumeralBlank s.toList) x ∨
    ((∀ y, ¬NumberNumeral (Text.trimWhile Text.isNumeralBlank s.toList) y) ∧
      ∃ cs, withoutUnderscores? s.toList = some cs ∧ NumberNumeral cs x)

/-- What stands for an integer. -/
inductive IntegerOf : Value → Int → Prop
  | bool (b : Bool) : IntegerOf (.bool b) (if b then 1 else 0)
  | int (n : Int) : IntegerOf (.int n) n
  | float {x : Float} {n : Int} (h : (Value.float x).equals (.int n) = true)
      (hlow : -wordBound < n) (hhigh : n < wordBound) : IntegerOf (.float x) n
  | text {v : Value} {s : String} {n : Int} (hs : textOf? v = some s)
      (h : IntegerNumeral (Text.trimWhile Text.isNumeralBlank s.toList) n) : IntegerOf v n

/-- What stands for a number. -/
inductive NumberOf : Value → Float → Prop
  | bool (b : Bool) : NumberOf (.bool b) (if b then 1.0 else 0.0)
  | float (x : Float) : NumberOf (.float x) x
  | int {n : Int} {x : Float} (h : Binary.ofInt? n = some x) : NumberOf (.int n) x
  | text {v : Value} {s : String} {x : Float} (hs : textOf? v = some s) (h : NumberText s x) :
      NumberOf v x

/-- What stands for a text. -/
inductive TextOf : Value → String → Prop
  | text {v : Value} {s : String} (h : textOf? v = some s) : TextOf v s
  | constant {v : Value} {s : String} (h : constantName? v = some s) : TextOf v s

/-- What stands for a truth value: a number that equals zero or one, or one of the words. -/
inductive TruthOf : Value → Bool → Prop
  | number {v : Value} {b : Bool} (h : v.equals (.int (if b then 1 else 0)) = true) : TruthOf v b
  | word {v : Value} {s : String} {b : Bool} (hs : textOf? v = some s)
      (h : String.ofList (s.toList.map Char.toLower) ∈ if b then trueWords else falseWords) :
      TruthOf v b

/-- Reads a text or a byte string that holds one. -/
def viaText {α : Type} (read : String → Except FaultKind α) (unreadable mistyped : FaultKind)
    (v : Value) : Except FaultKind α :=
  if isText v then
    match textOf? v with
    | some s => read s
    | none => .error unreadable
  else .error mistyped

section Reading

variable {v : Value}

theorem viaText_eq_ok_iff {α : Type} {read : String → Except FaultKind α}
    {unreadable mistyped : FaultKind} {a : α} :
    viaText read unreadable mistyped v = .ok a ↔ ∃ s, textOf? v = some s ∧ read s = .ok a := by
  cases v with
  | text s => simp [viaText, isText, textOf?]
  | bytes b => cases hs : Utf8.decode? b <;> simp [viaText, isText, textOf?, hs]
  | _ => simp [viaText, isText, textOf?]

/-- Only values that are no numbers are looked at as texts. -/
theorem eq_viaText_of_num? (h : v.num? = none) :
    integer v = viaText integerText .integerUnreadable .notInteger v ∧
      number v = viaText numberText .numberUnreadable .notNumber v ∧
      truth v = viaText truthText .truthUnreadable .notTruth v := by
  cases v with
  | bool _ => cases h
  | int _ => cases h
  | float _ => cases h
  | _ => exact ⟨rfl, rfl, rfl⟩

theorem textOf?_of_num? {k : Value.Num} (h : v.num? = some k) : textOf? v = none := by
  cases v with
  | bool _ => rfl
  | int _ => rfl
  | float _ => rfl
  | _ => cases h

theorem integer_eq_ok_iff {n : Int} : integer v = .ok n ↔ IntegerOf v n := by
  cases hnum : v.num? with
  | none =>
      rw [(eq_viaText_of_num? hnum).1, viaText_eq_ok_iff]
      constructor
      · rintro ⟨s, hs, h⟩
        exact .text hs (integerText_eq_ok_iff.mp h)
      · intro h
        cases h with
        | text hs h => exact ⟨_, hs, integerText_eq_ok_iff.mpr h⟩
        | _ => cases hnum
  | some k =>
      constructor
      · intro h
        cases v with
        | bool b =>
            cases h
            exact .bool b
        | int m =>
            cases h
            exact .int n
        | float x =>
            obtain ⟨hequal, hlow, hhigh⟩ := integerFloat_eq_ok_iff.mp h
            exact .float hequal hlow hhigh
        | _ => cases hnum
      · intro h
        cases h with
        | bool => rfl
        | int => rfl
        | float hequal hlow hhigh => exact integerFloat_eq_ok_iff.mpr ⟨hequal, hlow, hhigh⟩
        | text hs =>
            rw [textOf?_of_num? hnum] at hs
            cases hs

theorem number_eq_ok_iff {x : Float} : number v = .ok x ↔ NumberOf v x := by
  cases hnum : v.num? with
  | none =>
      rw [(eq_viaText_of_num? hnum).2.1, viaText_eq_ok_iff]
      constructor
      · rintro ⟨s, hs, h⟩
        exact .text hs (numberText_eq_ok_iff.mp h)
      · intro h
        cases h with
        | text hs h => exact ⟨_, hs, numberText_eq_ok_iff.mpr h⟩
        | _ => cases hnum
  | some k =>
      constructor
      · intro h
        cases v with
        | bool b =>
            cases h
            exact .bool b
        | int n =>
            cases hn : Binary.ofInt? n with
            | none => simp [number, hn] at h
            | some y =>
                rw [number, hn] at h
                cases h
                exact .int hn
        | float y =>
            cases h
            exact .float x
        | _ => cases hnum
      · intro h
        cases h with
        | bool => rfl
        | float => rfl
        | int hn => rw [number, hn]
        | text hs =>
            rw [textOf?_of_num? hnum] at hs
            cases hs

theorem text_eq_ok_iff {s : String} : text v = .ok s ↔ TextOf v s := by
  constructor
  · intro h
    cases v with
    | text _ =>
        cases h
        exact .text rfl
    | bytes b =>
        cases hs : Utf8.decode? b with
        | none => simp [text, hs] at h
        | some _ =>
            rw [text, hs] at h
            cases h
            exact .text hs
    | severity _ =>
        cases h
        exact .constant rfl
    | category _ =>
        cases h
        exact .constant rfl
    | _ => cases h
  · intro h
    cases h with
    | text hs =>
        cases v with
        | text _ =>
            cases hs
            rfl
        | bytes b =>
            rw [textOf?] at hs
            rw [text, hs]
        | _ => cases hs
    | constant hs =>
        cases v with
        | severity _ =>
            cases hs
            rfl
        | category _ =>
            cases hs
            rfl
        | _ => cases hs

theorem truthInteger_eq_ok_iff {n : Int} {b : Bool} :
    truthInteger n = .ok b ↔ n = if b then 1 else 0 := by
  rw [truthInteger]
  by_cases hzero : n = 0
  · rw [if_pos hzero]
    cases b <;> simp [hzero]
  · rw [if_neg hzero]
    by_cases hone : n = 1
    · rw [if_pos hone]
      cases b <;> simp [hone]
    · rw [if_neg hone]
      split <;> cases b <;> simp [hzero, hone]

theorem truthText_eq_ok_iff {s : String} {b : Bool} : truthText s = .ok b ↔
    String.ofList (s.toList.map Char.toLower) ∈ if b then trueWords else falseWords := by
  have hdisjoint : ∀ word ∈ trueWords, word ∉ falseWords := by decide
  rw [truthText]
  generalize String.ofList (s.toList.map Char.toLower) = word
  simp only [List.contains_iff_mem]
  by_cases htrue : word ∈ trueWords
  · rw [if_pos htrue]
    cases b <;> simp [htrue, hdisjoint word htrue]
  · rw [if_neg htrue]
    by_cases hfalse : word ∈ falseWords
    · rw [if_pos hfalse]
      cases b <;> simp [htrue, hfalse]
    · rw [if_neg hfalse]
      cases b <;> simp [htrue, hfalse]

theorem equals_int_iff {n m : Int} : (Value.int n).equals (.int m) = true ↔ n = m := by
  simp [Value.equals, Value.num?, Value.Num.equals, Value.Num.compare?]

theorem equals_int_of_num? (h : v.num? = none) (m : Int) : v.equals (.int m) = false := by
  cases v with
  | bool _ => cases h
  | int _ => cases h
  | float _ => cases h
  | _ => simp [Value.equals, Value.num?]

/-- A number is a truth value if it equals zero or one. -/
theorem truth_eq_ok_iff_of_num? {b : Bool} {k : Value.Num} (h : v.num? = some k) :
    truth v = .ok b ↔ v.equals (.int (if b then 1 else 0)) = true := by
  cases v with
  | bool c => cases b <;> cases c <;> decide
  | int n => rw [equals_int_iff, ← truthInteger_eq_ok_iff, truth]
  | float x =>
      have hbound : -wordBound < (if b then 1 else 0) ∧ (if b then 1 else 0) < wordBound := by
        cases b <;> decide
      rw [← and_iff_left (a := (Value.float x).equals _ = true) hbound, ← integerFloat_eq_ok_iff,
        truth]
      cases integerFloat x with
      | error _ => simp
      | ok n =>
          dsimp only
          rw [truthInteger_eq_ok_iff, Except.ok.injEq]
  | _ => cases h

theorem truth_eq_ok_iff {b : Bool} : truth v = .ok b ↔ TruthOf v b := by
  cases hnum : v.num? with
  | none =>
      rw [(eq_viaText_of_num? hnum).2.2, viaText_eq_ok_iff]
      constructor
      · rintro ⟨s, hs, h⟩
        exact .word hs (truthText_eq_ok_iff.mp h)
      · intro h
        cases h with
        | number h =>
            rw [equals_int_of_num? hnum] at h
            cases h
        | word hs h => exact ⟨_, hs, truthText_eq_ok_iff.mpr h⟩
  | some k =>
      rw [truth_eq_ok_iff_of_num? hnum]
      constructor
      · exact .number
      · intro h
        cases h with
        | number h => exact h
        | word hs =>
            rw [textOf?_of_num? hnum] at hs
            cases hs

theorem list_eq_ok_iff {items : List Value} :
    list v = .ok items ↔ v = .list items ∨ v = .tuple items := by
  cases v <;> simp [list]

theorem mapping_eq_ok_iff {entries : Mapping String Value} :
    mapping v = .ok entries ↔ v = .map entries := by
  cases v <;> simp [mapping]

end Reading

end Coercion

namespace OptionType

open Coercion

/-- The value stands for one of the type, and which. A named constant passes for an integer. -/
def Reads : OptionType → Value → Value → Prop
  | .integer, v, w => (∃ n, IntegerOf v n ∧ w = .int n) ∨
      ∃ name, constantName? v = some name ∧ w = .text name
  | .number, v, w => ∃ x, NumberOf v x ∧ w = .float x
  | .string, v, w => ∃ s, TextOf v s ∧ w = .text s
  | .boolean, v, w => ∃ b, TruthOf v b ∧ w = .bool b
  | .array, v, w => ∃ items, (v = .list items ∨ v = .tuple items) ∧ w = .list items
  | .object, v, w => ∃ entries, v = .map entries ∧ w = .map entries
  | .unrestricted, v, w => w = v

/-- The values of the type. -/
def Holds : OptionType → Value → Prop
  | .integer, w => ∃ n, w = .int n
  | .number, w => ∃ x, w = .float x
  | .string, w => ∃ s, w = .text s
  | .boolean, w => ∃ b, w = .bool b
  | .array, w => ∃ items, w = .list items
  | .object, w => ∃ entries, w = .map entries
  | .unrestricted, _ => True

variable {t : OptionType} {v w : Value}

theorem map_eq_ok_iff {α β : Type} {f : α → β} {r : Except FaultKind α} {b : β} :
    f <$> r = .ok b ↔ ∃ a, r = .ok a ∧ b = f a := by
  cases r with
  | error _ => simp
  | ok a => simp [eq_comm]

/-- Bringing a value to a type gives what it stands for. -/
theorem coerce_eq_ok_iff : t.coerce v = .ok w ↔ t.Reads v w := by
  cases t with
  | integer =>
      cases hconstant : constantName? v with
      | none => simp [coerce, Reads, hconstant, map_eq_ok_iff, integer_eq_ok_iff]
      | some name =>
          have hinteger : ∀ n, ¬IntegerOf v n := by
            intro n h
            rw [← integer_eq_ok_iff] at h
            cases v with
            | severity _ => cases h
            | category _ => cases h
            | _ => cases hconstant
          simp [coerce, Reads, hconstant, hinteger, eq_comm]
  | number => simp only [coerce, Reads, map_eq_ok_iff, number_eq_ok_iff]
  | string => simp only [coerce, Reads, map_eq_ok_iff, text_eq_ok_iff]
  | boolean => simp only [coerce, Reads, map_eq_ok_iff, truth_eq_ok_iff]
  | array => simp only [coerce, Reads, map_eq_ok_iff, list_eq_ok_iff]
  | object => simp only [coerce, Reads, map_eq_ok_iff, mapping_eq_ok_iff]
  | unrestricted => simp [coerce, Reads, eq_comm]

/-- What is read is of the type, unless a named constant has passed for an integer. -/
theorem Reads.holds (h : t.Reads v w) :
    t.Holds w ∨ (t = .integer ∧ ∃ name, constantName? v = some name ∧ w = .text name) := by
  cases t with
  | integer =>
      rcases h with ⟨n, _, rfl⟩ | hconstant
      · exact Or.inl ⟨n, rfl⟩
      · exact Or.inr ⟨rfl, hconstant⟩
  | number =>
      obtain ⟨x, _, rfl⟩ := h
      exact Or.inl ⟨x, rfl⟩
  | string =>
      obtain ⟨s, _, rfl⟩ := h
      exact Or.inl ⟨s, rfl⟩
  | boolean =>
      obtain ⟨b, _, rfl⟩ := h
      exact Or.inl ⟨b, rfl⟩
  | array =>
      obtain ⟨items, _, rfl⟩ := h
      exact Or.inl ⟨items, rfl⟩
  | object =>
      obtain ⟨entries, _, rfl⟩ := h
      exact Or.inl ⟨entries, rfl⟩
  | unrestricted => exact Or.inl trivial

/-- A value of the type stands for itself. -/
theorem Holds.reads (h : t.Holds w) : t.Reads w w := by
  cases t with
  | integer =>
      obtain ⟨n, rfl⟩ := h
      exact Or.inl ⟨n, .int n, rfl⟩
  | number =>
      obtain ⟨x, rfl⟩ := h
      exact ⟨x, .float x, rfl⟩
  | string =>
      obtain ⟨s, rfl⟩ := h
      exact ⟨s, .text rfl, rfl⟩
  | boolean =>
      obtain ⟨b, rfl⟩ := h
      exact ⟨b, .number (by cases b <;> decide), rfl⟩
  | array =>
      obtain ⟨items, rfl⟩ := h
      exact ⟨items, Or.inl rfl, rfl⟩
  | object =>
      obtain ⟨entries, rfl⟩ := h
      exact ⟨entries, rfl, rfl⟩
  | unrestricted => rfl

/-- No word of a constant is an integer. -/
theorem coerce_constant {name : String} (h : constantName? v = some name) :
    OptionType.integer.coerce (.text name) = .error .integerUnreadable := by
  cases v with
  | severity s =>
      cases h
      cases s <;> rfl
  | category c =>
      cases h
      cases c <;> rfl
  | _ => cases h

end OptionType

namespace Mapping

variable {κ ν : Type} [DecidableEq κ]

/-- Putting what is there changes nothing. -/
theorem put_of_get?_eq_some {m : Mapping κ ν} {key : κ} {value : ν} (h : get? m key = some value) :
    put m key value = m := by
  induction m with
  | nil => cases h
  | cons pair rest ih =>
      obtain ⟨k, v⟩ := pair
      by_cases hkey : k = key
      · rw [get?, if_pos hkey] at h
        cases h
        rw [put, if_pos hkey]
      · rw [get?, if_neg hkey] at h
        rw [put, if_neg hkey, ih h]

/-- A key that is there stays where it is. -/
theorem keys_put_of_mem {m : Mapping κ ν} {key : κ} (h : key ∈ keys m) (value : ν) :
    keys (put m key value) = keys m := by
  induction m with
  | nil => cases h
  | cons pair rest ih =>
      obtain ⟨k, v⟩ := pair
      by_cases hkey : k = key
      · rw [put, if_pos hkey]
        rfl
      · have hrest : key ∈ keys rest := (List.mem_cons.mp h).resolve_left (Ne.symm hkey)
        rw [put, if_neg hkey]
        exact congrArg (k :: ·) (ih hrest)

/-- Pairs with distinct keys overlay what was there. -/
theorem get?_overlay {m other : Mapping κ ν} (hnodup : (keys other).Nodup) (key : κ) :
    get? (overlay m other) key = (get? other key).or (get? m key) := by
  induction other generalizing m with
  | nil => rfl
  | cons pair rest ih =>
      obtain ⟨k, v⟩ := pair
      obtain ⟨hfirst, hrest⟩ := List.nodup_cons.mp hnodup
      have hstep : overlay m ((k, v) :: rest) = overlay (put m k v) rest := rfl
      rw [hstep, ih hrest, get?_put, get?]
      by_cases hkey : k = key
      · subst hkey
        rw [get?_eq_none_iff.mpr hfirst, if_pos rfl, if_pos rfl]
        rfl
      · rw [if_neg hkey, if_neg hkey]

theorem get?_map_value {μ : Type} (f : ν → μ) (m : Mapping κ ν) (key : κ) :
    get? (m.map fun e => (e.1, f e.2)) key = (get? m key).map f := by
  induction m with
  | nil => rfl
  | cons pair rest ih =>
      obtain ⟨k, v⟩ := pair
      by_cases hkey : k = key <;> simp [get?, hkey, ih]

theorem mem_of_get? {m : Mapping κ ν} {key : κ} {value : ν} (h : get? m key = some value) :
    (key, value) ∈ m := by
  induction m with
  | nil => cases h
  | cons pair rest ih =>
      obtain ⟨k, v⟩ := pair
      by_cases hkey : k = key
      · rw [get?, if_pos hkey] at h
        cases h
        exact hkey ▸ List.mem_cons_self
      · rw [get?, if_neg hkey] at h
        exact List.mem_cons_of_mem _ (ih h)

theorem get?_of_mem {m : Mapping κ ν} (hnodup : (keys m).Nodup) {e : κ × ν} (he : e ∈ m) :
    get? m e.1 = some e.2 := by
  induction m with
  | nil => cases he
  | cons pair rest ih =>
      obtain ⟨k, v⟩ := pair
      obtain ⟨hfirst, hrest⟩ := List.nodup_cons.mp hnodup
      rcases List.mem_cons.mp he with rfl | hlater
      · simp [get?]
      · have hkey : e.1 ∈ keys rest := List.mem_map_of_mem hlater
        have hne : k ≠ e.1 := fun heq => hfirst (heq ▸ hkey)
        rw [get?, if_neg hne, ih hrest hlater]

end Mapping

namespace Rule

variable {typeName : String} {given acc : Mapping String Value} {declared : Mapping String OptionSpec}

/-- The report of an option that does not fit its type. -/
def misfit (typeName key : String) (t : OptionType) (kind : FaultKind) : Failure :=
  .configuration ("Invalid option '" ++ key ++ "' for " ++ typeName ++ ": " ++
    Fault.report t.title [⟨[], kind⟩])

/-- The failure reports a given option that does not fit, and all before it in the order of
declaration fit. -/
def FirstMisfit (typeName : String) (given : Mapping String Value)
    (declared : Mapping String OptionSpec) (f : Failure) : Prop :=
  ∃ before key spec after v kind, declared = before ++ (key, spec) :: after ∧
    (∀ e ∈ before, ∀ u, Mapping.get? given e.1 = some u →
      ∃ w, (OptionType.ofName e.2.type).Reads u w) ∧
    Mapping.get? given key = some v ∧ (∀ w, ¬(OptionType.ofName spec.type).Reads v w) ∧
    (OptionType.ofName spec.type).coerce v = .error kind ∧
    f = misfit typeName key (OptionType.ofName spec.type) kind

theorem firstMisfit_cons_of_fits {key : String} {spec : OptionSpec} {f : Failure}
    (h : ∀ u, Mapping.get? given key = some u → ∃ w, (OptionType.ofName spec.type).Reads u w) :
    FirstMisfit typeName given ((key, spec) :: declared) f ↔
      FirstMisfit typeName given declared f := by
  constructor
  · rintro ⟨before, other, otherSpec, after, v, kind, heq, hbefore, hv, hmisfit, hkind, hf⟩
    rcases before with _ | ⟨e, before⟩
    · cases heq
      obtain ⟨w, hw⟩ := h v hv
      exact absurd hw (hmisfit w)
    · cases heq
      exact ⟨before, other, otherSpec, after, v, kind, rfl, (List.forall_mem_cons.mp hbefore).2, hv,
        hmisfit, hkind, hf⟩
  · rintro ⟨before, other, otherSpec, after, v, kind, rfl, hbefore, hrest⟩
    exact ⟨(key, spec) :: before, other, otherSpec, after, v, kind, rfl,
      List.forall_mem_cons.mpr ⟨h, hbefore⟩, hrest⟩

theorem firstMisfit_cons_of_misfit {key : String} {spec : OptionSpec} {f : Failure} {v : Value}
    {kind : FaultKind} (hv : Mapping.get? given key = some v)
    (hkind : (OptionType.ofName spec.type).coerce v = .error kind) :
    FirstMisfit typeName given ((key, spec) :: declared) f ↔
      f = misfit typeName key (OptionType.ofName spec.type) kind := by
  have hmisfit : ∀ w, ¬(OptionType.ofName spec.type).Reads v w := by
    intro w hw
    rw [← OptionType.coerce_eq_ok_iff, hkind] at hw
    cases hw
  constructor
  · rintro ⟨before, other, otherSpec, after, u, fault, heq, hbefore, hu, _, hfault, rfl⟩
    rcases before with _ | ⟨e, before⟩
    · cases heq
      cases hv.symm.trans hu
      cases hkind.symm.trans hfault
      rfl
    · cases heq
      obtain ⟨w, hw⟩ := (List.forall_mem_cons.mp hbefore).1 v hv
      exact absurd hw (hmisfit w)
  · rintro rfl
    exact ⟨[], key, spec, declared, v, kind, rfl, by simp, hv, hmisfit, hkind, rfl⟩

/-- Bringing options to their types fails at the first that does not fit, and nowhere else. -/
theorem coerceOptions_eq_error_iff {f : Failure} :
    coerceOptions typeName given declared acc = .error f ↔
      FirstMisfit typeName given declared f := by
  induction declared generalizing acc with
  | nil => simp [coerceOptions, FirstMisfit]
  | cons pair rest ih =>
      obtain ⟨key, spec⟩ := pair
      rw [coerceOptions]
      cases hv : Mapping.get? given key with
      | none =>
          rw [firstMisfit_cons_of_fits (by simp [hv])]
          exact ih
      | some v =>
          dsimp only
          cases hcoerced : (OptionType.ofName spec.type).coerce v with
          | ok w =>
              rw [firstMisfit_cons_of_fits]
              · exact ih
              · intro u hu
                cases hv.symm.trans hu
                exact ⟨w, OptionType.coerce_eq_ok_iff.mp hcoerced⟩
          | error kind =>
              rw [firstMisfit_cons_of_misfit hv hcoerced, Except.error.injEq]
              exact eq_comm

/-- Where every given option is what it stands for, nothing changes. -/
theorem coerceOptions_self (h : ∀ e ∈ declared, ∀ v, Mapping.get? given e.1 = some v →
    (OptionType.ofName e.2.type).Reads v v) :
    coerceOptions typeName given declared given = .ok given := by
  induction declared with
  | nil => rfl
  | cons pair rest ih =>
      obtain ⟨key, spec⟩ := pair
      obtain ⟨hfirst, hrest⟩ := List.forall_mem_cons.mp h
      rw [coerceOptions]
      cases hv : Mapping.get? given key with
      | none => exact ih hrest
      | some v =>
          have hself := OptionType.coerce_eq_ok_iff.mpr (hfirst v hv)
          dsimp only at hself ⊢
          rw [hself]
          dsimp only
          rw [Mapping.put_of_get?_eq_some hv]
          exact ih hrest

/-- Options keep their names and their order. -/
theorem keys_coerceOptions {chosen : Mapping String Value}
    (hacc : Mapping.keys acc = Mapping.keys given)
    (h : coerceOptions typeName given declared acc = .ok chosen) :
    Mapping.keys chosen = Mapping.keys given := by
  induction declared generalizing acc with
  | nil =>
      cases h
      exact hacc
  | cons pair rest ih =>
      obtain ⟨key, spec⟩ := pair
      rw [coerceOptions] at h
      cases hv : Mapping.get? given key with
      | none =>
          rw [hv] at h
          exact ih hacc h
      | some v =>
          rw [hv] at h
          dsimp only at h
          cases hcoerced : (OptionType.ofName spec.type).coerce v with
          | ok w =>
              rw [hcoerced] at h
              refine ih ?_ h
              have hmem : key ∈ Mapping.keys acc := by
                rw [hacc]
                by_contra hnone
                rw [Mapping.get?_eq_none_iff.mpr hnone] at hv
                cases hv
              rw [Mapping.keys_put_of_mem hmem, hacc]
          | error kind =>
              rw [hcoerced] at h
              cases h

end Rule

namespace RuleScript

open Coercion (constantName?)

variable {r : RuleScript} {given : Mapping String Value} {rule : Rule}

theorem build_eq_error_iff {f : Failure} : r.build (.map given) = .error f ↔
    Rule.FirstMisfit r.className given r.declared f := by
  rw [← Rule.coerceOptions_eq_error_iff, ← Rule.chooseOptions_map, build]
  cases Rule.chooseOptions r.className r.declared (.map given) with
  | ok chosen => simp [bind, Except.bind, pure, Except.pure]
  | error e => simp [bind, Except.bind]

/-- A rule depends on its options only through those that were chosen. -/
theorem chosen_of_build {options : Value} (h : r.build options = .ok rule) :
    Rule.chooseOptions r.className r.declared options = .ok rule.chosen ∧
      rule.declared = r.declared ∧
      ∀ others, Rule.chooseOptions r.className r.declared others = .ok rule.chosen →
        r.build others = .ok rule := by
  obtain ⟨chosen, hchosen, h⟩ := exists_ok_of_bind h
  cases h
  refine ⟨hchosen, rfl, fun others hothers => ?_⟩
  rw [build, hothers]
  rfl

/-- Some integer option is given as a named constant. -/
def TakesConstant (declared : Mapping String OptionSpec) (given : Mapping String Value) : Prop :=
  ∃ key spec v name, Mapping.get? declared key = some spec ∧
    OptionType.ofName spec.type = .integer ∧ Mapping.get? given key = some v ∧
    constantName? v = some name

theorem get?_options (hgiven : (Mapping.keys given).Nodup) (h : r.build (.map given) = .ok rule)
    (key : String) : Mapping.get? rule.options key =
      (Mapping.get? rule.chosen key).or ((Mapping.get? r.declared key).map (·.default)) := by
  obtain ⟨hchosen, hdeclared, _⟩ := chosen_of_build h
  rw [Rule.chooseOptions_map] at hchosen
  have hkeys := Rule.keys_coerceOptions rfl hchosen
  rw [Rule.options, Mapping.get?_overlay (hkeys ▸ hgiven), hdeclared, Mapping.get?_map_value]

/-- What was given for a declared option, and what was chosen for it. -/
theorem chosen_cases (hdeclared : (Mapping.keys r.declared).Nodup)
    (h : r.build (.map given) = .ok rule) {key : String} {spec : OptionSpec}
    (hspec : Mapping.get? r.declared key = some spec) :
    (Mapping.get? given key = none ∧ Mapping.get? rule.chosen key = none) ∨
      ∃ v w, Mapping.get? given key = some v ∧ (OptionType.ofName spec.type).Reads v w ∧
        Mapping.get? rule.chosen key = some w := by
  have hchosen := (chosen_of_build h).1
  rw [Rule.chooseOptions_map] at hchosen
  rcases Rule.coerceOptions_get? hdeclared hspec hchosen with
    ⟨hnone, hsame⟩ | ⟨v, w, hv, hcoerced, hw⟩
  · exact Or.inl ⟨hnone, hsame.trans hnone⟩
  · exact Or.inr ⟨v, w, hv, OptionType.coerce_eq_ok_iff.mp hcoerced, hw⟩

/-- Without constants among the integers, what was chosen is chosen again. -/
theorem build_chosen (hdeclared : (Mapping.keys r.declared).Nodup)
    (h : r.build (.map given) = .ok rule) (hconstant : ¬TakesConstant r.declared given) :
    r.build (.map rule.chosen) = .ok rule := by
  apply (chosen_of_build h).2.2
  rw [Rule.chooseOptions_map]
  apply Rule.coerceOptions_self
  intro e he w hw
  have hspec := Mapping.get?_of_mem hdeclared he
  rcases chosen_cases hdeclared h hspec with ⟨_, hnone⟩ | ⟨v, w', hv, hreads, hw'⟩
  · rw [hnone] at hw
    cases hw
  · cases hw'.symm.trans hw
    rcases hreads.holds with hholds | ⟨htype, name, hname, _⟩
    · exact hholds.reads
    · exact absurd ⟨e.1, e.2, v, name, hspec, htype, hv, hname⟩ hconstant

/-- The word of a constant is refused. -/
theorem build_chosen_of_takesConstant (hdeclared : (Mapping.keys r.declared).Nodup)
    (h : r.build (.map given) = .ok rule) (hconstant : TakesConstant r.declared given) :
    ∃ f, r.build (.map rule.chosen) = .error f := by
  obtain ⟨key, spec, v, name, hspec, htype, hv, hname⟩ := hconstant
  have hword : Mapping.get? rule.chosen key = some (.text name) := by
    rcases chosen_cases hdeclared h hspec with ⟨hnone, _⟩ | ⟨u, w, hu, hreads, hw⟩
    · rw [hnone] at hv
      cases hv
    · cases hu.symm.trans hv
      rw [htype, ← OptionType.coerce_eq_ok_iff, OptionType.coerce, hname] at hreads
      cases hreads
      exact hw
  cases hagain : r.build (.map rule.chosen) with
  | error f => exact ⟨f, rfl⟩
  | ok again =>
      rcases chosen_cases hdeclared hagain hspec with ⟨hnone, _⟩ | ⟨u, w, hu, hreads, _⟩
      · rw [hnone] at hword
        cases hword
      · cases hu.symm.trans hword
        rw [htype, ← OptionType.coerce_eq_ok_iff, OptionType.coerce_constant hname] at hreads
        cases hreads

/-- The options of a rule are its own defaults and what was given, brought to the declared types.
They build the rule again unless a constant has passed for an integer. -/
theorem options_typed_and_stable (hdeclared : (Mapping.keys r.declared).Nodup)
    (hgiven : (Mapping.keys given).Nodup) :
    (∀ f, r.build (.map given) = .error f ↔ Rule.FirstMisfit r.className given r.declared f) ∧
    ∀ rule, r.build (.map given) = .ok rule →
      (∀ key spec v, Mapping.get? r.declared key = some spec → Mapping.get? given key = some v →
        ∃ w, Mapping.get? rule.options key = some w ∧ (OptionType.ofName spec.type).Reads v w ∧
          ((OptionType.ofName spec.type).Holds w ∨ (OptionType.ofName spec.type = .integer ∧
            ∃ name, constantName? v = some name ∧ w = .text name))) ∧
      (∀ key spec, Mapping.get? r.declared key = some spec → Mapping.get? given key = none →
        Mapping.get? rule.options key = some spec.default) ∧
      (∀ key, Mapping.get? r.declared key = none →
        Mapping.get? rule.options key = Mapping.get? given key) ∧
      (¬TakesConstant r.declared given → r.build (.map rule.chosen) = .ok rule) ∧
      (TakesConstant r.declared given → ∃ f, r.build (.map rule.chosen) = .error f) := by
  refine ⟨fun f => build_eq_error_iff, fun rule hbuild => ?_⟩
  have hoptions := get?_options hgiven hbuild
  refine ⟨?_, ?_, ?_, build_chosen hdeclared hbuild, build_chosen_of_takesConstant hdeclared hbuild⟩
  · intro key spec v hspec hv
    rcases chosen_cases hdeclared hbuild hspec with ⟨hnone, _⟩ | ⟨u, w, hu, hreads, hw⟩
    · rw [hnone] at hv
      cases hv
    · cases hu.symm.trans hv
      exact ⟨w, by rw [hoptions, hw]; rfl, hreads, hreads.holds⟩
  · intro key spec hspec hnone
    rcases chosen_cases hdeclared hbuild hspec with ⟨_, hchosen⟩ | ⟨u, _, hu, _⟩
    · rw [hoptions, hchosen, hspec]
      rfl
    · rw [hnone] at hu
      cases hu
  · intro key hnone
    have hchosen := (chosen_of_build hbuild).1
    rw [Rule.chooseOptions_map] at hchosen
    rw [hoptions, hnone,
      Rule.coerceOptions_get?_of_notMem (Mapping.get?_eq_none_iff.mp hnone) hchosen]
    simp

/-- A rule with options of several types, one of a type that is not known. -/
def graded : RuleScript where
  className := "GradedRule"
  declared := [("depth", ⟨"integer", .int 3, ""⟩), ("ratio", ⟨"number", .null, ""⟩),
    ("strict", ⟨"boolean", .bool false, ""⟩), ("paths", ⟨"array", .list [], ""⟩),
    ("note", ⟨"text", .null, ""⟩)]

/-- An integer in a loose spelling, a word, a tuple, and an option that is not declared. -/
def looseOptions : Mapping String Value :=
  [("strict", .text "Yes"), ("depth", .text " +0_12.00"), ("paths", .tuple [.int 1]),
    ("extra", .null)]

theorem graded_stable_unless_constant :
    (∃ rule, graded.build (.map looseOptions) = .ok rule ∧
      Mapping.get? rule.options "depth" = some (.int 12) ∧
      Mapping.get? rule.options "ratio" = some .null ∧
      Mapping.get? rule.options "extra" = some .null ∧
      graded.build (.map rule.chosen) = .ok rule) ∧
    ∃ rule f, graded.build (.map [("depth", .severity .info)]) = .ok rule ∧
      Mapping.get? rule.options "depth" = some (.text "info") ∧
      graded.build (.map rule.chosen) = .error f := by
  have hdeclared : (Mapping.keys graded.declared).Nodup := by decide
  constructor
  · have hloose : (Mapping.keys looseOptions).Nodup := by decide
    have hconstant : ¬TakesConstant graded.declared looseOptions := by
      rintro ⟨key, spec, v, name, hspec, htype, hv, hname⟩
      have hmem := Mapping.mem_of_get? hv
      simp only [looseOptions, List.mem_cons, Prod.mk.injEq, List.not_mem_nil, or_false] at hmem
      rcases hmem with ⟨_, rfl⟩ | ⟨_, rfl⟩ | ⟨_, rfl⟩ | ⟨_, rfl⟩ <;> cases hname
    obtain ⟨_, hdefault, hother, hagain, _⟩ :=
      (options_typed_and_stable hdeclared hloose).2 _ rfl
    exact ⟨_, rfl, rfl, hdefault "ratio" _ rfl rfl, hother "extra" rfl, hagain hconstant⟩
  · have hgiven : (Mapping.keys [("depth", Value.severity .info)]).Nodup := by decide
    obtain ⟨_, _, _, _, hagain⟩ := (options_typed_and_stable hdeclared hgiven).2 _ rfl
    obtain ⟨f, hf⟩ := hagain ⟨"depth", _, _, "info", rfl, rfl, rfl, rfl⟩
    exact ⟨_, f, rfl, rfl, hf⟩

end RuleScript

end PhpAudit
