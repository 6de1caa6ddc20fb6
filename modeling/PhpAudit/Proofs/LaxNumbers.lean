import PhpAudit.Proofs.KeyEquality
import PhpAudit.Proofs.LaxIntegers

/-!
The texts that stand for a number where a setting asks for one, and the doubles that stand for an
integer. A number is spelled with an optional sign, digits before a point or behind it, and possibly
an exponent, or in letters if it is infinite or undefined. Reading succeeds on these texts and no
others. A double stands for an integer if it equals one that fits into a machine word.
-/

namespace PhpAudit

namespace Coercion

section Numbers

/-- A sign, and whether it is a minus. -/
def IsSign (sign : List Char) (negative : Bool) : Prop :=
  (negative = false ∧ (sign = [] ∨ sign = ['+'])) ∨ (negative = true ∧ sign = ['-'])

/-- Nothing, or a mark with a power of ten. -/
def IsExponent (cs : List Char) (e : Int) : Prop :=
  (cs = [] ∧ e = 0) ∨ ∃ mark sign negative digits, (mark = 'e' ∨ mark = 'E') ∧
    IsSign sign negative ∧ digits ≠ [] ∧ (∀ d ∈ digits, d.isDigit = true) ∧
    cs = mark :: (sign ++ digits) ∧ e = if negative then -(amount digits : Int) else amount digits

/-- Nothing, or a point with decimal places. -/
def IsFraction (cs places : List Char) : Prop :=
  (∀ d ∈ places, d.isDigit = true) ∧ ((cs = [] ∧ places = []) ∨ cs = '.' :: places)

/-- How a number without sign may be written: an infinite or undefined one in letters of either
case, any other with a digit before the point or behind it. -/
inductive NumberBody : List Char → Float → Prop
  | infinite {cs : List Char} (h : cs.map Char.toLower = "inf".toList ∨
      cs.map Char.toLower = "infinity".toList) : NumberBody cs (1.0 / 0.0)
  | undefined {cs : List Char} (h : cs.map Char.toLower = "nan".toList) : NumberBody cs (0.0 / 0.0)
  | decimal {whole fraction places exponent : List Char} {e : Int}
      (hwhole : ∀ d ∈ whole, d.isDigit = true) (hfraction : IsFraction fraction places)
      (hsome : whole ++ places ≠ []) (hexponent : IsExponent exponent e) :
      NumberBody (whole ++ (fraction ++ exponent))
        (Numeral.nearest (amount (whole ++ places)) (e - places.length))

/-- A number with a sign or without. -/
def NumberNumeral (cs : List Char) (x : Float) : Prop :=
  ∃ sign negative body y, IsSign sign negative ∧ cs = sign ++ body ∧ NumberBody body y ∧
    x = if negative then -y else y

theorem digit?_of_isDigit {c : Char} (h : c.isDigit = true) :
    Numeral.digit? 10 c = some (c.toNat - 0x30) := by
  have hrange := Char.isDigit_iff_toNat.mp h
  change 48 ≤ c.toNat ∧ c.toNat ≤ 57 at hrange
  have hascii : c.toNat < 0x80 := by omega
  have hsmall : c.toNat - 0x30 < 10 := by omega
  simp [Numeral.digit?, Text.digitValue?, hascii, h, hsmall]

theorem isDigit_of_digit? {c : Char} {d : Nat} (hascii : c.toNat < 0x80)
    (h : Numeral.digit? 10 c = some d) : c.isDigit = true := by
  by_contra hdigit
  simp only [Numeral.digit?, Text.digitValue?, if_pos hascii, if_neg hdigit] at h
  obtain ⟨hvalue, hsmall⟩ := Option.filter_eq_some_iff.mp h
  have hlarge : 10 ≤ d := by
    split at hvalue
    · cases hvalue
      omega
    · split at hvalue
      · cases hvalue
        omega
      · cases hvalue
  have := of_decide_eq_true hsmall
  omega

theorem digits?_of_isDigit {cs : List Char} (hne : cs ≠ []) (h : ∀ c ∈ cs, c.isDigit = true) :
    Numeral.digits? 10 cs = some (cs.map fun c => c.toNat - 0x30) := by
  have hmap : cs.mapM (Numeral.digit? 10) = some (cs.map fun c => c.toNat - 0x30) := by
    clear hne
    induction cs with
    | nil => rfl
    | cons c cs ih =>
        obtain ⟨hc, hcs⟩ := List.forall_mem_cons.mp h
        simp [digit?_of_isDigit hc, ih hcs]
  rw [Numeral.digits?, if_neg (by simpa using hne), hmap]

theorem isDigit_of_digits? {cs : List Char} {digits : List Nat} (hascii : ∀ c ∈ cs, c.toNat < 0x80)
    (h : Numeral.digits? 10 cs = some digits) : cs ≠ [] ∧ ∀ c ∈ cs, c.isDigit = true := by
  constructor
  · rintro rfl
    cases h
  · intro c hc
    cases hdigit : Numeral.digit? 10 c with
    | none =>
        rw [Numeral.digits?_eq_none_of_mem hc hdigit] at h
        cases h
    | some d => exact isDigit_of_digit? (hascii c hc) hdigit

/-- A sign is split off where there is one. -/
theorem splitSign_append {sign body : List Char} {negative : Bool} (h : IsSign sign negative)
    (hbody : body.head? ≠ some '-' ∧ body.head? ≠ some '+') :
    Numeral.splitSign (sign ++ body) = (negative, body) := by
  rcases h with ⟨rfl, rfl | rfl⟩ | ⟨rfl, rfl⟩
  · rcases body with _ | ⟨c, rest⟩
    · rfl
    · exact Numeral.splitSign_of_ne (fun h => hbody.1 (by rw [h]; rfl))
        (fun h => hbody.2 (by rw [h]; rfl)) rest
  · rfl
  · rfl

theorem exists_sign (cs : List Char) : ∃ sign negative body, IsSign sign negative ∧
    cs = sign ++ body ∧ Numeral.splitSign cs = (negative, body) := by
  rcases cs with _ | ⟨c, rest⟩
  · exact ⟨[], false, [], Or.inl ⟨rfl, Or.inl rfl⟩, rfl, rfl⟩
  · by_cases hminus : c = '-'
    · subst hminus
      exact ⟨['-'], true, rest, Or.inr ⟨rfl, rfl⟩, rfl, rfl⟩
    · by_cases hplus : c = '+'
      · subst hplus
        exact ⟨['+'], false, rest, Or.inl ⟨rfl, Or.inr rfl⟩, rfl, rfl⟩
      · exact ⟨[], false, c :: rest, Or.inl ⟨rfl, Or.inl rfl⟩, rfl,
          Numeral.splitSign_of_ne hminus hplus rest⟩

theorem head?_ne_sign_of_isDigit {cs : List Char} (h : ∀ c ∈ cs, c.isDigit = true) :
    cs.head? ≠ some '-' ∧ cs.head? ≠ some '+' := by
  constructor <;> intro hhead <;> have hsign := h _ (List.mem_of_mem_head? hhead) <;> cases hsign

theorem exponent?_eq_some_iff {cs : List Char} {e : Int} (hascii : ∀ c ∈ cs, c.toNat < 0x80) :
    Numeral.exponent? cs = some e ↔ IsExponent cs e := by
  constructor
  · intro h
    rcases cs with _ | ⟨mark, rest⟩
    · cases h
      exact Or.inl ⟨rfl, rfl⟩
    · obtain ⟨_, hascii⟩ := List.forall_mem_cons.mp hascii
      rw [Numeral.exponent?] at h
      split at h
      · next hmark =>
          obtain ⟨sign, negative, body, hsign, rfl, hsplit⟩ := exists_sign rest
          rw [hsplit] at h
          obtain ⟨digits, hdigits, rfl⟩ := Option.map_eq_some_iff.mp h
          obtain ⟨hne, hbody⟩ := isDigit_of_digits?
            (fun c hc => hascii c (List.mem_append_right _ hc)) hdigits
          rw [digits?_of_isDigit hne hbody] at hdigits
          cases hdigits
          exact Or.inr ⟨mark, sign, negative, body, hmark, hsign, hne, hbody, rfl, rfl⟩
      · cases h
  · rintro (⟨rfl, rfl⟩ | ⟨mark, sign, negative, digits, hmark, hsign, hne, hdigits, rfl, rfl⟩)
    · rfl
    · rw [Numeral.exponent?, if_pos hmark, splitSign_append hsign (head?_ne_sign_of_isDigit hdigits)]
      dsimp only
      rw [digits?_of_isDigit hne hdigits]
      rfl

/-- Digits in front of what is no digit are taken as a whole. -/
theorem span_isDigit {front rest : List Char} (hfront : ∀ d ∈ front, d.isDigit = true)
    (hrest : ∀ c, rest.head? = some c → c.isDigit = false) :
    (front ++ rest).takeWhile Char.isDigit = front ∧
      (front ++ rest).dropWhile Char.isDigit = rest := by
  rw [List.takeWhile_append_of_pos hfront, List.dropWhile_append_of_pos hfront]
  rcases rest with _ | ⟨c, rest⟩
  · simp
  · simp [hrest c rfl]

theorem IsExponent.head? {cs : List Char} {e : Int} (h : IsExponent cs e) {c : Char}
    (hc : cs.head? = some c) : c.isDigit = false ∧ c ≠ '.' := by
  rcases h with ⟨rfl, _⟩ | ⟨mark, _, _, _, rfl | rfl, _, _, _, rfl, _⟩
  · cases hc
  · cases hc
    decide
  · cases hc
    decide

/-- What is read of digits, decimal places and an exponent part. -/
def assemble? (whole places exponent : List Char) : Option Float := do
  let digits ← Numeral.digits? 10 (whole ++ places)
  let e ← Numeral.exponent? exponent
  some (Numeral.nearest (Numeral.ofDigits 10 digits) (e - places.length))

/-- Every text falls into digits, a fraction and the rest. -/
theorem exists_parts (cs : List Char) : ∃ whole fraction places rest,
    (∀ d ∈ whole, d.isDigit = true) ∧ IsFraction fraction places ∧
      cs = whole ++ (fraction ++ rest) ∧ ∀ c, rest.head? = some c →
        c.isDigit = false ∧ (fraction = [] → c ≠ '.') := by
  have hdigits (cs : List Char) : (∀ d ∈ cs.takeWhile Char.isDigit, d.isDigit = true) ∧
      cs = cs.takeWhile Char.isDigit ++ cs.dropWhile Char.isDigit ∧
      ∀ c, (cs.dropWhile Char.isDigit).head? = some c → c.isDigit = false := by
    refine ⟨fun d hd => List.mem_takeWhile_imp hd, List.takeWhile_append_dropWhile.symm, ?_⟩
    intro c hc
    have hnot := List.head?_dropWhile_not Char.isDigit cs
    rw [hc] at hnot
    exact hnot
  obtain ⟨hwhole, hsplit, hafter⟩ := hdigits cs
  by_cases hpoint : (cs.dropWhile Char.isDigit).head? = some '.'
  · obtain ⟨more, hmore⟩ := List.head?_eq_some_iff.mp hpoint
    obtain ⟨hplaces, hsplit', hrest⟩ := hdigits more
    refine ⟨_, '.' :: more.takeWhile Char.isDigit, _, more.dropWhile Char.isDigit, hwhole,
      ⟨hplaces, Or.inr rfl⟩, ?_, fun c hc => ⟨hrest c hc, by simp⟩⟩
    rw [List.cons_append, ← hsplit', ← hmore]
    exact hsplit
  · refine ⟨_, [], [], cs.dropWhile Char.isDigit, hwhole, ⟨by simp, Or.inl ⟨rfl, rfl⟩⟩, hsplit, ?_⟩
    exact fun c hc => ⟨hafter c hc, fun _ heq => hpoint (heq ▸ hc)⟩

theorem magnitude?_parts {whole fraction places rest : List Char}
    (hwhole : ∀ d ∈ whole, d.isDigit = true) (hfraction : IsFraction fraction places)
    (hrest : ∀ c, rest.head? = some c → c.isDigit = false ∧ (fraction = [] → c ≠ '.')) :
    Numeral.magnitude? (whole ++ (fraction ++ rest)) = assemble? whole places rest := by
  obtain ⟨hplaces, ⟨rfl, rfl⟩ | rfl⟩ := hfraction
  · obtain ⟨htake, hdrop⟩ := span_isDigit hwhole fun c hc => (hrest c hc).1
    rw [List.nil_append, Numeral.magnitude?, htake, hdrop]
    rcases rest with _ | ⟨c, rest⟩
    · rfl
    · have hc : c ≠ '.' := (hrest c rfl).2 rfl
      dsimp only
      split
      · next heq =>
          cases heq
          exact absurd rfl hc
      · rfl
  · have hpoint : ∀ c, ('.' :: places ++ rest).head? = some c → c.isDigit = false := by
      rintro c ⟨⟩
      rfl
    obtain ⟨htake, hdrop⟩ := span_isDigit hwhole hpoint
    obtain ⟨htake', hdrop'⟩ := span_isDigit hplaces fun c hc => (hrest c hc).1
    rw [Numeral.magnitude?, htake, hdrop]
    simp only [List.cons_append, htake', hdrop']
    rfl

theorem magnitude?_eq_some_iff {cs : List Char} {x : Float} (hascii : ∀ c ∈ cs, c.toNat < 0x80) :
    Numeral.magnitude? cs = some x ↔ ∃ whole fraction places exponent e,
      (∀ d ∈ whole, d.isDigit = true) ∧ IsFraction fraction places ∧ whole ++ places ≠ [] ∧
      IsExponent exponent e ∧ cs = whole ++ (fraction ++ exponent) ∧
      x = Numeral.nearest (amount (whole ++ places)) (e - places.length) := by
  constructor
  · intro h
    obtain ⟨whole, fraction, places, rest, hwhole, hfraction, rfl, hrest⟩ := exists_parts cs
    rw [magnitude?_parts hwhole hfraction hrest] at h
    obtain ⟨digits, hdigits, h⟩ := Option.bind_eq_some_iff.mp h
    obtain ⟨e, he, h⟩ := Option.bind_eq_some_iff.mp h
    have hsome : whole ++ places ≠ [] := by
      intro hnone
      rw [hnone] at hdigits
      cases hdigits
    rw [digits?_of_isDigit hsome (List.forall_mem_append.mpr ⟨hwhole, hfraction.1⟩)] at hdigits
    rw [exponent?_eq_some_iff fun c hc => hascii c (by simp [hc])] at he
    cases hdigits
    cases h
    exact ⟨whole, fraction, places, rest, e, hwhole, hfraction, hsome, he, rfl, rfl⟩
  · rintro ⟨whole, fraction, places, exponent, e, hwhole, hfraction, hsome, hexponent, rfl, rfl⟩
    have hascii' : ∀ c ∈ exponent, c.toNat < 0x80 := fun c hc => hascii c (by simp [hc])
    rw [magnitude?_parts hwhole hfraction fun c hc =>
        ⟨(hexponent.head? hc).1, fun _ => (hexponent.head? hc).2⟩,
      assemble?, digits?_of_isDigit hsome (List.forall_mem_append.mpr ⟨hwhole, hfraction.1⟩),
      (exponent?_eq_some_iff hascii').mpr hexponent]
    rfl

/-- A number without sign, as it is read. -/
def unsignedFloat? (cs : List Char) : Option Float :=
  let word := String.ofList (cs.map Char.toLower)
  if word = "inf" ∨ word = "infinity" then some (1.0 / 0.0)
  else if word = "nan" then some (0.0 / 0.0)
  else if cs.all (·.toNat < 0x80) then Numeral.magnitude? cs
  else none

theorem plainFloat?_eq (cs : List Char) : Numeral.plainFloat? cs =
    (unsignedFloat? (Numeral.splitSign cs).2).map fun x =>
      if (Numeral.splitSign cs).1 then -x else x := by
  rcases hsplit : Numeral.splitSign cs with ⟨negative, body⟩
  simp only [Numeral.plainFloat?, hsplit, unsignedFloat?]
  split
  · rfl
  · split
    · rfl
    · split
      · cases Numeral.magnitude? body <;> rfl
      · rfl

/-- A number in digits starts with a digit or the point. -/
theorem exists_first {whole fraction places : List Char}
    (hwhole : ∀ d ∈ whole, d.isDigit = true) (hfraction : IsFraction fraction places)
    (hsome : whole ++ places ≠ []) (exponent : List Char) :
    ∃ c rest, whole ++ (fraction ++ exponent) = c :: rest ∧ (c.isDigit = true ∨ c = '.') ∧
      c.toLower = c := by
  rcases whole with _ | ⟨c, whole⟩
  · obtain ⟨_, ⟨_, rfl⟩ | rfl⟩ := hfraction
    · exact absurd rfl hsome
    · exact ⟨'.', _, rfl, Or.inr rfl, rfl⟩
  · have hc := hwhole c (by simp)
    exact ⟨c, _, rfl, Or.inl hc, (IntLiteral.isDigit_cases hc).2.1⟩

theorem isAscii_of_isDigit {c : Char} (h : c.isDigit = true) : c.toNat < 0x80 :=
  (IntLiteral.isDigit_cases h).1

theorem isAscii_of_decimal {whole fraction places exponent : List Char} {e : Int}
    (hwhole : ∀ d ∈ whole, d.isDigit = true) (hfraction : IsFraction fraction places)
    (hexponent : IsExponent exponent e) :
    ∀ c ∈ whole ++ (fraction ++ exponent), c.toNat < 0x80 := by
  have hsign {sign : List Char} {negative : Bool} (h : IsSign sign negative) :
      ∀ c ∈ sign, c.toNat < 0x80 := by
    rcases h with ⟨_, rfl | rfl⟩ | ⟨_, rfl⟩ <;> simp
  rw [List.forall_mem_append, List.forall_mem_append]
  refine ⟨fun c hc => isAscii_of_isDigit (hwhole c hc), ?_, ?_⟩
  · obtain ⟨hplaces, ⟨rfl, _⟩ | rfl⟩ := hfraction
    · simp
    · exact List.forall_mem_cons.mpr ⟨by decide, fun c hc => isAscii_of_isDigit (hplaces c hc)⟩
  · rcases hexponent with ⟨rfl, _⟩ | ⟨mark, sign, _, digits, hmark, hs, _, hdigits, rfl, _⟩
    · simp
    · refine List.forall_mem_cons.mpr ⟨by rcases hmark with rfl | rfl <;> decide, ?_⟩
      exact List.forall_mem_append.mpr ⟨hsign hs, fun c hc => isAscii_of_isDigit (hdigits c hc)⟩

theorem unsignedFloat?_eq_some_iff {cs : List Char} {x : Float} :
    unsignedFloat? cs = some x ↔ NumberBody cs x := by
  have hword (w : String) :
      String.ofList (cs.map Char.toLower) = w ↔ cs.map Char.toLower = w.toList := by
    rw [← String.toList_inj, String.toList_ofList]
  simp only [unsignedFloat?, hword]
  constructor
  · intro h
    split at h
    · next hinf =>
        cases h
        exact .infinite hinf
    · split at h
      · next hnan =>
          cases h
          exact .undefined hnan
      · split at h
        · next hascii =>
            have hascii' : ∀ c ∈ cs, c.toNat < 0x80 := by simpa using hascii
            obtain ⟨_, _, _, _, _, hwhole, hfraction, hsome, hexponent, rfl, rfl⟩ :=
              (magnitude?_eq_some_iff hascii').mp h
            exact .decimal hwhole hfraction hsome hexponent
        · cases h
  · intro h
    cases h with
    | infinite h => rw [if_pos h]
    | undefined h =>
        rw [if_neg, if_pos h]
        rw [h]
        decide
    | @decimal whole fraction places exponent e hwhole hfraction hsome hexponent =>
        have hascii := isAscii_of_decimal hwhole hfraction hexponent
        -- no letter comes first, so it is none of the words
        have hletter {w : List Char} {c : Char} (hc : c = 'i' ∨ c = 'n')
            (hw : w.head? = some c) :
            (whole ++ (fraction ++ exponent)).map Char.toLower ≠ w := by
          obtain ⟨d, rest, heq, hd, hlower⟩ := exists_first hwhole hfraction hsome exponent
          rintro rfl
          rw [heq, List.map_cons, List.head?_cons, hlower, Option.some.injEq] at hw
          subst hw
          rcases hc with rfl | rfl <;> revert hd <;> decide
        rw [if_neg, if_neg (hletter (Or.inr rfl) rfl), 
          if_pos (List.all_eq_true.mpr fun c hc => decide_eq_true (hascii c hc))]
        · exact (magnitude?_eq_some_iff hascii).mpr
            ⟨whole, fraction, places, exponent, e, hwhole, hfraction, hsome, hexponent, rfl, rfl⟩
        · rintro (h | h)
          · exact hletter (Or.inl rfl) rfl h
          · exact hletter (Or.inl rfl) rfl h

/-- Behind a sign there is no second one. -/
theorem NumberBody.head? {cs : List Char} {x : Float} (h : NumberBody cs x) :
    cs.head? ≠ some '-' ∧ cs.head? ≠ some '+' := by
  have hword {w : List Char} (hw : w.head? ≠ some '-' ∧ w.head? ≠ some '+')
      (heq : cs.map Char.toLower = w) : cs.head? ≠ some '-' ∧ cs.head? ≠ some '+' := by
    subst heq
    constructor
    · intro hhead
      exact hw.1 (by rw [List.head?_map, hhead]; rfl)
    · intro hhead
      exact hw.2 (by rw [List.head?_map, hhead]; rfl)
  cases h with
  | infinite h => exact h.elim (hword (by decide)) (hword (by decide))
  | undefined h => exact hword (by decide) h
  | @decimal whole fraction places exponent e hwhole hfraction hsome hexponent =>
      obtain ⟨c, rest, heq, hc, _⟩ := exists_first hwhole hfraction hsome exponent
      rw [heq]
      constructor <;> rintro ⟨⟩ <;> revert hc <;> decide

/-- Numbers are read from the texts that write one, and from no other. -/
theorem plainFloat?_eq_some_iff {cs : List Char} {x : Float} :
    Numeral.plainFloat? cs = some x ↔ NumberNumeral cs x := by
  rw [plainFloat?_eq]
  constructor
  · intro h
    obtain ⟨y, hy, rfl⟩ := Option.map_eq_some_iff.mp h
    obtain ⟨sign, negative, body, hsign, rfl, hsplit⟩ := exists_sign cs
    rw [hsplit] at hy ⊢
    exact ⟨sign, negative, body, y, hsign, rfl, unsignedFloat?_eq_some_iff.mp hy, rfl⟩
  · rintro ⟨sign, negative, body, y, hsign, rfl, hbody, rfl⟩
    rw [splitSign_append hsign hbody.head?, unsignedFloat?_eq_some_iff.mpr hbody]
    rfl

/-- Blanks may stand around a number, or else underscores inside it. -/
theorem numberText_eq_ok_iff {s : String} {x : Float} : numberText s = .ok x ↔
    NumberNumeral (Text.trimWhile Text.isNumeralBlank s.toList) x ∨
      ((∀ y, ¬NumberNumeral (Text.trimWhile Text.isNumeralBlank s.toList) y) ∧
        ∃ cs, withoutUnderscores? s.toList = some cs ∧ NumberNumeral cs x) := by
  simp only [← plainFloat?_eq_some_iff, numberText]
  cases Numeral.plainFloat? (Text.trimWhile Text.isNumeralBlank s.toList) with
  | some y => simp
  | none =>
      rw [← Option.bind_eq_some_iff]
      cases (withoutUnderscores? s.toList).bind Numeral.plainFloat? <;> simp

end Numbers

end Coercion

namespace Binary

theorem fraction_pos (m : Nat) (e : Int) : 0 < (fraction m e).2 := by
  rw [fraction]
  split
  · exact Nat.one_pos
  · exact Nat.two_pow_pos _

/-- A double is an integer if its integer part is all of it. -/
theorem compareInt?_eq_iff_whole (b : Binary) (n : Int) :
    b.compareInt? n = some .eq ↔ b.truncate? = some n ∧ b.isWhole = true := by
  cases b with
  | undefined => simp [compareInt?, truncate?]
  | infinite negative => cases negative <;> simp [compareInt?, truncate?]
  | finite negative m e =>
      have hpos := fraction_pos m e
      simp only [compareInt?, truncate?, isWhole, Option.some.injEq, Int.compare_eq_eq, beq_iff_eq]
      generalize (fraction m e).1 = above at hpos ⊢
      generalize (fraction m e).2 = below at hpos ⊢
      have hparts := Nat.div_add_mod above below
      constructor
      · intro h
        have habs : above = n.natAbs * below := by
          have hsize := congrArg Int.natAbs h
          cases negative <;> simpa [Int.natAbs_mul] using hsize.symm
        have hbelow : (below : Int) ≠ 0 := by exact_mod_cast hpos.ne'
        rw [habs, Nat.mul_div_cancel _ hpos]
        refine ⟨mul_right_cancel₀ hbelow ?_, Nat.mul_mod_left _ _⟩
        rw [h, habs]
        cases negative <;> push_cast <;> simp
      · rintro ⟨hn, hmod⟩
        rw [hmod, Nat.add_zero] at hparts
        have hparts' : (below : Int) * (above / below : Nat) = above := by exact_mod_cast hparts
        rw [← hn, ← hparts']
        cases negative <;> simp [mul_comm]
end Binary

namespace Coercion

/-- A double stands for the integer that it equals. -/
theorem integerFloat_eq_ok_iff {x : Float} {n : Int} : integerFloat x = .ok n ↔
    (Value.float x).equals (.int n) = true ∧ -wordBound < n ∧ n < wordBound := by
  have hequals : (Value.float x).equals (.int n) = true ↔
      (Binary.ofFloat x).compareInt? n = some .eq := by
    simp only [Value.equals, Value.num?, Value.Num.equals, Value.Num.compare?, beq_iff_eq]
    cases (Binary.ofFloat x).compareInt? n with
    | none => simp
    | some o => cases o <;> simp
  rw [hequals, Binary.compareInt?_eq_iff_whole, integerFloat]
  cases (Binary.ofFloat x).truncate? with
  | none => simp
  | some m =>
      cases (Binary.ofFloat x).isWhole with
      | false => simp
      | true =>
          dsimp only
          by_cases hbound : -wordBound < m ∧ m < wordBound
          · rw [if_neg (by simp), if_pos hbound, Except.ok.injEq, Option.some.injEq]
            constructor
            · rintro rfl
              exact ⟨⟨rfl, rfl⟩, hbound⟩
            · exact fun h => h.1.1
          · rw [if_neg (by simp), if_neg hbound]
            constructor
            · rintro ⟨⟩
            · rintro ⟨⟨⟨⟩, _⟩, hn⟩
              exact absurd hn hbound

end Coercion

end PhpAudit
