import PhpAudit.Proofs.IntegerLiterals
import PhpAudit.Settings.Coercion

/-!
The texts that stand for an integer where a setting asks for one. They are a sign, zeros with
underscores among them, digits with single underscores between them, and possibly a fraction of
zeros; behind leading zeros a minus is taken as well, unless there was one before. Reading succeeds
on these texts and no others, with the number that is written.
-/

namespace PhpAudit

namespace Coercion

/-- Digits as they are written: single underscores may stand between them. -/
inductive Grouped : List Char → List Char → Prop
  | last {d : Char} (hd : d.isDigit = true) : Grouped [d] [d]
  | next {d : Char} {ds cs : List Char} (hd : d.isDigit = true) (h : Grouped ds cs) :
      Grouped (d :: ds) (d :: cs)
  | apart {d : Char} {ds cs : List Char} (hd : d.isDigit = true) (h : Grouped ds cs) :
      Grouped (d :: ds) (d :: '_' :: cs)

/-- Zeros in front of a number. Behind the first there may be any underscores. -/
def Leading (zeros : List Char) : Prop :=
  zeros.head? = some '0' ∧ ∀ c ∈ zeros, c = '0' ∨ c = '_'

/-- Nothing, or a point with zeros. -/
def NoFraction (tail : List Char) : Prop :=
  tail = [] ∨ ∃ n, tail = '.' :: List.replicate (n + 1) '0'

/-- The number that digits write. -/
def amount (digits : List Char) : Nat :=
  Numeral.ofDigits 10 (digits.map fun c => c.toNat - 0x30)

/-- How an integer may be written. The digits of a negative number are one fewer at most, since the
sign counts. -/
inductive IntegerNumeral : List Char → Int → Prop
  | plus {sign zeros written tail ds : List Char} (hsign : sign = [] ∨ sign = ['+'])
      (hzeros : zeros = [] ∨ Leading zeros) (hds : Grouped ds written) (hfirst : ds.head? ≠ some '0')
      (hfits : ds.length ≤ Numeral.maxDecimalDigits) (htail : NoFraction tail) :
      IntegerNumeral (sign ++ (zeros ++ (written ++ tail))) (amount ds)
  | minus {zeros written tail ds : List Char} (hzeros : zeros = [] ∨ Leading zeros)
      (hds : Grouped ds written) (hfirst : ds.head? ≠ some '0')
      (hfits : ds.length < Numeral.maxDecimalDigits) (htail : NoFraction tail) :
      IntegerNumeral ('-' :: (zeros ++ (written ++ tail))) (-amount ds)
  | zero {sign zeros tail : List Char} (hsign : sign = [] ∨ sign = ['+'] ∨ sign = ['-'])
      (hzeros : Leading (zeros ++ ['0'])) (htail : NoFraction tail) :
      IntegerNumeral (sign ++ (zeros ++ '0' :: tail)) 0
  | behind {sign zeros gap written tail ds : List Char} (hsign : sign = [] ∨ sign = ['+'])
      (hzeros : Leading zeros) (hgap : gap = [] ∨ gap = ['_']) (hds : Grouped ds written)
      (hfirst : ds = ['0'] ∨ ds.head? ≠ some '0') (hfits : ds.length < Numeral.maxDecimalDigits)
      (htail : NoFraction tail) :
      IntegerNumeral (sign ++ (zeros ++ '-' :: (gap ++ (written ++ tail)))) (-amount ds)

section Underscores

variable {c d : Char} {cs ds : List Char}

theorem isDigit_ne (h : d.isDigit = true) : d ≠ '_' ∧ d ≠ '-' ∧ d ≠ '.' := by
  refine ⟨?_, ?_, ?_⟩ <;> rintro rfl <;> cases h

@[simp] theorem withoutUnderscores?_underscore (cs : List Char) :
    withoutUnderscores? ('_' :: cs) = none := by
  simp [withoutUnderscores?]

theorem withoutUnderscores?_singleton (hc : c ≠ '_') : withoutUnderscores? [c] = some [c] := by
  simp [withoutUnderscores?, Text.occursIn, hc]

theorem withoutUnderscores?_cons_cons (hc : c ≠ '_') (hd : d ≠ '_') (cs : List Char) :
    withoutUnderscores? (c :: d :: cs) = (withoutUnderscores? (d :: cs)).map (c :: ·) := by
  simp only [withoutUnderscores?, Text.occursIn, List.head?_cons, Option.some.injEq, hc, hd,
    List.getLast?_cons_cons, List.isPrefixOf, beq_eq_false_iff_ne.mpr hc.symm, Bool.false_and,
    Bool.false_or, false_or]
  split
  · rfl
  · simp [hc]

theorem withoutUnderscores?_cons_underscore (hc : c ≠ '_') (hcs : cs ≠ []) :
    withoutUnderscores? (c :: '_' :: cs) = (withoutUnderscores? cs).map (c :: ·) := by
  obtain ⟨d, cs, rfl⟩ := List.exists_cons_of_ne_nil hcs
  simp only [withoutUnderscores?, Text.occursIn, List.head?_cons, Option.some.injEq, hc,
    List.getLast?_cons_cons, List.isPrefixOf, beq_eq_false_iff_ne.mpr hc.symm, Bool.false_or,
    false_or, beq_self_eq_true, Bool.true_and, Bool.and_true, Bool.or_eq_true, beq_iff_eq]
  by_cases hd : d = '_'
  · simp [hd]
  · simp only [hd, Ne.symm hd, false_or]
    split
    · rfl
    · simp [hc]

theorem withoutUnderscores?_ending (c : Char) : withoutUnderscores? [c, '_'] = none := by
  simp [withoutUnderscores?]

theorem ne_nil_of_withoutUnderscores? (h : withoutUnderscores? (c :: cs) = some ds) : ds ≠ [] := by
  by_cases hc : c = '_'
  · subst hc
    simp at h
  · rw [withoutUnderscores?] at h
    split at h
    · cases h
    · cases h
      simp [hc]

theorem Grouped.isDigit (h : Grouped ds cs) : ∀ d ∈ ds, d.isDigit = true := by
  induction h with
  | last hd => exact List.forall_mem_singleton.mpr hd
  | next hd _ ih => exact List.forall_mem_cons.mpr ⟨hd, ih⟩
  | apart hd _ ih => exact List.forall_mem_cons.mpr ⟨hd, ih⟩

/-- The first digit stands first. -/
theorem Grouped.exists_cons (h : Grouped ds cs) :
    ∃ d ds' cs', ds = d :: ds' ∧ cs = d :: cs' ∧ d.isDigit = true := by
  cases h with
  | last hd => exact ⟨_, _, _, rfl, rfl, hd⟩
  | next hd _ => exact ⟨_, _, _, rfl, rfl, hd⟩
  | apart hd _ => exact ⟨_, _, _, rfl, rfl, hd⟩

theorem Grouped.ne_nil (h : Grouped ds cs) : ds ≠ [] := by
  obtain ⟨d, _, _, rfl, _⟩ := h.exists_cons
  simp

theorem withoutUnderscores?_of_grouped (h : Grouped ds cs) : withoutUnderscores? cs = some ds := by
  induction h with
  | last hd => exact withoutUnderscores?_singleton (isDigit_ne hd).1
  | next hd h ih =>
      obtain ⟨e, _, _, rfl, rfl, he⟩ := h.exists_cons
      rw [withoutUnderscores?_cons_cons (isDigit_ne hd).1 (isDigit_ne he).1, ih]
      rfl
  | apart hd h ih =>
      obtain ⟨e, _, _, rfl, rfl, _⟩ := h.exists_cons
      rw [withoutUnderscores?_cons_underscore (isDigit_ne hd).1 (by simp), ih]
      rfl

theorem grouped_of_withoutUnderscores? (h : withoutUnderscores? cs = some ds) (hne : ds ≠ [])
    (hds : ∀ d ∈ ds, d.isDigit = true) : Grouped ds cs := by
  -- an underscore is passed together with the digit before it
  induction hlen : cs.length using Nat.strong_induction_on generalizing cs ds with
  | _ n ih =>
      rcases cs with _ | ⟨c, _ | ⟨d, rest⟩⟩
      · cases h
        exact absurd rfl hne
      · have hc : c ≠ '_' := by
          rintro rfl
          simp at h
        rw [withoutUnderscores?_singleton hc] at h
        cases h
        exact .last (hds c (by simp))
      · have hc : c ≠ '_' := by
          rintro rfl
          simp at h
        by_cases hd : d = '_'
        · subst hd
          rcases rest with _ | ⟨e, rest⟩
          · simp [withoutUnderscores?_ending] at h
          · rw [withoutUnderscores?_cons_underscore hc (by simp)] at h
            obtain ⟨ds, hrest, rfl⟩ := Option.map_eq_some_iff.mp h
            obtain ⟨hfirst, hds⟩ := List.forall_mem_cons.mp hds
            exact .apart hfirst
              (ih _ (by simp [← hlen]) hrest (ne_nil_of_withoutUnderscores? hrest) hds rfl)
        · rw [withoutUnderscores?_cons_cons hc hd] at h
          obtain ⟨ds, hrest, rfl⟩ := Option.map_eq_some_iff.mp h
          obtain ⟨hfirst, hds⟩ := List.forall_mem_cons.mp hds
          exact .next hfirst
            (ih _ (by simp [← hlen]) hrest (ne_nil_of_withoutUnderscores? hrest) hds rfl)

theorem mem_underscore_of_withoutUnderscores? (h : withoutUnderscores? cs = none) : '_' ∈ cs := by
  rw [withoutUnderscores?] at h
  split at h
  · next hmisplaced =>
      rcases hmisplaced with hfirst | hlast | htwice
      · exact List.mem_of_mem_head? hfirst
      · exact List.mem_of_getLast? hlast
      · exact ((Text.occursIn_iff_infix _ _).mp htwice).subset (by simp)
  · cases h

end Underscores

section Clean

variable {n : Int} {cs ds : List Char}

/-- No zero in front of other digits. -/
def Plain (ds : List Char) : Prop := ds = ['0'] ∨ ds.head? ≠ some '0'

theorem plain_iff (hne : ds ≠ []) :
    Plain ds ↔ ¬(ds.isEmpty || (decide (ds.head? = some '0') && ds.length != 1)) = true := by
  obtain ⟨d, ds, rfl⟩ := List.exists_cons_of_ne_nil hne
  cases ds with
  | nil => simpa [Plain] using em (d = '0')
  | cons e ds => simp [Plain]

/-- Digits with a minus or without, up to the limit. -/
theorem plainInteger_body (negative : Bool) {body : List Char}
    (hbody : negative = true ∨ body.head? ≠ some '-') :
    plainInteger (if negative then '-' :: body else body) = .ok n ↔
      body ≠ [] ∧ (∀ d ∈ body, d.isDigit = true) ∧ Plain body ∧
        body.length + (if negative then 1 else 0) ≤ Numeral.maxDecimalDigits ∧
        (if negative then -(amount body : Int) else amount body) = n := by
  have hneg : ((if negative then '-' :: body else body).head? = some '-') = (negative = true) := by
    cases negative with
    | true => simp
    | false => simpa using hbody
  have htail : (if negative = true then (if negative then '-' :: body else body).tail
      else if negative then '-' :: body else body) = body := by
    cases negative <;> rfl
  simp only [plainInteger, hneg, htail]
  generalize (if negative = true then 1 else 0) = sign
  by_cases hall : ∀ d ∈ body, d.isDigit = true
  · rw [List.takeWhile_eq_self_iff.mpr hall]
    by_cases hne : body = []
    · simp [hne]
    by_cases hplain : Plain body
    · by_cases hfits : body.length + sign ≤ Numeral.maxDecimalDigits
      · rw [if_neg ((plain_iff hne).mp hplain), if_neg (Nat.not_lt.mpr hfits),
          if_neg (Nat.lt_irrefl _), Except.ok.injEq]
        exact ⟨fun h => ⟨hne, hall, hplain, hfits, h⟩, fun h => h.2.2.2.2⟩
      · rw [if_neg ((plain_iff hne).mp hplain), if_pos (Nat.lt_of_not_le hfits)]
        simp [hfits]
    · rw [if_pos (not_not.mp (mt (plain_iff hne).mpr hplain))]
      simp [hplain]
  · -- what stands behind the digits spoils the number, unless something else has done so before
    have hshort : (body.takeWhile Char.isDigit).length < body.length := by
      have hfirst := List.takeWhile_prefix (l := body) Char.isDigit
      refine lt_of_le_of_ne hfirst.length_le fun h => hall ?_
      exact List.takeWhile_eq_self_iff.mp (hfirst.eq_of_length h)
    rw [if_pos hshort]
    simp only [hall, false_and, and_false, iff_false]
    split
    · simp
    · split <;> simp

theorem plainInteger_eq_ok_iff : plainInteger cs = .ok n ↔
    ∃ ds, ds ≠ [] ∧ (∀ d ∈ ds, d.isDigit = true) ∧ Plain ds ∧
      ((cs = ds ∧ ds.length ≤ Numeral.maxDecimalDigits ∧ n = amount ds) ∨
        (cs = '-' :: ds ∧ ds.length < Numeral.maxDecimalDigits ∧ n = -amount ds)) := by
  constructor
  · intro h
    by_cases hminus : cs.head? = some '-'
    · obtain ⟨ds, rfl⟩ := List.head?_eq_some_iff.mp hminus
      obtain ⟨hne, hds, hplain, hfits, hn⟩ := (plainInteger_body true (Or.inl rfl)).mp h
      exact ⟨ds, hne, hds, hplain, Or.inr ⟨rfl, hfits, hn.symm⟩⟩
    · obtain ⟨hne, hds, hplain, hfits, hn⟩ := (plainInteger_body false (Or.inr hminus)).mp h
      exact ⟨cs, hne, hds, hplain, Or.inl ⟨rfl, hfits, hn.symm⟩⟩
  · rintro ⟨ds, hne, hds, hplain, ⟨rfl, hfits, rfl⟩ | ⟨rfl, hfits, rfl⟩⟩
    · have hminus : cs.head? ≠ some '-' := by
        intro hhead
        exact (isDigit_ne (hds '-' (List.mem_of_mem_head? hhead))).2.1 rfl
      exact (plainInteger_body false (Or.inr hminus)).mpr ⟨hne, hds, hplain, hfits, rfl⟩
    · exact (plainInteger_body true (Or.inl rfl)).mpr ⟨hne, hds, hplain, hfits, rfl⟩

theorem withoutUnderscores?_minus_of_grouped {gap written : List Char}
    (hgap : gap = [] ∨ gap = ['_']) (h : Grouped ds written) :
    withoutUnderscores? ('-' :: (gap ++ written)) = some ('-' :: ds) := by
  obtain ⟨d, _, _, rfl, rfl, hd⟩ := h.exists_cons
  rcases hgap with rfl | rfl
  · rw [List.nil_append, withoutUnderscores?_cons_cons (by decide) (isDigit_ne hd).1,
      withoutUnderscores?_of_grouped h]
    rfl
  · rw [List.singleton_append, withoutUnderscores?_cons_underscore (by decide) (by simp),
      withoutUnderscores?_of_grouped h]
    rfl

theorem exists_gap {body : List Char} (h : withoutUnderscores? ('-' :: body) = some ('-' :: ds))
    (hne : ds ≠ []) (hds : ∀ d ∈ ds, d.isDigit = true) :
    ∃ gap written, body = gap ++ written ∧ (gap = [] ∨ gap = ['_']) ∧ Grouped ds written := by
  rcases body with _ | ⟨c, body⟩
  · rw [withoutUnderscores?_singleton (by decide)] at h
    cases h
    exact absurd rfl hne
  · by_cases hc : c = '_'
    · subst hc
      rcases body with _ | ⟨d, body⟩
      · simp [withoutUnderscores?_ending] at h
      · rw [withoutUnderscores?_cons_underscore (by decide) (by simp)] at h
        obtain ⟨ds, hbody, heq⟩ := Option.map_eq_some_iff.mp h
        cases heq
        exact ⟨['_'], _, rfl, Or.inr rfl, grouped_of_withoutUnderscores? hbody hne hds⟩
    · rw [withoutUnderscores?_cons_cons (by decide) hc] at h
      obtain ⟨ds, hbody, heq⟩ := Option.map_eq_some_iff.mp h
      cases heq
      exact ⟨[], _, rfl, Or.inl rfl, grouped_of_withoutUnderscores? hbody hne hds⟩

theorem head?_of_withoutUnderscores? (h : withoutUnderscores? cs = some ds) :
    ds.head? = cs.head? := by
  rw [withoutUnderscores?] at h
  split at h
  · cases h
  · next hplaced =>
      cases h
      cases cs with
      | nil => rfl
      | cons c cs =>
          have hc : c ≠ '_' := by
            rintro rfl
            exact hplaced (Or.inl rfl)
          simp [hc]

/-- The last step: underscores go, and a plain integer remains. -/
theorem plainInteger_clean_iff : plainInteger ((withoutUnderscores? cs).getD cs) = .ok n ↔
    (∃ ds, Grouped ds cs ∧ Plain ds ∧ ds.length ≤ Numeral.maxDecimalDigits ∧ n = amount ds) ∨
    (∃ gap written ds, cs = '-' :: (gap ++ written) ∧ (gap = [] ∨ gap = ['_']) ∧
      Grouped ds written ∧ Plain ds ∧ ds.length < Numeral.maxDecimalDigits ∧ n = -amount ds) := by
  constructor
  · intro h
    obtain ⟨ds, hne, hds, hplain, hread⟩ := plainInteger_eq_ok_iff.mp h
    cases hclean : withoutUnderscores? cs with
    | none =>
        have hmem := mem_underscore_of_withoutUnderscores? hclean
        have hdigit : '_' ∉ ds := fun hin => (isDigit_ne (hds _ hin)).1 rfl
        rw [hclean, Option.getD_none] at hread
        rcases hread with ⟨rfl, _⟩ | ⟨rfl, _⟩
        · exact absurd hmem hdigit
        · exact absurd ((List.mem_cons.mp hmem).resolve_left (by decide)) hdigit
    | some rest =>
        rw [hclean, Option.getD_some] at hread
        rcases hread with ⟨rfl, hfits, hn⟩ | ⟨rfl, hfits, hn⟩
        · exact Or.inl ⟨rest, grouped_of_withoutUnderscores? hclean hne hds, hplain, hfits, hn⟩
        · have hhead : cs.head? = some '-' := (head?_of_withoutUnderscores? hclean).symm
          obtain ⟨body, rfl⟩ := List.head?_eq_some_iff.mp hhead
          obtain ⟨gap, written, rfl, hgap, hgrouped⟩ := exists_gap hclean hne hds
          exact Or.inr ⟨gap, written, ds, rfl, hgap, hgrouped, hplain, hfits, hn⟩
  · rintro (⟨ds, hgrouped, hplain, hfits, hn⟩ | ⟨gap, written, ds, rfl, hgap, hgrouped, hplain,
      hfits, hn⟩)
    · rw [withoutUnderscores?_of_grouped hgrouped, Option.getD_some]
      exact plainInteger_eq_ok_iff.mpr
        ⟨ds, hgrouped.ne_nil, hgrouped.isDigit, hplain, Or.inl ⟨rfl, hfits, hn⟩⟩
    · rw [withoutUnderscores?_minus_of_grouped hgap hgrouped, Option.getD_some]
      exact plainInteger_eq_ok_iff.mpr
        ⟨ds, hgrouped.ne_nil, hgrouped.isDigit, hplain, Or.inr ⟨rfl, hfits, hn⟩⟩

end Clean

section Zeros

variable {cs out : List Char} {c last : Char}

theorem cutAt_of_notMem {sep : Char} (h : sep ∉ cs) : Text.cutAt sep cs = (cs, none) := by
  have hall : ∀ c ∈ cs, (c != sep) = true := fun c hc => bne_iff_ne.mpr fun heq => h (heq ▸ hc)
  rw [Text.cutAt, List.takeWhile_eq_self_iff.mpr hall, List.dropWhile_eq_nil_iff.mpr hall]

theorem cutAt_append {sep : Char} {whole : List Char} (h : sep ∉ whole) (rest : List Char) :
    Text.cutAt sep (whole ++ sep :: rest) = (whole, some rest) := by
  have hall : ∀ c ∈ whole, (c != sep) = true := fun c hc => bne_iff_ne.mpr fun heq => h (heq ▸ hc)
  rw [Text.cutAt, List.takeWhile_append_of_pos hall, List.dropWhile_append_of_pos hall]
  simp

/-- A fraction of zeros is dropped, and nothing else is. -/
theorem dropZeroFraction_eq_iff (hpoint : '.' ∉ out) :
    dropZeroFraction cs = out ↔ ∃ tail, NoFraction tail ∧ cs = out ++ tail := by
  constructor
  · intro h
    by_cases hcs : '.' ∈ cs
    · obtain ⟨whole, rest, rfl, hwhole⟩ := List.eq_append_cons_of_mem hcs
      rw [dropZeroFraction, cutAt_append hwhole] at h
      dsimp only at h
      split at h
      · next hzeros =>
          simp only [Bool.and_eq_true, Bool.not_eq_true', List.isEmpty_eq_false_iff,
            List.all_eq_true, beq_iff_eq] at hzeros
          obtain ⟨n, hn⟩ := Nat.exists_eq_succ_of_ne_zero (mt List.length_eq_zero_iff.mp hzeros.1)
          refine ⟨'.' :: rest, Or.inr ⟨n, ?_⟩, by rw [h]⟩
          rw [← Nat.succ_eq_add_one, ← hn, List.eq_replicate_of_mem hzeros.2,
            List.length_replicate]
      · exact absurd (h ▸ hcs) hpoint
    · rw [dropZeroFraction, cutAt_of_notMem hcs] at h
      exact ⟨[], Or.inl rfl, by simpa using h⟩
  · rintro ⟨tail, rfl | ⟨n, rfl⟩, rfl⟩
    · rw [List.append_nil, dropZeroFraction, cutAt_of_notMem hpoint]
    · rw [dropZeroFraction, cutAt_append hpoint]
      simp

/-- A digit that may stand first in a number. -/
def IsLeading (c : Char) : Prop := '1' ≤ c ∧ c ≤ '9'

theorem IsLeading.ne (h : IsLeading c) : c ≠ '0' ∧ c ≠ '_' ∧ c ≠ '.' ∧ c ≠ '-' ∧ c ≠ '+' := by
  refine ⟨?_, ?_, ?_, ?_, ?_⟩ <;> rintro rfl <;> revert h <;> simp [IsLeading]

/-- What is left behind zeros: with nothing or a point behind them the last of them stays, else a
number must follow. -/
def Remains (last : Char) (rest out : List Char) : Prop :=
  (out = last :: rest ∧ (rest = [] ∨ rest.head? = some '.')) ∨
    (out = rest ∧ ∃ c, rest.head? = some c ∧ (c = '-' ∨ IsLeading c))

theorem afterZeros?_append {zeros : List Char} (hzeros : ∀ c ∈ zeros, c = '0' ∨ c = '_')
    {next : Char} (hnext : next = '0' ∨ next = '_') (rest : List Char) :
    afterZeros? last (zeros ++ next :: rest) = afterZeros? next rest := by
  induction zeros generalizing last with
  | nil => rw [List.nil_append, afterZeros?, if_pos hnext]
  | cons z zeros ih =>
      obtain ⟨hz, hzeros⟩ := List.forall_mem_cons.mp hzeros
      rw [List.cons_append, afterZeros?, if_pos hz, ih hzeros]

theorem afterZeros?_eq_some_iff (hcs : ∀ c, cs.head? = some c → ¬(c = '0' ∨ c = '_')) :
    afterZeros? last cs = some out ↔ Remains last cs out := by
  cases cs with
  | nil => simp [afterZeros?, Remains, eq_comm]
  | cons c cs =>
      rw [afterZeros?, if_neg (hcs c rfl)]
      by_cases hpoint : c = '.'
      · subst hpoint
        simp [Remains, IsLeading, eq_comm]
      · rw [if_neg hpoint]
        by_cases hnumber : c = '-' ∨ ('1' ≤ c ∧ c ≤ '9')
        · rw [if_pos hnumber]
          simp [Remains, IsLeading, hpoint, hnumber, eq_comm]
        · rw [if_neg hnumber]
          simp [Remains, IsLeading, hpoint, hnumber]

theorem significant?_zeros {zeros : List Char} {l : Char} (h : Leading (zeros ++ [l]))
    (rest : List Char) : significant? (zeros ++ l :: rest) = afterZeros? l rest := by
  obtain ⟨hfirst, hzeros⟩ := h
  rw [List.forall_mem_append, List.forall_mem_singleton] at hzeros
  cases zeros with
  | nil =>
      cases hfirst
      rfl
  | cons z zeros =>
      cases hfirst
      exact afterZeros?_append (List.forall_mem_cons.mp hzeros.1).2 hzeros.2 rest

/-- The zeros that a text starts with, all of them. -/
theorem exists_leading (cs : List Char) : ∃ zeros l rest, Leading (zeros ++ [l]) ∧
    '0' :: cs = zeros ++ l :: rest ∧ ∀ c, rest.head? = some c → ¬(c = '0' ∨ c = '_') := by
  let isZero (c : Char) : Bool := decide (c = '0' ∨ c = '_')
  obtain ⟨zeros, l, hsplit⟩ := (List.eq_nil_or_concat ('0' :: cs.takeWhile isZero)).resolve_left
    (by simp)
  rw [List.concat_eq_append] at hsplit
  refine ⟨zeros, l, cs.dropWhile isZero, ?_, ?_, ?_⟩
  · rw [← hsplit]
    refine ⟨rfl, List.forall_mem_cons.mpr ⟨Or.inl rfl, fun c hc => ?_⟩⟩
    have hzero : isZero c = true := List.mem_takeWhile_imp hc
    exact of_decide_eq_true hzero
  · calc '0' :: cs = '0' :: cs.takeWhile isZero ++ cs.dropWhile isZero := by
          rw [List.cons_append, List.takeWhile_append_dropWhile]
      _ = zeros ++ l :: cs.dropWhile isZero := by rw [hsplit]; simp
  · intro c hc
    have hnot := List.head?_dropWhile_not isZero cs
    rw [hc] at hnot
    simpa [isZero] using hnot

/-- A number stands alone or behind zeros. -/
theorem significant?_eq_some_iff : significant? cs = some out ↔
    (∃ c, cs.head? = some c ∧ IsLeading c ∧ out = cs) ∨
      ∃ zeros l rest, Leading (zeros ++ [l]) ∧ cs = zeros ++ l :: rest ∧ Remains l rest out := by
  constructor
  · intro h
    rcases cs with _ | ⟨c, cs⟩
    · cases h
    · by_cases hzero : c = '0'
      · subst hzero
        obtain ⟨zeros, l, rest, hzeros, heq, hrest⟩ := exists_leading cs
        rw [heq, significant?_zeros hzeros, afterZeros?_eq_some_iff hrest] at h
        exact Or.inr ⟨zeros, l, rest, hzeros, heq, h⟩
      · rw [significant?, if_neg hzero] at h
        split at h
        · next hleading =>
            cases h
            exact Or.inl ⟨c, rfl, hleading, rfl⟩
        · cases h
  · rintro (⟨c, hhead, hleading, rfl⟩ | ⟨zeros, l, rest, hzeros, rfl, hremains⟩)
    · obtain ⟨rest, rfl⟩ := List.head?_eq_some_iff.mp hhead
      rw [significant?, if_neg hleading.ne.1]
      exact if_pos hleading
    · have hrest : ∀ c, rest.head? = some c → ¬(c = '0' ∨ c = '_') := by
        rintro c hc hzero
        rcases hremains with ⟨_, rfl | hpoint⟩ | ⟨_, d, hd, hnumber⟩
        · cases hc
        · rw [hpoint] at hc
          cases hc
          revert hzero
          decide
        · rw [hd] at hc
          cases hc
          rcases hnumber with rfl | hleading
          · revert hzero
            decide
          · exact hzero.elim hleading.ne.1 hleading.ne.2.1
      rw [significant?_zeros hzeros, afterZeros?_eq_some_iff hrest]
      exact hremains

theorem NoFraction.head? {tail : List Char} (h : NoFraction tail) :
    tail = [] ∨ tail.head? = some '.' := by
  rcases h with rfl | ⟨n, rfl⟩
  · exact Or.inl rfl
  · exact Or.inr rfl

theorem head?_of_append {tail : List Char} (htail : NoFraction tail) (hc : c ≠ '.')
    (h : (out ++ tail).head? = some c) : out.head? = some c := by
  cases out with
  | nil =>
      rcases htail.head? with rfl | hpoint
      · cases h
      · rw [List.nil_append, hpoint] at h
        exact absurd (Option.some.inj h).symm hc
  | cons d out => exact h

/-- An unsigned numeral without zeros in front and without a fraction. -/
def body? (cs : List Char) : Option (List Char) := (significant? cs).map dropZeroFraction

theorem body?_eq_some_iff (hpoint : '.' ∉ out) : body? cs = some out ↔
    ∃ tail, NoFraction tail ∧
      ((∃ zeros c, (zeros = [] ∨ Leading zeros) ∧ cs = zeros ++ (out ++ tail) ∧
          out.head? = some c ∧ (IsLeading c ∨ (c = '-' ∧ zeros ≠ []))) ∨
        ∃ zeros l, Leading (zeros ++ [l]) ∧ out = [l] ∧ cs = zeros ++ l :: tail) := by
  constructor
  · intro h
    obtain ⟨kept, hkept, hdrop⟩ := Option.map_eq_some_iff.mp h
    obtain ⟨tail, htail, rfl⟩ := (dropZeroFraction_eq_iff hpoint).mp hdrop
    refine ⟨tail, htail, ?_⟩
    rcases significant?_eq_some_iff.mp hkept with
      ⟨c, hhead, hleading, heq⟩ | ⟨zeros, l, rest, hzeros, rfl, ⟨heq, hrest⟩ | ⟨rfl, c, hhead, hc⟩⟩
    · subst heq
      have hfirst := head?_of_append htail hleading.ne.2.2.1 hhead
      exact Or.inl ⟨[], c, Or.inl rfl, rfl, hfirst, Or.inl hleading⟩
    · have hl : l ≠ '.' := by
        rintro rfl
        rcases hzeros.2 '.' (by simp) with h | h <;> cases h
      obtain ⟨more, rfl⟩ := List.head?_eq_some_iff.mp
        (head?_of_append htail hl (by rw [heq]; rfl))
      obtain rfl : more ++ tail = rest := by simpa using heq
      have hmore : more = [] := by
        cases more with
        | nil => rfl
        | cons d more =>
            obtain h | h := hrest
            · cases h
            · cases h
              simp at hpoint
      subst hmore
      exact Or.inr ⟨zeros, l, hzeros, rfl, rfl⟩
    · have hpoint' : c ≠ '.' := by
        rintro rfl
        rcases hc with hc | hc
        · cases hc
        · exact hc.ne.2.2.1 rfl
      refine Or.inl ⟨zeros ++ [l], c, Or.inr hzeros, by simp, head?_of_append htail hpoint' hhead, ?_⟩
      exact hc.elim (fun h => Or.inr ⟨h, by simp⟩) Or.inl
  · rintro ⟨tail, htail, hbody⟩
    refine Option.map_eq_some_iff.mpr
      ⟨out ++ tail, ?_, (dropZeroFraction_eq_iff hpoint).mpr ⟨tail, htail, rfl⟩⟩
    rw [significant?_eq_some_iff]
    rcases hbody with ⟨zeros, c, rfl | hzeros, rfl, hhead, hc⟩ | ⟨zeros, l, hzeros, rfl, rfl⟩
    · refine Or.inl ⟨c, ?_, hc.resolve_right fun h => h.2 rfl, rfl⟩
      rw [List.nil_append, List.head?_append, hhead]
      rfl
    · obtain ⟨front, l, rfl⟩ := (List.eq_nil_or_concat zeros).resolve_left
        (by rintro rfl; cases hzeros.1)
      rw [List.concat_eq_append] at hzeros ⊢
      refine Or.inr ⟨front, l, out ++ tail, hzeros, by simp, Or.inr ⟨rfl, c, ?_, ?_⟩⟩
      · rw [List.head?_append, hhead]
        rfl
      · exact hc.elim Or.inr fun h => Or.inl h.1
    · exact Or.inr ⟨zeros, l, tail, hzeros, rfl, Or.inl ⟨rfl, htail.head?⟩⟩

end Zeros

section Integers

variable {n : Int} {sign cs out written ds : List Char}

/-- Underscores go where they may. -/
def withoutGaps (cs : List Char) : List Char := (withoutUnderscores? cs).getD cs

theorem cleanInteger?_minus (cs : List Char) :
    cleanInteger? ('-' :: cs) = (body? cs).map fun out => withoutGaps ('-' :: out) := by
  simp only [cleanInteger?, body?, withoutGaps, Option.map_map]
  rfl

theorem cleanInteger?_plus (cs : List Char) :
    cleanInteger? ('+' :: cs) = (body? cs).map withoutGaps := by
  simp only [cleanInteger?]
  split
  · next hhead =>
      obtain ⟨rest, rfl⟩ := List.head?_eq_some_iff.mp hhead
      rfl
  · rfl

theorem cleanInteger?_bare (hminus : cs.head? ≠ some '-') (hplus : cs.head? ≠ some '+') :
    cleanInteger? cs = (body? cs).map withoutGaps := by
  simp only [cleanInteger?]
  split
  · exact absurd rfl hplus
  · exact absurd rfl hminus
  · rfl

/-- Behind a plus or nothing. -/
theorem cleanInteger?_unsigned (hsign : sign = [] ∨ sign = ['+']) (h : body? cs = some out) :
    cleanInteger? (sign ++ cs) = some (withoutGaps out) := by
  have hcs : cs.head? ≠ some '-' ∧ cs.head? ≠ some '+' := by
    constructor <;> intro hhead <;> obtain ⟨rest, rfl⟩ := List.head?_eq_some_iff.mp hhead <;> cases h
  rcases hsign with rfl | rfl
  · rw [List.nil_append, cleanInteger?_bare hcs.1 hcs.2, h]
    rfl
  · rw [List.singleton_append, cleanInteger?_plus, h]
    rfl

theorem cleanInteger?_cases (h : cleanInteger? cs = some out) :
    (∃ body rest, cs = '-' :: rest ∧ body? rest = some body ∧ out = withoutGaps ('-' :: body)) ∨
    ∃ sign body rest, (sign = [] ∨ sign = ['+']) ∧ cs = sign ++ rest ∧ body? rest = some body ∧
      out = withoutGaps body := by
  by_cases hminus : cs.head? = some '-'
  · obtain ⟨rest, rfl⟩ := List.head?_eq_some_iff.mp hminus
    rw [cleanInteger?_minus] at h
    obtain ⟨body, hbody, rfl⟩ := Option.map_eq_some_iff.mp h
    exact Or.inl ⟨body, rest, rfl, hbody, rfl⟩
  · by_cases hplus : cs.head? = some '+'
    · obtain ⟨rest, rfl⟩ := List.head?_eq_some_iff.mp hplus
      rw [cleanInteger?_plus] at h
      obtain ⟨body, hbody, rfl⟩ := Option.map_eq_some_iff.mp h
      exact Or.inr ⟨['+'], body, rest, Or.inr rfl, rfl, hbody, rfl⟩
    · rw [cleanInteger?_bare hminus hplus] at h
      obtain ⟨body, hbody, rfl⟩ := Option.map_eq_some_iff.mp h
      exact Or.inr ⟨[], body, cs, Or.inl rfl, rfl, hbody, rfl⟩

theorem Grouped.point_notMem (h : Grouped ds cs) : '.' ∉ cs := by
  induction h with
  | last hd => simpa using (isDigit_ne hd).2.2.symm
  | next hd _ ih => simpa [ih] using (isDigit_ne hd).2.2.symm
  | apart hd _ ih => simpa [ih] using (isDigit_ne hd).2.2.symm

theorem isLeading_of_isDigit {c : Char} (h : c.isDigit = true) (hzero : c ≠ '0') : IsLeading c := by
  have hrange := Char.isDigit_iff_toNat.mp h
  have hne : c.toNat ≠ '0'.toNat := fun heq => hzero (Char.toNat_inj.mp heq)
  simp only [IsLeading, Char.le_def, UInt32.le_iff_toNat_le]
  change 48 ≤ c.toNat ∧ c.toNat ≤ 57 at hrange
  change c.toNat ≠ 48 at hne
  change 49 ≤ c.toNat ∧ c.toNat ≤ 57
  omega

/-- The first digit of a number that is not behind zeros. -/
theorem Grouped.exists_isLeading (h : Grouped ds cs) (hfirst : ds.head? ≠ some '0') :
    ∃ c, cs.head? = some c ∧ IsLeading c := by
  obtain ⟨c, _, _, rfl, rfl, hc⟩ := h.exists_cons
  exact ⟨c, rfl, isLeading_of_isDigit hc fun heq => hfirst (by rw [heq]; rfl)⟩

/-- A single digit among zeros is a zero. -/
theorem Grouped.eq_zero {l : Char} (h : Grouped ds [l]) (hl : l = '0' ∨ l = '_') :
    l = '0' ∧ ds = ['0'] := by
  have hdigit : l = '0' := by
    obtain ⟨d, _, _, rfl, heq, hd⟩ := h.exists_cons
    cases heq
    exact hl.resolve_right (isDigit_ne hd).1
  subst hdigit
  cases h with
  | last _ => exact ⟨rfl, rfl⟩
  | next _ h =>
      obtain ⟨_, _, _, _, heq, _⟩ := h.exists_cons
      cases heq

theorem amount_zero : amount ['0'] = 0 := by decide

theorem numeral_of_minus (hbody : body? cs = some out)
    (hread : plainInteger (withoutGaps ('-' :: out)) = .ok n) : IntegerNumeral ('-' :: cs) n := by
  rcases plainInteger_clean_iff.mp hread with
    ⟨ds, hds, _⟩ | ⟨gap, written, ds, heq, hgap, hds, hplain, hfits, rfl⟩
  · obtain ⟨d, _, _, _, heq, hd⟩ := hds.exists_cons
    cases heq
    cases hd
  · obtain rfl : out = gap ++ written := by simpa using heq
    have hpoint : '.' ∉ gap ++ written := by
      rcases hgap with rfl | rfl <;> simpa using hds.point_notMem
    obtain ⟨d, ds', written', rfl, rfl, hd⟩ := hds.exists_cons
    rcases (body?_eq_some_iff hpoint).mp hbody with
      ⟨tail, htail, ⟨zeros, c, hzeros, rfl, hhead, hc⟩ | ⟨zeros, l, hzeros, hl, rfl⟩⟩
    · rcases hgap with rfl | rfl
      · cases hhead
        have hleading := hc.resolve_right fun h => (isDigit_ne hd).2.1 h.1
        exact .minus hzeros hds (fun heq => hleading.ne.1 (Option.some.inj heq)) hfits htail
      · cases hhead
        rcases hc with hc | hc
        · exact absurd rfl hc.ne.2.1
        · cases hc.1
    · rcases hgap with rfl | rfl
      · rw [List.nil_append] at hl
        rw [hl] at hds
        obtain ⟨rfl, hzero⟩ := hds.eq_zero (hzeros.2 l (by simp))
        rw [hzero, amount_zero]
        exact .zero (Or.inr (Or.inr rfl)) hzeros htail
      · cases hl

theorem numeral_of_unsigned (hsign : sign = [] ∨ sign = ['+']) (hbody : body? cs = some out)
    (hread : plainInteger (withoutGaps out) = .ok n) : IntegerNumeral (sign ++ cs) n := by
  rcases plainInteger_clean_iff.mp hread with
    ⟨ds, hds, hplain, hfits, rfl⟩ | ⟨gap, written, ds, rfl, hgap, hds, hplain, hfits, rfl⟩
  · rcases (body?_eq_some_iff hds.point_notMem).mp hbody with
      ⟨tail, htail, ⟨zeros, c, hzeros, rfl, hhead, hc⟩ | ⟨zeros, l, hzeros, rfl, rfl⟩⟩
    · obtain ⟨d, ds', written', rfl, rfl, hd⟩ := hds.exists_cons
      cases hhead
      have hleading := hc.resolve_right fun h => (isDigit_ne hd).2.1 h.1
      exact .plus hsign hzeros hds (fun heq => hleading.ne.1 (Option.some.inj heq)) hfits htail
    · obtain ⟨rfl, rfl⟩ := hds.eq_zero (hzeros.2 l (by simp))
      exact .zero (hsign.imp_right Or.inl) hzeros htail
  · have hpoint : '.' ∉ '-' :: (gap ++ written) := by
      rcases hgap with rfl | rfl <;> simpa using hds.point_notMem
    rcases (body?_eq_some_iff hpoint).mp hbody with
      ⟨tail, htail, ⟨zeros, c, hzeros, rfl, hhead, hc⟩ | ⟨zeros, l, hzeros, hl, rfl⟩⟩
    · cases hhead
      have hsome : zeros ≠ [] := (hc.resolve_left fun h => h.ne.2.2.2.1 rfl).2
      have hnumeral := IntegerNumeral.behind hsign (hzeros.resolve_left hsome) hgap hds hplain
        hfits htail
      simpa using hnumeral
    · obtain ⟨d, _, _, _, rfl, _⟩ := hds.exists_cons
      simp at hl

/-- Integers are read from the texts that write one, and from no other. -/
theorem cleanInteger?_reads_iff :
    (∃ out, cleanInteger? cs = some out ∧ plainInteger out = .ok n) ↔ IntegerNumeral cs n := by
  constructor
  · rintro ⟨out, hclean, hread⟩
    rcases cleanInteger?_cases hclean with
      ⟨body, rest, rfl, hbody, rfl⟩ | ⟨sign, body, rest, hsign, rfl, hbody, rfl⟩
    · exact numeral_of_minus hbody hread
    · exact numeral_of_unsigned hsign hbody hread
  · intro h
    cases h with
    | @plus sign zeros written tail ds hsign hzeros hds hfirst hfits htail =>
        obtain ⟨c, hhead, hc⟩ := hds.exists_isLeading hfirst
        have hbody := (body?_eq_some_iff hds.point_notMem).mpr
          ⟨tail, htail, Or.inl ⟨zeros, c, hzeros, rfl, hhead, Or.inl hc⟩⟩
        exact ⟨_, cleanInteger?_unsigned hsign hbody,
          plainInteger_clean_iff.mpr (Or.inl ⟨ds, hds, Or.inr hfirst, hfits, rfl⟩)⟩
    | @minus zeros written tail ds hzeros hds hfirst hfits htail =>
        obtain ⟨c, hhead, hc⟩ := hds.exists_isLeading hfirst
        have hbody := (body?_eq_some_iff hds.point_notMem).mpr
          ⟨tail, htail, Or.inl ⟨zeros, c, hzeros, rfl, hhead, Or.inl hc⟩⟩
        refine ⟨withoutGaps ('-' :: written), by rw [cleanInteger?_minus, hbody]; rfl, ?_⟩
        exact plainInteger_clean_iff.mpr
          (Or.inr ⟨[], written, ds, rfl, Or.inl rfl, hds, Or.inr hfirst, hfits, rfl⟩)
    | @zero sign zeros tail hsign hzeros htail =>
        have hdigit : Grouped ['0'] ['0'] := .last rfl
        have hbody := (body?_eq_some_iff hdigit.point_notMem).mpr
          ⟨tail, htail, Or.inr ⟨zeros, '0', hzeros, rfl, rfl⟩⟩
        rcases or_assoc.mpr hsign with hsign | rfl
        · exact ⟨_, cleanInteger?_unsigned hsign hbody, by decide⟩
        · exact ⟨withoutGaps ['-', '0'], by rw [List.singleton_append, cleanInteger?_minus, hbody]; rfl,
            by decide⟩
    | @behind sign zeros gap written tail ds hsign hzeros hgap hds hfirst hfits htail =>
        have hpoint : '.' ∉ '-' :: (gap ++ written) := by
          rcases hgap with rfl | rfl <;> simpa using hds.point_notMem
        have hsome : zeros ≠ [] := by
          rintro rfl
          cases hzeros.1
        have hbody := (body?_eq_some_iff hpoint).mpr
          ⟨tail, htail, Or.inl ⟨zeros, '-', Or.inr hzeros, rfl, rfl, Or.inr ⟨rfl, hsome⟩⟩⟩
        refine ⟨withoutGaps ('-' :: (gap ++ written)), ?_, ?_⟩
        · simpa using cleanInteger?_unsigned hsign hbody
        · exact plainInteger_clean_iff.mpr
            (Or.inr ⟨gap, written, ds, rfl, hgap, hds, hfirst, hfits, rfl⟩)

/-- Blanks around an integer do not matter. -/
theorem integerText_eq_ok_iff {s : String} : integerText s = .ok n ↔
    IntegerNumeral (Text.trimWhile Text.isNumeralBlank s.toList) n := by
  rw [← cleanInteger?_reads_iff, integerText]
  cases cleanInteger? (Text.trimWhile Text.isNumeralBlank s.toList) <;> simp

end Integers

end Coercion

end PhpAudit
