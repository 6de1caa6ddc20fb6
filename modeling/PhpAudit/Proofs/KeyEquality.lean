import Mathlib.Algebra.Order.Ring.Int
import Mathlib.Tactic.Linarith
import Mathlib.Tactic.Ring
import PhpAudit.Value.Basic

/-!
When two keys are the same. Numbers of different kinds are compared by value, so equality of keys is
not equality of values. It is told by what a key stands for: numbers are multiples of the least
positive double, or infinite, and an undefined number stands for nothing. Two keys are equal exactly
if they stand for the same, hence equality is symmetric and transitive, and a key equals itself
unless there is an undefined number in it.
-/

namespace PhpAudit

/-- An exact number, in multiples of the least positive double. -/
inductive Exact where
  | units (n : Int)
  | infinite (negative : Bool)
  deriving DecidableEq, Repr

namespace Exact

/-- The exponent of the least positive double, without its sign. -/
@[irreducible] def depth : Nat := 1074

theorem depth_eq : depth = 1074 := by rw [depth]

/-- The multiple that makes one. -/
def unitsPerOne : Nat := 2 ^ depth

theorem unitsPerOne_eq {a b : Nat} (h : a + b = 1074) : unitsPerOne = 2 ^ a * 2 ^ b := by
  rw [← Nat.pow_add, unitsPerOne, h.trans depth_eq.symm]

theorem unitsPerOne_pos : 0 < unitsPerOne := Nat.two_pow_pos _

end Exact

namespace Binary

open Exact (unitsPerOne unitsPerOne_eq unitsPerOne_pos)

/-- The exact number that is meant. Doubles have exponents from -1074 on. -/
def amount? : Binary → Option Exact
  | .finite negative significand exponent =>
      let n : Int := significand * 2 ^ (exponent + 1074).toNat
      some (.units (if negative then -n else n))
  | .infinite negative => some (.infinite negative)
  | .undefined => none

/-- The forms that doubles take: a significand has 53 bits, or fewer at the least exponent. -/
inductive Canonical : Binary → Prop where
  | subnormal {negative : Bool} {m : Nat} (h : m < 2 ^ 52) : Canonical (.finite negative m (-1074))
  | normal {negative : Bool} {m : Nat} {e : Int} (hlow : 2 ^ 52 ≤ m) (hhigh : m < 2 ^ 53)
      (he : -1074 ≤ e) : Canonical (.finite negative m e)
  | infinite {negative : Bool} : Canonical (.infinite negative)
  | undefined : Canonical .undefined

theorem canonical_ofFloat (x : Float) : (ofFloat x).Canonical := by
  simp only [ofFloat, Nat.pow_eq]
  split
  · split
    · exact .infinite
    · exact .undefined
  · split
    · exact .subnormal (Nat.mod_lt _ (by decide))
    · have hfraction := Nat.mod_lt x.toBits.toNat (show 0 < 2 ^ 52 by decide)
      exact .normal (by omega) (by omega) (by omega)

section Canonical

variable {s t : Bool} {m n : Nat} {e f : Int}

theorem Canonical.bounds (h : Canonical (.finite s m e)) :
    -1074 ≤ e ∧ m < 2 ^ 53 ∧ (-1074 < e → 2 ^ 52 ≤ m) := by
  cases h with
  | subnormal h => exact ⟨Int.le_refl _, by omega, fun he => absurd he (Int.lt_irrefl _)⟩
  | normal hlow hhigh he => exact ⟨he, hhigh, fun _ => hlow⟩

/-- A significand at a higher exponent counts for more than any at a lower one. -/
theorem Canonical.not_lt_of_mul_eq (h : Canonical (.finite s m e)) (h' : Canonical (.finite t n f))
    (heq : m * 2 ^ (e + 1074).toNat = n * 2 ^ (f + 1074).toNat) : ¬e < f := by
  intro hlt
  obtain ⟨hleast, hm, _⟩ := h.bounds
  have hn := h'.bounds.2.2 (by omega)
  obtain ⟨d, hd⟩ : ∃ d, (f + 1074).toNat = (e + 1074).toNat + 1 + d :=
    Nat.exists_eq_add_of_le (by omega)
  have hpos : 0 < 2 ^ (e + 1074).toNat := Nat.two_pow_pos _
  have hshift : m = n * 2 * 2 ^ d := by
    apply Nat.eq_of_mul_eq_mul_right hpos
    rw [heq, hd]
    ring
  have := Nat.le_mul_of_pos_right (n * 2) (Nat.two_pow_pos d)
  omega

theorem Canonical.eq_of_mul_eq (h : Canonical (.finite s m e)) (h' : Canonical (.finite t n f))
    (heq : m * 2 ^ (e + 1074).toNat = n * 2 ^ (f + 1074).toNat) : m = n ∧ e = f := by
  have hef : e = f := by
    have := h.not_lt_of_mul_eq h' heq
    have := h'.not_lt_of_mul_eq h heq.symm
    omega
  subst hef
  exact ⟨Nat.eq_of_mul_eq_mul_right (Nat.two_pow_pos _) heq, rfl⟩

end Canonical

/-- The fraction of a value, brought to the units of the least double. -/
theorem fraction_mul {m : Nat} {e : Int} (h : -1074 ≤ e) :
    0 < (fraction m e).2 ∧
      (fraction m e).1 * unitsPerOne = m * 2 ^ (e + 1074).toNat * (fraction m e).2 := by
  rw [fraction]
  split
  · next he =>
      obtain ⟨k, rfl⟩ := Int.eq_ofNat_of_zero_le he
      refine ⟨Nat.one_pos, ?_⟩
      rw [show ((k : Int) + 1074).toNat = k + 1074 by omega, Nat.pow_add,
        unitsPerOne_eq (Nat.add_zero 1074), Int.toNat_natCast, Nat.pow_eq]
      simp only [Nat.pow_zero, Nat.mul_one, Nat.mul_assoc]
  · next he =>
      refine ⟨Nat.two_pow_pos _, ?_⟩
      rw [unitsPerOne_eq (a := (e + 1074).toNat) (b := (-e).toNat) (by omega), Nat.mul_assoc]
      rfl

/-- An integer and a double compare as equal if they are the same multiple. -/
theorem compareInt?_eq_iff {b : Binary} (h : b.Canonical) (n : Int) :
    b.compareInt? n = some .eq ↔ b.amount? = some (.units (n * unitsPerOne)) := by
  cases b with
  | undefined => simp [compareInt?, amount?]
  | infinite negative => cases negative <;> simp [compareInt?, amount?]
  | finite negative m e =>
      obtain ⟨hpos, hmul⟩ := fraction_mul (m := m) h.bounds.1
      have hsigned (a b : Int) (hab : a * unitsPerOne = b * (fraction m e).2) :
          n * (fraction m e).2 = a ↔ b = n * unitsPerOne := by
        have hunit : (unitsPerOne : Int) ≠ 0 := by exact_mod_cast unitsPerOne_pos.ne'
        have hbelow : ((fraction m e).2 : Int) ≠ 0 := by exact_mod_cast hpos.ne'
        calc n * (fraction m e).2 = a
            ↔ n * (fraction m e).2 * unitsPerOne = a * unitsPerOne := (mul_left_inj' hunit).symm
          _ ↔ n * unitsPerOne * (fraction m e).2 = b * (fraction m e).2 := by
              rw [hab, mul_right_comm]
          _ ↔ n * unitsPerOne = b := mul_left_inj' hbelow
          _ ↔ b = n * unitsPerOne := eq_comm
      have hmul' : ((fraction m e).1 : Int) * unitsPerOne =
          (m : Int) * 2 ^ (e + 1074).toNat * (fraction m e).2 := by exact_mod_cast hmul
      simp only [compareInt?, amount?, Option.some.injEq, Exact.units.injEq, Int.compare_eq_eq]
      cases negative with
      | false => exact hsigned _ _ hmul'
      | true => exact hsigned _ _ (by simp only [if_true]; linarith)

section Unpacked

open Float.Model Float.Model.UnpackedFloat

def isNegative : Sign → Bool
  | .negative => true
  | .positive => false

/-- A double that has been taken apart. -/
def ofUnpacked : UnpackedFloat → Binary
  | .infinity sign => .infinite (isNegative sign)
  | .notANumber => .undefined
  | .zero sign => .finite (isNegative sign) 0 (-1074)
  | .finite sign mantissa exponent _ => .finite (isNegative sign) mantissa exponent

theorem isNegative_injective : Function.Injective isNegative := by
  intro s t h
  cases s <;> cases t <;> first | rfl | cases h

theorem ofUnpacked_injective : Function.Injective ofUnpacked := by
  intro a b h
  rcases a with s | _ | s | ⟨s, m, e, hm⟩ <;> rcases b with t | _ | t | ⟨t, n, f, hn⟩ <;>
    first
    | cases h
    | injection h with hsign hmantissa hexponent
    | injection h with hsign
  · cases isNegative_injective hsign
    rfl
  · rfl
  · cases isNegative_injective hsign
    rfl
  · omega
  · omega
  · cases isNegative_injective hsign
    cases hmantissa
    cases hexponent
    rfl

theorem ofUnpacked_eq_undefined_iff {a : UnpackedFloat} :
    ofUnpacked a = .undefined ↔ a = .notANumber := by
  rw [show Binary.undefined = ofUnpacked .notANumber from rfl, ofUnpacked_injective.eq_iff]

theorem ofUnpacked_eq_zero_iff {a : UnpackedFloat} :
    (∃ s e, ofUnpacked a = .finite s 0 e) ↔ ∃ s, a = .zero s := by
  constructor
  · rintro ⟨negative, e, h⟩
    rcases a with s | _ | s | ⟨s, m, e, hm⟩
    · cases h
    · cases h
    · exact ⟨s, rfl⟩
    · cases h
      cases hm
  · rintro ⟨s, rfl⟩
    exact ⟨_, _, rfl⟩

theorem toNat_toBits (x : Float) : x.toBits.toNat = x.toModel.toBits.toBitVec.toNat := rfl

theorem toNat_unpackExponent (x : Float) :
    (@unpackExponent .binary64 x.toModel.toBits.toBitVec).toNat =
      x.toBits.toNat / 2 ^ 52 % 2048 := by
  simp [unpackExponent, BitVec.extractLsb_toNat, Nat.shiftRight_eq_div_pow, toNat_toBits]

theorem toNat_unpackMantissa (x : Float) :
    (@unpackMantissa .binary64 x.toModel.toBits.toBitVec).toNat = x.toBits.toNat % 2 ^ 52 := by
  simp [unpackMantissa, BitVec.extractLsb_toNat, toNat_toBits]

theorem toNat_implicit_append (x : Float) :
    (1#1 ++ @unpackMantissa .binary64 x.toModel.toBits.toBitVec).toNat =
      2 ^ 52 + x.toBits.toNat % 2 ^ 52 := by
  rw [BitVec.toNat_append, ← Nat.shiftLeft_add_eq_or_of_lt (BitVec.isLt _), toNat_unpackMantissa]
  rfl

theorem isNegative_unpackSign (x : Float) :
    isNegative (Sign.ofBitVec (@unpackSign .binary64 x.toModel.toBits.toBitVec)) =
      decide (2 ^ 63 ≤ x.toBits.toNat) := by
  have hbits : x.toBits.toNat < 2 ^ 64 := x.toBits.toNat_lt
  have hsign : (@unpackSign .binary64 x.toModel.toBits.toBitVec).toNat =
      x.toBits.toNat / 2 ^ 63 % 2 := by
    show (x.toModel.toBits.toBitVec.extractLsb 63 63).toNat = _
    simp [BitVec.extractLsb_toNat, Nat.shiftRight_eq_div_pow, toNat_toBits]
  rw [Sign.ofBitVec]
  split
  · next h =>
      have hzero : x.toBits.toNat / 2 ^ 63 % 2 = 0 := by rw [← hsign, h]; rfl
      rw [decide_eq_false (by omega)]
      rfl
  · next h =>
      have hone : x.toBits.toNat / 2 ^ 63 % 2 ≠ 0 := by
        rw [← hsign]
        exact fun hzero => h (BitVec.eq_of_toNat_eq hzero)
      rw [decide_eq_true (by omega)]
      rfl

/-- Reading the bits of a double takes it apart. -/
theorem ofFloat_eq (x : Float) : ofFloat x = ofUnpacked x.toModel.unpack := by
  have hinfinite : (@unpackExponent .binary64 x.toModel.toBits.toBitVec = -1#11) ↔
      x.toBits.toNat / 2 ^ 52 % 2048 = 2047 := by
    rw [← toNat_unpackExponent, ← BitVec.toNat_inj]
    rfl
  have hsubnormal : (@unpackExponent .binary64 x.toModel.toBits.toBitVec = 0#11) ↔
      x.toBits.toNat / 2 ^ 52 % 2048 = 0 := by
    rw [← toNat_unpackExponent, ← BitVec.toNat_inj]
    rfl
  have hwhole : (@unpackMantissa .binary64 x.toModel.toBits.toBitVec = 0#52) ↔
      x.toBits.toNat % 2 ^ 52 = 0 := by
    rw [← toNat_unpackMantissa, ← BitVec.toNat_inj]
    rfl
  have hbias : ((Format.binary64.exponentBias : Nat) : Int) +
      (Format.binary64.mantissaBitsWithoutImplicit : Nat) = 1075 := rfl
  simp only [ofFloat, Float.Model.unpack, Nat.pow_eq]
  delta UnpackedFloat.unpack
  extract_lets mantissa exponent power signBit sign
  have hpower : power = ((x.toBits.toNat / 2 ^ 52 % 2048 : Nat) : Int) - 1075 := by
    rw [← toNat_unpackExponent, ← hbias]
  have hnegative : isNegative sign = decide (2 ^ 63 ≤ x.toBits.toNat) := isNegative_unpackSign x
  by_cases h1 : x.toBits.toNat / 2 ^ 52 % 2048 = 2047
  · by_cases h2 : x.toBits.toNat % 2 ^ 52 = 0
    · rw [if_pos h1, if_pos h2, if_pos (hinfinite.mpr h1), if_pos (hwhole.mpr h2), ← hnegative]
      rfl
    · rw [if_pos h1, if_neg h2, if_pos (hinfinite.mpr h1), if_neg (hwhole.not.mpr h2)]
      rfl
  · rw [if_neg h1, if_neg (hinfinite.not.mpr h1), ← hnegative]
    by_cases h2 : x.toBits.toNat / 2 ^ 52 % 2048 = 0
    · rw [if_pos h2, if_pos (hsubnormal.mpr h2)]
      by_cases h3 : x.toBits.toNat % 2 ^ 52 = 0
      · rw [dif_pos (hwhole.mpr h3), h3]
        rfl
      · rw [dif_neg (hwhole.not.mpr h3)]
        show _ = Binary.finite (isNegative sign) mantissa.toNat (power + 1)
        rw [hpower, h2, toNat_unpackMantissa]
        rfl
    · rw [if_neg h2, if_neg (hsubnormal.not.mpr h2), ← hpower, ← toNat_implicit_append]
      rfl

/-- Doubles that have been taken apart compare as equal if they are the same, or zeros. -/
theorem compare_eq_iff (a b : UnpackedFloat) :
    a.compare b = some .eq ↔ (a = b ∧ a ≠ .notANumber) ∨
      (∃ s, a = .zero s) ∧ ∃ t, b = .zero t := by
  constructor
  · intro h
    have hnumber : a ≠ .notANumber := by
      rintro rfl
      cases h
    suffices hsame : a = b ∨ (∃ s, a = .zero s) ∧ ∃ t, b = .zero t from
      hsame.imp_left fun hsame => ⟨hsame, hnumber⟩
    rcases a with (_ | _) | _ | s | ⟨_ | _, m, e, hm⟩ <;>
      rcases b with (_ | _) | _ | t | ⟨_ | _, n, f, hn⟩ <;>
      first
      | exact .inl rfl
      | exact .inr ⟨⟨_, rfl⟩, _, rfl⟩
      | cases h
      | left
    · have hthen := Ordering.swap_eq_eq.mp (Option.some.inj h)
      obtain ⟨he, hm⟩ := Ordering.then_eq_eq.mp hthen
      cases Std.compare_eq_iff_eq.mp he
      cases Std.compare_eq_iff_eq.mp hm
      rfl
    · obtain ⟨he, hm⟩ := Ordering.then_eq_eq.mp (Option.some.inj h)
      cases Std.compare_eq_iff_eq.mp he
      cases Std.compare_eq_iff_eq.mp hm
      rfl
  · rintro (⟨rfl, hnumber⟩ | ⟨⟨s, rfl⟩, t, rfl⟩)
    · have hsame (m : Nat) (e : Int) : (compare e e).then (compare m m) = .eq :=
        Ordering.then_eq_eq.mpr ⟨Std.compare_self, Std.compare_self⟩
      rcases a with (_ | _) | _ | s | ⟨_ | _, m, e, hm⟩
      · rfl
      · rfl
      · exact absurd rfl hnumber
      · rfl
      · exact congrArg some (congrArg Ordering.swap (hsame m e))
      · exact congrArg some (hsame m e)
    · rfl

end Unpacked

/-- Signed magnitudes are equal with their signs, or as zeros. -/
theorem signed_eq_iff (s t : Bool) (m n : Nat) :
    (if s then -(m : Int) else m) = (if t then -(n : Int) else n) ↔
      (s = t ∧ m = n) ∨ (m = 0 ∧ n = 0) := by
  cases s <;> cases t <;> simp <;> omega

/-- Doubles mean the same if they are the same, or zeros. -/
theorem exists_amount_iff {a b : Binary} (ha : a.Canonical) (hb : b.Canonical) :
    (∃ v, a.amount? = some v ∧ b.amount? = some v) ↔
      (a = b ∧ a ≠ .undefined) ∨
        (∃ s e, a = .finite s 0 e) ∧ ∃ t f, b = .finite t 0 f := by
  cases a with
  | undefined => simp [amount?]
  | infinite s => cases b <;> simp [amount?, eq_comm]
  | finite s m e =>
      cases b with
      | undefined => simp [amount?]
      | infinite t => simp [amount?]
      | finite t n f =>
          have hpow (k : Nat) : 2 ^ k ≠ 0 := (Nat.two_pow_pos k).ne'
          have hunits := signed_eq_iff s t (m * 2 ^ (e + 1074).toNat) (n * 2 ^ (f + 1074).toNat)
          simp only [Nat.mul_eq_zero, hpow, or_false] at hunits
          push_cast at hunits
          simp only [amount?, Option.some.injEq, exists_eq_left', Exact.units.injEq,
            Eq.comm (a := ite (t = true) _ _), hunits, Binary.finite.injEq]
          constructor
          · rintro (⟨hsign, hmul⟩ | ⟨hm, hn⟩)
            · obtain ⟨hm, he⟩ := ha.eq_of_mul_eq hb hmul
              exact Or.inl ⟨⟨hsign, hm, he⟩, by rintro ⟨⟩⟩
            · exact Or.inr ⟨⟨s, e, rfl, hm, rfl⟩, t, f, rfl, hn, rfl⟩
          · rintro (⟨⟨hsign, hm, he⟩, _⟩ | ⟨⟨_, _, _, hm, _⟩, _, _, _, hn, _⟩)
            · exact Or.inl ⟨hsign, by rw [hm, he]⟩
            · exact Or.inr ⟨hm, hn⟩

end Binary

namespace Value

namespace Num

/-- The exact number that is meant; an undefined one means none. -/
def amount? : Num → Option Exact
  | .int n => some (.units (n * Exact.unitsPerOne))
  | .float x => (Binary.ofFloat x).amount?

theorem float_beq_iff_compare (x y : Float) :
    (x == y) = true ↔ x.toModel.unpack.compare y.toModel.unpack = some .eq := by
  change (x.toModel.unpack.compare y.toModel.unpack == some .eq) = true ↔ _
  exact beq_iff_eq

/-- Doubles are equal if they mean the same number. -/
theorem float_beq_iff (x y : Float) :
    (x == y) = true ↔
      ∃ v, (Binary.ofFloat x).amount? = some v ∧ (Binary.ofFloat y).amount? = some v := by
  rw [float_beq_iff_compare, Binary.compare_eq_iff,
    Binary.exists_amount_iff (Binary.canonical_ofFloat x) (Binary.canonical_ofFloat y),
    Binary.ofFloat_eq, Binary.ofFloat_eq, Binary.ofUnpacked_injective.eq_iff, Ne, Ne,
    Binary.ofUnpacked_eq_undefined_iff, Binary.ofUnpacked_eq_zero_iff,
    Binary.ofUnpacked_eq_zero_iff]

/-- Of equal doubles neither is less than the other. -/
theorem not_lt_of_beq {x y : Float} (h : (x == y) = true) : ¬x < y := by
  intro hlt
  have hmodel : x.toModel < y.toModel := of_decide_eq_true hlt
  change (x.toModel.unpack.compare y.toModel.unpack == some .lt) = true at hmodel
  rw [(float_beq_iff_compare x y).mp h] at hmodel
  cases hmodel

theorem equals_float_iff (x y : Float) :
    (Num.float x).equals (.float y) = true ↔ (x == y) = true := by
  rw [equals, compare?, beq_iff_eq]
  cases h : x == y with
  | true =>
      have hsymm : (y == x) = true := by
        obtain ⟨v, hx, hy⟩ := (float_beq_iff x y).mp h
        exact (float_beq_iff y x).mpr ⟨v, hy, hx⟩
      rw [if_neg (not_lt_of_beq h), if_neg (not_lt_of_beq hsymm), if_pos rfl]
      simp
  | false =>
      rw [if_neg Bool.false_ne_true]
      split
      · simp
      · split <;> simp

/-- Numbers are equal if they mean the same. -/
theorem equals_iff (a b : Num) :
    a.equals b = true ↔ ∃ v, a.amount? = some v ∧ b.amount? = some v := by
  have hunit : (Exact.unitsPerOne : Int) ≠ 0 := by exact_mod_cast Exact.unitsPerOne_pos.ne'
  cases a with
  | int m =>
      cases b with
      | int n =>
          simp only [equals, compare?, amount?, beq_iff_eq, Option.some.injEq, Int.compare_eq_eq,
            exists_eq_left', Exact.units.injEq, mul_left_inj' hunit]
          exact eq_comm
      | float y =>
          rw [equals, compare?, beq_iff_eq, Binary.compareInt?_eq_iff (Binary.canonical_ofFloat y)]
          simp [amount?]
  | float x =>
      cases b with
      | int n =>
          have hswap : (Binary.compareInt? n (Binary.ofFloat x)).map Ordering.swap = some .eq ↔
              Binary.compareInt? n (Binary.ofFloat x) = some .eq := by
            cases Binary.compareInt? n (Binary.ofFloat x) with
            | none => simp
            | some o => cases o <;> simp
          rw [equals, compare?, beq_iff_eq, hswap,
            Binary.compareInt?_eq_iff (Binary.canonical_ofFloat x)]
          simp [amount?]
      | float y => exact (equals_float_iff x y).trans (float_beq_iff x y)

end Num

/-- What a key stands for. -/
inductive Face where
  | null
  | number (v : Exact)
  | text (s : String)
  | bytes (b : Bytes)
  | tuple (faces : List Face)
  | severity (s : Severity)
  | category (c : Category)
  | object (mark : Nat)

mutual

/-- What a value stands for as a key; a key with an undefined number in it stands for nothing. -/
def face? : Value → Option Face
  | .null => some .null
  | .bool b => (Num.amount? (.int (if b then 1 else 0))).map .number
  | .int n => (Num.amount? (.int n)).map .number
  | .float x => (Num.amount? (.float x)).map .number
  | .text s => some (.text s)
  | .bytes b => some (.bytes b)
  | .list _ => none
  | .tuple items => (faces? items).map .tuple
  | .map _ => none
  | .severity s => some (.severity s)
  | .category c => some (.category c)
  | .object thing => some (.object thing.mark)

def faces? : List Value → Option (List Face)
  | [] => some []
  | v :: rest => (face? v).bind fun f => (faces? rest).map (f :: ·)

end

theorem faces?_cons_eq_some_iff {v : Value} {vs : List Value} {faces : List Face} :
    faces? (v :: vs) = some faces ↔
      ∃ f fs, face? v = some f ∧ faces? vs = some fs ∧ faces = f :: fs := by
  simp only [faces?, Option.bind_eq_some_iff, Option.map_eq_some_iff]
  constructor
  · rintro ⟨f, hf, fs, hfs, rfl⟩
    exact ⟨f, fs, hf, hfs, rfl⟩
  · rintro ⟨f, fs, hf, hfs, rfl⟩
    exact ⟨f, hf, fs, hfs, rfl⟩

theorem unkeyableIn?_cons_eq_none_iff {v : Value} {vs : List Value} :
    unkeyableIn? (v :: vs) = none ↔ v.unkeyable? = none ∧ unkeyableIn? vs = none := by
  rw [unkeyableIn?]
  cases v.unkeyable? <;> simp

mutual

/-- Keys are equal if they stand for the same. -/
theorem equals_iff : ∀ {v w : Value}, v.unkeyable? = none → w.unkeyable? = none →
    (v.equals w = true ↔ ∃ f, v.face? = some f ∧ w.face? = some f)
  | .list _, _, h, _ => by cases h
  | .map _, _, h, _ => by cases h
  | .tuple vs, w, h, h' => by
      cases w with
      | tuple ws =>
          have hparts := @equalsAll_iff vs ws h h'
          rw [equals, hparts]
          simp only [face?, Option.map_eq_some_iff]
          constructor
          · rintro ⟨fs, hvs, hws⟩
            exact ⟨.tuple fs, ⟨fs, hvs, rfl⟩, fs, hws, rfl⟩
          · rintro ⟨_, ⟨fs, hvs, rfl⟩, fs', hws, hfs⟩
            cases hfs
            exact ⟨fs, hvs, hws⟩
      | _ => simp [equals, num?, face?]
  | .null, w, _, h' => by
      cases w <;> simp_all [equals, num?, face?]
  | .bool b, w, _, h' => by
      cases w <;> simp_all [equals, num?, face?, Num.equals_iff]
  | .int n, w, _, h' => by
      cases w <;> simp_all [equals, num?, face?, Num.equals_iff]
  | .float x, w, _, h' => by
      cases w <;> simp_all [equals, num?, face?, Num.equals_iff]
  | .text s, w, _, h' => by
      cases w with
      | text => simpa [equals, face?] using eq_comm
      | _ => simp_all [equals, num?, face?]
  | .bytes b, w, _, h' => by
      cases w with
      | bytes => simpa [equals, face?] using eq_comm
      | _ => simp_all [equals, num?, face?]
  | .severity s, w, _, h' => by
      cases w with
      | severity => simpa [equals, face?] using eq_comm
      | _ => simp_all [equals, num?, face?]
  | .category c, w, _, h' => by
      cases w with
      | category => simpa [equals, face?] using eq_comm
      | _ => simp_all [equals, num?, face?]
  | .object thing, w, _, h' => by
      cases w with
      | object => simpa [equals, face?] using eq_comm
      | _ => simp_all [equals, num?, face?]

theorem equalsAll_iff : ∀ {vs ws : List Value}, unkeyableIn? vs = none → unkeyableIn? ws = none →
    (equalsAll vs ws = true ↔ ∃ fs, faces? vs = some fs ∧ faces? ws = some fs)
  | [], ws, _, _ => by
      cases ws with
      | nil => simp [equalsAll, faces?]
      | cons w ws => simp [equalsAll, faces?_cons_eq_some_iff, faces?.eq_1]
  | v :: vs, [], _, _ => by
      simp [equalsAll, faces?_cons_eq_some_iff, faces?.eq_1]
  | v :: vs, w :: ws, h, h' => by
      obtain ⟨hv, hvs⟩ := unkeyableIn?_cons_eq_none_iff.mp h
      obtain ⟨hw, hws⟩ := unkeyableIn?_cons_eq_none_iff.mp h'
      rw [equalsAll, Bool.and_eq_true, equals_iff hv hw, equalsAll_iff hvs hws]
      simp only [faces?_cons_eq_some_iff]
      constructor
      · rintro ⟨⟨f, hf, hf'⟩, fs, hfs, hfs'⟩
        exact ⟨f :: fs, ⟨f, fs, hf, hfs, rfl⟩, f, fs, hf', hfs', rfl⟩
      · rintro ⟨_, ⟨f, fs, hf, hfs, rfl⟩, g, gs, hg, hgs, heq⟩
        cases heq
        exact ⟨⟨f, hf, hg⟩, fs, hfs, hgs⟩

end

section Keys

variable {u v w : Value}

theorem equals_symm (hv : v.unkeyable? = none) (hw : w.unkeyable? = none)
    (h : v.equals w = true) : w.equals v = true := by
  obtain ⟨f, hf, hf'⟩ := (equals_iff hv hw).mp h
  exact (equals_iff hw hv).mpr ⟨f, hf', hf⟩

theorem equals_trans (hu : u.unkeyable? = none) (hv : v.unkeyable? = none)
    (hw : w.unkeyable? = none) (h : u.equals v = true) (h' : v.equals w = true) :
    u.equals w = true := by
  obtain ⟨f, hu', hv'⟩ := (equals_iff hu hv).mp h
  obtain ⟨g, hg, hw'⟩ := (equals_iff hv hw).mp h'
  cases hv'.symm.trans hg
  exact (equals_iff hu hw).mpr ⟨f, hu', hw'⟩

end Keys

end Value

end PhpAudit
