import Mathlib.Data.Nat.Digits.Lemmas
import PhpAudit.Proofs.TreePositions
import PhpAudit.Proofs.UnusedImports

/-!
Integer literals: which number a spelling stands for, and which literals of a file should have a
name. The spellings are given by rules of their own, without a reader: digits of one base, with
underscores between them, behind the mark of the base. A literal is read as the number its digits
make up, in whatever case and with whatever blanks around it is written.
-/

namespace PhpAudit

namespace Text

theorem dropEndWhile_append_of_all {p : Char → Bool} (front : List Char) {back : List Char}
    (h : ∀ c ∈ back, p c = true) : dropEndWhile p (front ++ back) = dropEndWhile p front := by
  rw [dropEndWhile, List.reverse_append, List.dropWhile_append_of_pos, dropEndWhile]
  intro c hc
  exact h c (List.mem_reverse.mp hc)

theorem dropEndWhile_eq_self {p : Char → Bool} {cs : List Char} (h : ∀ c ∈ cs, p c = false) :
    dropEndWhile p cs = cs := by
  apply List.rdropWhile_eq_self_iff.mpr
  intro hne
  rw [h _ (List.getLast_mem hne)]
  exact Bool.false_ne_true

theorem mem_dropEndWhile {p : Char → Bool} {cs : List Char} {c : Char} (hc : c ∈ cs)
    (h : p c = false) : c ∈ dropEndWhile p cs := by
  rw [← List.rdropWhile_append_rtakeWhile (p := p) (l := cs)] at hc
  rcases List.mem_append.mp hc with hkept | hdropped
  · exact hkept
  · have hblank := List.mem_rtakeWhile_imp hdropped
    rw [h] at hblank
    cases hblank

theorem dropEndWhile_subset {p : Char → Bool} {cs : List Char} : dropEndWhile p cs ⊆ cs :=
  (dropEndWhile_begins p cs).subset

theorem trimChars_padded {before after : List Char} (hbefore : ∀ c ∈ before, isBlank c = true)
    (hafter : ∀ c ∈ after, isBlank c = true) {c : Char} (hc : isBlank c = false)
    (rest : List Char) :
    trimChars (before ++ (c :: rest) ++ after) = c :: dropEndWhile isBlank rest := by
  have hfront : (before ++ (c :: rest) ++ after).dropWhile isBlank = c :: (rest ++ after) := by
    rw [List.append_assoc, List.dropWhile_append_of_pos hbefore, List.cons_append,
      List.dropWhile_cons_of_neg (by simp [hc])]
  rw [trimChars, trimWhile, hfront, ← List.nil_append (c :: (rest ++ after)),
    dropEndWhile_append [] hc, List.nil_append, dropEndWhile_append_of_all rest hafter]

theorem lowerFrom_cons_ascii (before : List Char) {c : Char} (h : c.toNat < 0x80)
    (rest : List Char) : lowerFrom before (c :: rest) = c.toLower :: lowerFrom (c :: before) rest := by
  rw [lowerFrom, if_neg (by omega), lowerChar, if_pos h, List.singleton_append]

theorem lowerFrom_ascii (before : List Char) {cs : List Char} (h : ∀ c ∈ cs, c.toNat < 0x80) :
    lowerFrom before cs = cs.map Char.toLower := by
  induction cs generalizing before with
  | nil => rfl
  | cons c rest ih =>
      obtain ⟨hascii, hrest⟩ := List.forall_mem_cons.mp h
      rw [lowerFrom_cons_ascii before hascii, ih _ hrest, List.map_cons]

/-- What is small already stays. -/
theorem mem_lowerFrom (before : List Char) {cs : List Char} {c : Char} (hc : c ∈ cs)
    (hascii : c.toNat < 0x80) (hlower : c.toLower = c) : c ∈ lowerFrom before cs := by
  induction cs generalizing before with
  | nil => cases hc
  | cons first rest ih =>
      rcases List.mem_cons.mp hc with rfl | hrest
      · rw [lowerFrom_cons_ascii before hascii, hlower]
        exact List.mem_cons_self
      · rw [lowerFrom]
        split
        · exact List.mem_cons_of_mem _ (ih _ hrest)
        · exact List.mem_append_right _ (ih _ hrest)

end Text

namespace Numeral

theorem digit?_eq_filter {base : Nat} (hbase : base ≤ 36) (c : Char) :
    digit? base c = (digit? 36 c).filter (· < base) := by
  unfold digit?
  dsimp only
  rw [Option.filter_filter]
  congr 1
  funext d
  have hless : d < base → d < 36 := fun h => h.trans_le hbase
  by_cases h : d < base
  · simp [h, hless h]
  · simp [h]

/-- The digits up to fifteen: a character for each, small or capital, and what is needed of it. -/
theorem digitChar_cases (digit : Fin 16) :
    digit? 36 (Nat.digitChar digit) = some digit.val ∧
      ∀ c ∈ [Nat.digitChar digit, (Nat.digitChar digit).toUpper],
        c.toNat < 0x80 ∧ c.toLower = Nat.digitChar digit ∧ Text.isBlank c = false ∧
          c ≠ '_' ∧ c ≠ '-' ∧ c ≠ '+' := by
  rw [List.forall_mem_cons, List.forall_mem_singleton]
  revert digit
  decide

theorem digit?_digitChar {base digit : Nat} (hbase : base ≤ 16) (h : digit < base) :
    digit? base (Nat.digitChar digit) = some digit := by
  have hread := (digitChar_cases ⟨digit, by omega⟩).1
  rw [digit?_eq_filter (by omega), hread, Option.filter_some, if_pos (by simpa using h)]

theorem digits?_digitChars {base : Nat} (hbase : base ≤ 16) {digits : List Nat}
    (hne : digits ≠ []) (h : ∀ digit ∈ digits, digit < base) :
    digits? base (digits.map Nat.digitChar) = some digits := by
  have hmap : (digits.map Nat.digitChar).mapM (digit? base) = some digits := by
    clear hne
    induction digits with
    | nil => rfl
    | cons first rest ih =>
        obtain ⟨hfirst, hrest⟩ := List.forall_mem_cons.mp h
        simp [digit?_digitChar hbase hfirst, ih hrest]
  rw [digits?, if_neg (by simpa using hne), hmap]

theorem digits?_eq_none_of_mem {base : Nat} {cs : List Char} {c : Char} (hc : c ∈ cs)
    (h : digit? base c = none) : digits? base cs = none := by
  have hmap : cs.mapM (digit? base) = none := by
    induction cs with
    | nil => cases hc
    | cons first rest ih =>
        rcases List.mem_cons.mp hc with rfl | hrest
        · simp [h]
        · simp [ih hrest]
  rw [digits?, hmap, ite_self]

theorem ofDigits_eq (base : Nat) (digits : List Nat) :
    ofDigits base digits = Nat.ofDigits base digits.reverse := by
  rw [ofDigits, Nat.ofDigits_eq_foldr, List.foldr_reverse]
  congr 1
  funext n d
  rw [Nat.cast_id, Nat.mul_comm, Nat.add_comm]

/-- No letter beyond f, and nothing outside the digits of every script, is a digit. -/
theorem digit?_eq_none_of_code {base : Nat} (hbase : base ≤ 16) {c : Char}
    (hletter : c.toNat = 0 ∨ 0x67 ≤ c.toNat)
    (hdigit : ∀ start ∈ Text.digitZeros, c.toNat < start ∨ start + 10 ≤ c.toNat) :
    digit? base c = none := by
  have hvalue : Text.digitValue? c = none := by
    have hother : ¬c.isDigit = true := by
      rw [Char.isDigit_iff_toNat]
      change ¬(48 ≤ c.toNat ∧ c.toNat ≤ 57)
      omega
    have hfind : Text.digitZeros.find? (fun start =>
        decide (start ≤ c.toNat ∧ c.toNat < start + 10)) = none := by
      apply List.find?_eq_none.mpr
      intro start hstart
      have := hdigit start hstart
      simp only [decide_eq_true_eq]
      omega
    rw [Text.digitValue?, if_neg hother, hfind, Option.map_none, ite_self]
  have hcapital : ¬('A' ≤ c ∧ c ≤ 'Z') := by
    rw [Char.le_def, Char.le_def, UInt32.le_iff_toNat_le, UInt32.le_iff_toNat_le]
    change ¬(65 ≤ c.toNat ∧ c.toNat ≤ 90)
    omega
  unfold digit?
  simp only [hvalue, if_neg hcapital]
  split
  · next hsmall =>
      have hfrom : 97 ≤ c.toNat := UInt32.le_iff_toNat_le.mp (Char.le_def.mp hsmall.1)
      apply Option.filter_eq_none_iff.mpr
      intro value hvalue
      cases hvalue
      simp only [Char.reduceToNat, decide_eq_true_eq]
      omega
  · rfl

theorem digit?_toLower {base : Nat} (hbase : base ≤ 36) {c : Char} (h : c.toNat < 0x80) :
    digit? base c.toLower = digit? base c := by
  have hall : ∀ code : Fin 0x80,
      digit? 36 (Char.ofNat code).toLower = digit? 36 (Char.ofNat code) := by decide
  have hsame := hall ⟨c.toNat, h⟩
  rw [Char.ofNat_toNat] at hsame
  rw [digit?_eq_filter hbase, hsame, ← digit?_eq_filter hbase]

/-- A run of capital letters beyond ASCII becomes no digits, of whatever script. -/
def sparesDigits (run : Text.CaseRun) : Bool :=
  let first := ((run.first : Int) + run.shift).toNat
  let last := ((run.last : Int) + run.shift).toNat
  Nat.ble 0x67 first &&
    Text.digitZeros.all fun start => Nat.blt last start || Nat.ble (start + 10) first

theorem lowerRuns_spareDigits :
    (Text.lowerRuns.all fun run => Nat.blt run.last 0x80 || sparesDigits run) = true := by
  decide +kernel

theorem digit?_ofNat_eq_none {base : Nat} (hbase : base ≤ 16) {code : Nat} (hletter : 0x67 ≤ code)
    (hdigit : ∀ start ∈ Text.digitZeros, code < start ∨ start + 10 ≤ code) :
    digit? base (Char.ofNat code) = none := by
  -- a code that is no character's gives the one with code zero
  have hchar : (Char.ofNat code).toNat = code ∨ (Char.ofNat code).toNat = 0 := by
    by_cases hvalid : code.isValidChar
    · rw [Char.ofNat, dif_pos hvalid]
      exact .inl rfl
    · rw [Char.ofNat, dif_neg hvalid]
      exact .inr rfl
  have hpositive : ∀ start ∈ Text.digitZeros, 0 < start := by decide
  apply digit?_eq_none_of_code hbase
  · omega
  · intro start hstart
    have := hdigit start hstart
    have := hpositive start hstart
    omega

theorem digit?_shiftCase {base : Nat} (hbase : base ≤ 16) {c : Char} (hascii : 0x80 ≤ c.toNat)
    (h : digit? base c = none) : digit? base (Text.shiftCase Text.lowerRuns c) = none := by
  unfold Text.shiftCase
  cases hfound : Text.lowerRuns.findSome? (·.mapped? c.toNat) with
  | none => exact h
  | some code =>
      obtain ⟨run, hrun, hmapped⟩ := List.exists_of_findSome?_eq_some hfound
      unfold Text.CaseRun.mapped? at hmapped
      split at hmapped
      · next hcovers =>
          have hspares := List.all_eq_true.mp lowerRuns_spareDigits run hrun
          have hbeyond : Nat.blt run.last 0x80 = false := by
            rw [← Bool.not_eq_true, Nat.blt_eq]
            omega
          rw [hbeyond, Bool.false_or, sparesDigits, Bool.and_eq_true, List.all_eq_true] at hspares
          have hcode : code = ((c.toNat : Int) + run.shift).toNat := (Option.some.inj hmapped).symm
          have hfirst := Nat.le_of_ble_eq_true hspares.1
          apply digit?_ofNat_eq_none hbase
          · omega
          · intro start hstart
            have hapart := hspares.2 start hstart
            rw [Bool.or_eq_true, Nat.blt_eq, Nat.ble_eq] at hapart
            omega
      · cases hmapped

/-- A character may have a value as a letter that no base up to sixteen has. -/
theorem digit?_eq_none_of_large {base : Nat} (hbase : base ≤ 16) {c : Char}
    (h : (digit? 36 c).all (16 ≤ ·) = true) : digit? base c = none := by
  rw [digit?_eq_filter (by omega), Option.filter_eq_none_iff]
  intro value hvalue
  rw [hvalue] at h
  have hlarge : 16 ≤ value := of_decide_eq_true h
  simp only [decide_eq_true_eq]
  omega

end Numeral

namespace Text

theorem digit?_of_mem_lowerChar {base : Nat} (hbase : base ≤ 16) {c x : Char}
    (h : Numeral.digit? base c = none) (hx : x ∈ lowerChar c) : Numeral.digit? base x = none := by
  unfold lowerChar at hx
  split at hx
  · next hascii =>
      rw [List.mem_singleton.mp hx, Numeral.digit?_toLower (by omega) hascii]
      exact h
  · next hwide =>
      split at hx
      · -- the capital i with a dot becomes a small i and a dot
        have hdotted : ∀ d ∈ ['i', Char.ofNat 0x307],
            (Numeral.digit? 36 d).all (16 ≤ ·) = true := by
          rw [List.forall_mem_cons, List.forall_mem_singleton]
          decide
        exact Numeral.digit?_eq_none_of_large hbase (hdotted x hx)
      · rw [List.mem_singleton.mp hx]
        exact Numeral.digit?_shiftCase hbase (by omega) h

/-- Lower case makes a digit of nothing that is none. -/
theorem digit?_of_mem_lowerFrom {base : Nat} (hbase : base ≤ 16) (before : List Char)
    {cs : List Char} (h : ∀ c ∈ cs, Numeral.digit? base c = none) {x : Char}
    (hx : x ∈ lowerFrom before cs) : Numeral.digit? base x = none := by
  induction cs generalizing before with
  | nil => cases hx
  | cons c rest ih =>
      obtain ⟨hc, hrest⟩ := List.forall_mem_cons.mp h
      rw [lowerFrom] at hx
      split at hx
      · rcases List.mem_cons.mp hx with rfl | hlater
        · -- either small sigma
          split
          · exact Numeral.digit?_eq_none_of_large hbase (by decide)
          · exact Numeral.digit?_eq_none_of_large hbase (by decide)
        · exact ih _ hrest hlater
      · rcases List.mem_append.mp hx with hhere | hlater
        · exact digit?_of_mem_lowerChar hbase hc hhere
        · exact ih _ hrest hlater

end Text

namespace IntLiteral

/-- A letter behind a zero that tells the base. -/
inductive Mark where
  | hexadecimal
  | binary
  | octal

namespace Mark

def letter : Mark → Char
  | .hexadecimal => 'x'
  | .binary => 'b'
  | .octal => 'o'

def base : Mark → Nat
  | .hexadecimal => 16
  | .binary => 2
  | .octal => 8

theorem base_le (mark : Mark) : mark.base ≤ 16 := by
  cases mark <;> decide

/-- Whether a character is the letter of the mark, small or capital. -/
def IsWritten (mark : Mark) (c : Char) : Prop := c = mark.letter ∨ c = mark.letter.toUpper

end Mark

/-- The forms of a literal: decimal, with a mark, or in octal digits behind a bare zero. -/
inductive Form where
  | decimal
  | marked (mark : Mark)
  | leadingZero

/-- Whether a character is the given digit of a base, as a small or a capital letter. -/
def IsDigit (base digit : Nat) (c : Char) : Prop :=
  digit < base ∧ (c = Nat.digitChar digit ∨ c = (Nat.digitChar digit).toUpper)

/-- The digits, at least one, that are left of a text without its underscores. -/
def Shows (base : Nat) (digits : List Nat) (cs : List Char) : Prop :=
  digits ≠ [] ∧ List.Forall₂ (IsDigit base) digits (cs.filter (· != '_'))

/-- How a number is spelled. A decimal literal starts with zero only if it is zero, and has at most
4300 digits; the others may have any number of zeros in front. -/
inductive Spells : Form → Nat → List Char → Prop where
  | decimal {digits : List Nat} {cs : List Char} (hdigits : Shows 10 digits cs)
      (hzero : digits = [0] ∨ digits.head? ≠ some 0) (hlength : digits.length ≤ 4300) :
      Spells .decimal (Nat.ofDigits 10 digits.reverse) cs
  | marked {mark : Mark} {letter : Char} {digits : List Nat} {cs : List Char}
      (hletter : mark.IsWritten letter) (hdigits : Shows mark.base digits cs) :
      Spells (.marked mark) (Nat.ofDigits mark.base digits.reverse) ('0' :: letter :: cs)
  | leadingZero {digits : List Nat} {cs : List Char} (hdigits : Shows 8 digits cs) :
      Spells .leadingZero (Nat.ofDigits 8 digits.reverse) ('0' :: cs)

/-- A decimal digit that a base does not have. -/
def IsBeyond (base : Nat) (c : Char) : Prop := c.isDigit = true ∧ base ≤ c.toNat - '0'.toNat

/-- Spellings of nothing: a digit beyond the base, or a mark without a digit behind it. -/
inductive Misspells : List Char → Prop where
  | beyondMark {mark : Mark} {letter c : Char} {cs : List Char} (hletter : mark.IsWritten letter)
      (hc : c ∈ cs) (hbeyond : IsBeyond mark.base c) : Misspells ('0' :: letter :: cs)
  | beyondOctal {c : Char} {cs : List Char} (hcs : ∀ c ∈ cs, c.isDigit = true ∨ c = '_')
      (hc : c ∈ cs) (hbeyond : IsBeyond 8 c) : Misspells ('0' :: cs)
  | noDigit {mark : Mark} {letter : Char} {cs : List Char} (hletter : mark.IsWritten letter)
      (hcs : ∀ c ∈ cs, Numeral.digit? mark.base c = none) : Misspells ('0' :: letter :: cs)

/-- A text with nothing but blanks around the given characters. -/
def Pads (cs : List Char) (text : String) : Prop :=
  ∃ before after, text.toList = before ++ cs ++ after ∧
    ∀ c ∈ before ++ after, Text.isBlank c = true

theorem Mark.IsWritten.cases {mark : Mark} {letter : Char} (h : mark.IsWritten letter) :
    letter.toNat < 0x80 ∧ letter.toLower = mark.letter ∧ Text.isBlank letter = false ∧
      letter ≠ '_' := by
  cases mark <;> rcases h with rfl | rfl <;> decide

theorem ofCanonical?_marked (mark : Mark) (cs : List Char) :
    ofCanonical? ('0' :: mark.letter :: cs) = inBase? mark.base cs := by
  cases mark <;> rfl

theorem ofCanonical?_leadingZero {c : Char} (h : c.isDigit = true) (cs : List Char) :
    ofCanonical? ('0' :: c :: cs) = inBase? 8 ('0' :: c :: cs) := by
  unfold ofCanonical?
  split <;> simp_all

theorem ofCanonical?_of_ne {c : Char} (h : c ≠ '0') (cs : List Char) :
    ofCanonical? (c :: cs) = Numeral.int? (c :: cs) := by
  unfold ofCanonical?
  split <;> simp_all

theorem canonical_of_pads {c : Char} {cs : List Char} {text : String} (h : Pads (c :: cs) text)
    (hc : Text.isBlank c = false) :
    canonical text.toList =
      Text.lowerChars ((Text.dropEndWhile Text.isBlank (c :: cs)).filter (· != '_')) := by
  obtain ⟨before, after, htext, hblank⟩ := h
  obtain ⟨hbefore, hafter⟩ := List.forall_mem_append.mp hblank
  have hend : Text.dropEndWhile Text.isBlank (c :: cs) = c :: Text.dropEndWhile Text.isBlank cs :=
    Text.dropEndWhile_append [] hc cs
  rw [canonical, htext, Text.trimChars_padded hbefore hafter hc, hend]

/-- A literal with a mark is read by what comes behind it, in lower case. -/
theorem value?_marked {mark : Mark} {letter : Char} {cs : List Char} {text : String}
    (hletter : mark.IsWritten letter) (h : Pads ('0' :: letter :: cs) text) :
    value? text = inBase? mark.base (Text.lowerFrom [letter, '0']
      ((Text.dropEndWhile Text.isBlank cs).filter (· != '_'))) := by
  obtain ⟨hascii, hlower, hblank, hplain⟩ := hletter.cases
  have hend : Text.dropEndWhile Text.isBlank ('0' :: letter :: cs) =
      '0' :: letter :: Text.dropEndWhile Text.isBlank cs :=
    Text.dropEndWhile_append ['0'] hblank cs
  rw [value?, canonical_of_pads h (by decide), hend, List.filter_cons_of_pos (by decide),
    List.filter_cons_of_pos (by simpa using hplain), Text.lowerChars,
    Text.lowerFrom_cons_ascii [] (by decide), Text.lowerFrom_cons_ascii ['0'] hascii, hlower]
  exact ofCanonical?_marked mark _

section Shows

variable {base : Nat} {digits : List Nat} {cs : List Char}

theorem IsDigit.cases (hbase : base ≤ 16) {digit : Nat} {c : Char} (h : IsDigit base digit c) :
    c.toNat < 0x80 ∧ c.toLower = Nat.digitChar digit ∧ Text.isBlank c = false := by
  obtain ⟨hless, hchar⟩ := h
  have hcases := (Numeral.digitChar_cases ⟨digit, by omega⟩).2 c (by simpa using hchar)
  exact ⟨hcases.1, hcases.2.1, hcases.2.2.1⟩

theorem forall₂_isDigit (hbase : base ≤ 16) (h : List.Forall₂ (IsDigit base) digits cs) :
    (∀ digit ∈ digits, digit < base) ∧ (∀ c ∈ cs, c.toNat < 0x80 ∧ Text.isBlank c = false) ∧
      cs.map Char.toLower = digits.map Nat.digitChar := by
  induction h with
  | nil => simp
  | cons hfirst _ ih =>
      obtain ⟨hascii, hlower, hblank⟩ := hfirst.cases hbase
      obtain ⟨hdigits, hchars, hmap⟩ := ih
      refine ⟨List.forall_mem_cons.mpr ⟨hfirst.1, hdigits⟩,
        List.forall_mem_cons.mpr ⟨⟨hascii, hblank⟩, hchars⟩, ?_⟩
      rw [List.map_cons, List.map_cons, hlower, hmap]

theorem Shows.isBlank_eq_false (hbase : base ≤ 16) (h : Shows base digits cs) :
    ∀ c ∈ cs, Text.isBlank c = false := by
  intro c hc
  by_cases hunderscore : c = '_'
  · rw [hunderscore]
    decide
  · have hmem : c ∈ cs.filter (· != '_') := List.mem_filter.mpr ⟨hc, by simpa using hunderscore⟩
    exact ((forall₂_isDigit hbase h.2).2.1 c hmem).2

/-- Trimmed, without underscores and in lower case, the digits are what remains. -/
theorem Shows.lowered (hbase : base ≤ 16) (h : Shows base digits cs) (before : List Char) :
    Text.lowerFrom before ((Text.dropEndWhile Text.isBlank cs).filter (· != '_')) =
      digits.map Nat.digitChar := by
  obtain ⟨_, hchars, hmap⟩ := forall₂_isDigit hbase h.2
  rw [Text.dropEndWhile_eq_self (h.isBlank_eq_false hbase),
    Text.lowerFrom_ascii before fun c hc => (hchars c hc).1, hmap]

theorem isNumeralBlank_digitChars (hbase : base ≤ 16) (h : ∀ digit ∈ digits, digit < base) :
    ∀ c ∈ digits.map Nat.digitChar, Text.isNumeralBlank c = false := by
  intro c hc
  obtain ⟨digit, hdigit, rfl⟩ := List.mem_map.mp hc
  have hless := h digit hdigit
  have hcases := (Numeral.digitChar_cases ⟨digit, by omega⟩).2 _ List.mem_cons_self
  rw [Text.isNumeralBlank, hcases.2.2.1, Bool.false_and]

theorem inBase?_digitChars (hbase : base ≤ 16) (hne : digits ≠ [])
    (h : ∀ digit ∈ digits, digit < base) :
    inBase? base (digits.map Nat.digitChar) =
      some ((Nat.ofDigits base digits.reverse : Nat) : Int) := by
  rw [inBase?, Text.dropEndWhile_eq_self (isNumeralBlank_digitChars hbase h),
    Numeral.digits?_digitChars hbase hne h, Option.map_some, Numeral.ofDigits_eq]

end Shows

end IntLiteral

theorem Numeral.dropUnderscoresFrom?_eq_some (isDigit : Char → Bool) (afterDigit : Bool)
    {cs : List Char} (h : ∀ c ∈ cs, c ≠ '_') :
    dropUnderscoresFrom? isDigit afterDigit cs = some cs := by
  induction cs generalizing afterDigit with
  | nil => rfl
  | cons c rest ih =>
      obtain ⟨hc, hrest⟩ := List.forall_mem_cons.mp h
      rw [dropUnderscoresFrom?, if_neg hc, ih _ hrest, Option.map_some]

theorem Numeral.splitSign_of_ne {c : Char} (hminus : c ≠ '-') (hplus : c ≠ '+') (cs : List Char) :
    splitSign (c :: cs) = (false, c :: cs) := by
  unfold splitSign
  split <;> simp_all

theorem Numeral.int?_digitChars {digits : List Nat} (hne : digits ≠ [])
    (h : ∀ digit ∈ digits, digit < 10) (hlength : digits.length ≤ maxDecimalDigits) :
    int? (digits.map Nat.digitChar) = some ((Nat.ofDigits 10 digits.reverse : Nat) : Int) := by
  have hblank := IntLiteral.isNumeralBlank_digitChars (by decide) h
  have hplain : ∀ c ∈ digits.map Nat.digitChar, c ≠ '_' ∧ c ≠ '-' ∧ c ≠ '+' := by
    intro c hc
    obtain ⟨digit, hdigit, rfl⟩ := List.mem_map.mp hc
    have hless := h digit hdigit
    exact ((digitChar_cases ⟨digit, by omega⟩).2 _ List.mem_cons_self).2.2.2
  have hfront : splitSign (Text.trimWhile Text.isNumeralBlank (digits.map Nat.digitChar)) =
      (false, digits.map Nat.digitChar) := by
    obtain ⟨first, rest, rfl⟩ := List.exists_cons_of_ne_nil hne
    rw [List.map_cons] at hblank hplain ⊢
    obtain ⟨_, hminus, hplus⟩ := hplain _ List.mem_cons_self
    rw [Text.trimWhile, List.dropWhile_cons_of_neg (by simp [hblank _ List.mem_cons_self]),
      Text.dropEndWhile_eq_self hblank, splitSign_of_ne hminus hplus]
  have hbody : dropUnderscores? (fun c => (digit? 10 c).isSome) (digits.map Nat.digitChar) =
      some (digits.map Nat.digitChar) :=
    dropUnderscoresFrom?_eq_some _ _ fun c hc => (hplain c hc).1
  unfold int?
  rw [hfront]
  dsimp only
  rw [hbody, Option.bind_eq_bind, Option.bind_some, digits?_digitChars (by decide) hne h,
    Option.bind_eq_bind, Option.bind_some, if_neg (Nat.not_lt.mpr hlength), ofDigits_eq]
  rfl

namespace IntLiteral

theorem Shows.canonical_eq {base : Nat} (hbase : base ≤ 16) {digits : List Nat} {cs : List Char}
    (h : Shows base digits cs) {text : String} (hpads : Pads cs text) :
    canonical text.toList = digits.map Nat.digitChar := by
  cases cs with
  | nil => exact absurd (List.forall₂_nil_right_iff.mp h.2) h.1
  | cons c rest =>
      rw [canonical_of_pads hpads (h.isBlank_eq_false hbase c List.mem_cons_self)]
      exact h.lowered hbase []

theorem Shows.cons {base digit : Nat} {digits : List Nat} {c : Char} {cs : List Char}
    (hc : IsDigit base digit c) (hplain : c ≠ '_') (h : Shows base digits cs) :
    Shows base (digit :: digits) (c :: cs) := by
  refine ⟨List.cons_ne_nil _ _, ?_⟩
  rw [List.filter_cons_of_pos (by simpa using hplain)]
  exact .cons hc h.2

theorem value?_of_spells {form : Form} {n : Nat} {cs : List Char} {text : String}
    (hspells : Spells form n cs) (hpads : Pads cs text) : value? text = some (n : Int) := by
  cases hspells with
  | decimal hdigits hzero hlength =>
      have hless := (forall₂_isDigit (by decide) hdigits.2).1
      have hnumber := Numeral.int?_digitChars hdigits.1 hless hlength
      rw [value?, hdigits.canonical_eq (by decide) hpads, ← hnumber]
      rcases hzero with rfl | hhead
      · rfl
      · obtain ⟨first, rest, rfl⟩ := List.exists_cons_of_ne_nil hdigits.1
        have hfirst : ∀ digit : Fin 10, digit ≠ 0 → Nat.digitChar digit ≠ '0' := by decide
        apply ofCanonical?_of_ne
        apply hfirst ⟨first, hless first List.mem_cons_self⟩
        intro hsame
        exact hhead (congrArg some (Fin.val_eq_of_eq hsame))
  | @marked mark letter digits cs hletter hdigits =>
      rw [value?_marked hletter hpads, hdigits.lowered mark.base_le]
      exact inBase?_digitChars mark.base_le hdigits.1 (forall₂_isDigit mark.base_le hdigits.2).1
  | @leadingZero digits cs hdigits =>
      have hless := (forall₂_isDigit (by decide) hdigits.2).1
      have hzero : IsDigit 8 0 '0' := ⟨by decide, .inl rfl⟩
      have hwhole := hdigits.cons hzero (by decide)
      have hsame : Nat.ofDigits 8 (0 :: digits).reverse = Nat.ofDigits 8 digits.reverse := by
        rw [List.reverse_cons, Nat.ofDigits_append, Nat.ofDigits_singleton, Nat.mul_zero,
          Nat.add_zero]
      rw [value?, hwhole.canonical_eq (by decide) hpads, ← hsame,
        ← inBase?_digitChars (by decide) hwhole.1 (forall₂_isDigit (by decide) hwhole.2).1]
      obtain ⟨first, rest, rfl⟩ := List.exists_cons_of_ne_nil hdigits.1
      have hfirst : ∀ digit : Fin 8, (Nat.digitChar digit).isDigit = true := by decide
      exact ofCanonical?_leadingZero (hfirst ⟨first, hless first List.mem_cons_self⟩) _

theorem inBase?_eq_none_of_mem {base : Nat} {cs : List Char} {c : Char} (hc : c ∈ cs)
    (hblank : Text.isBlank c = false) (h : Numeral.digit? base c = none) :
    inBase? base cs = none := by
  have hkept : c ∈ Text.dropEndWhile Text.isNumeralBlank cs :=
    Text.mem_dropEndWhile hc (by rw [Text.isNumeralBlank, hblank, Bool.false_and])
  rw [inBase?, Numeral.digits?_eq_none_of_mem hkept h, Option.map_none]

theorem inBase?_eq_none_of_forall {base : Nat} {cs : List Char}
    (h : ∀ c ∈ cs, Numeral.digit? base c = none) : inBase? base cs = none := by
  have hread : Numeral.digits? base (Text.dropEndWhile Text.isNumeralBlank cs) = none := by
    cases hkept : Text.dropEndWhile Text.isNumeralBlank cs with
    | nil => rfl
    | cons c rest =>
        have hc : c ∈ Text.dropEndWhile Text.isNumeralBlank cs := by
          rw [hkept]
          exact List.mem_cons_self
        exact Numeral.digits?_eq_none_of_mem List.mem_cons_self
          (h c (Text.dropEndWhile_subset hc))
  rw [inBase?, hread, Option.map_none]

theorem isDigit_cases {c : Char} (h : c.isDigit = true) :
    c.toNat < 0x80 ∧ c.toLower = c ∧ Text.isBlank c = false ∧ c ≠ '_' ∧
      Numeral.digit? 36 c = some (c.toNat - '0'.toNat) := by
  have hall : ∀ code : Fin 0x80, (Char.ofNat code).isDigit = true →
      (Char.ofNat code).toLower = Char.ofNat code ∧ Text.isBlank (Char.ofNat code) = false ∧
        Char.ofNat code ≠ '_' ∧
        Numeral.digit? 36 (Char.ofNat code) = some ((Char.ofNat code).toNat - '0'.toNat) := by
    decide
  have hascii : c.toNat < 0x80 := by
    have hrange := Char.isDigit_iff_toNat.mp h
    change 48 ≤ c.toNat ∧ c.toNat ≤ 57 at hrange
    omega
  have hcases := hall ⟨c.toNat, hascii⟩
  rw [Char.ofNat_toNat] at hcases
  exact ⟨hascii, hcases h⟩

theorem IsBeyond.digit?_eq_none {base : Nat} (hbase : base ≤ 16) {c : Char}
    (h : IsBeyond base c) : Numeral.digit? base c = none := by
  obtain ⟨_, _, _, _, hvalue⟩ := isDigit_cases h.1
  rw [Numeral.digit?_eq_filter (by omega), hvalue, Option.filter_some,
    if_neg (by simpa using h.2)]

theorem isDigit_of_mem_filter {cs : List Char} (hcs : ∀ c ∈ cs, c.isDigit = true ∨ c = '_')
    {c : Char} (hc : c ∈ cs.filter (· != '_')) : c.isDigit = true := by
  obtain ⟨hmem, hplain⟩ := List.mem_filter.mp hc
  rcases hcs c hmem with hdigit | rfl
  · exact hdigit
  · cases hplain

/-- Digits behind a zero are read as they stand. -/
theorem canonical_of_octal {cs : List Char} (hcs : ∀ c ∈ cs, c.isDigit = true ∨ c = '_')
    {text : String} (hpads : Pads ('0' :: cs) text) :
    canonical text.toList = '0' :: cs.filter (· != '_') := by
  have hdigits : ∀ c ∈ '0' :: cs.filter (· != '_'), c.isDigit = true :=
    List.forall_mem_cons.mpr ⟨by decide, fun c hc => isDigit_of_mem_filter hcs hc⟩
  have hblank : ∀ c ∈ '0' :: cs, Text.isBlank c = false := by
    refine List.forall_mem_cons.mpr ⟨by decide, fun c hc => ?_⟩
    rcases hcs c hc with hdigit | rfl
    · exact (isDigit_cases hdigit).2.2.1
    · decide
  rw [canonical_of_pads hpads (by decide), Text.dropEndWhile_eq_self hblank,
    List.filter_cons_of_pos (by decide), Text.lowerChars,
    Text.lowerFrom_ascii [] fun c hc => (isDigit_cases (hdigits c hc)).1,
    List.map_congr_left (g := id) fun c hc => (isDigit_cases (hdigits c hc)).2.1, List.map_id]

theorem value?_of_misspells {cs : List Char} {text : String} (hmisspells : Misspells cs)
    (hpads : Pads cs text) : value? text = none := by
  cases hmisspells with
  | @beyondMark mark letter c cs hletter hc hbeyond =>
      obtain ⟨hascii, hlower, hblank, hplain, _⟩ := isDigit_cases hbeyond.1
      rw [value?_marked hletter hpads]
      apply inBase?_eq_none_of_mem _ hblank (hbeyond.digit?_eq_none mark.base_le)
      apply Text.mem_lowerFrom _ _ hascii hlower
      exact List.mem_filter.mpr ⟨Text.mem_dropEndWhile hc hblank, by simpa using hplain⟩
  | @beyondOctal c cs hcs hc hbeyond =>
      obtain ⟨_, _, hblank, hplain, _⟩ := isDigit_cases hbeyond.1
      have hmem : c ∈ cs.filter (· != '_') := List.mem_filter.mpr ⟨hc, by simpa using hplain⟩
      rw [value?, canonical_of_octal hcs hpads]
      obtain ⟨first, rest, hdigits⟩ := List.exists_cons_of_ne_nil (List.ne_nil_of_mem hmem)
      have hfirst : first ∈ cs.filter (· != '_') := by
        rw [hdigits]
        exact List.mem_cons_self
      rw [hdigits, ofCanonical?_leadingZero (isDigit_of_mem_filter hcs hfirst), ← hdigits]
      exact inBase?_eq_none_of_mem (List.mem_cons_of_mem '0' hmem) hblank
        (hbeyond.digit?_eq_none (by decide))
  | @noDigit mark letter cs hletter hcs =>
      rw [value?_marked hletter hpads]
      apply inBase?_eq_none_of_forall
      intro x hx
      refine Text.digit?_of_mem_lowerFrom mark.base_le _ (fun c hc => ?_) hx
      exact hcs c (Text.dropEndWhile_subset (List.mem_filter.mp hc).1)

/-- The digits of a number with the first in front; zero has one digit. -/
def written (base n : Nat) : List Nat := if n = 0 then [0] else (Nat.digits base n).reverse

theorem written_ne_nil (base n : Nat) : written base n ≠ [] := by
  unfold written
  split
  · exact List.cons_ne_nil _ _
  · next hn => simpa [Nat.digits_eq_nil_iff_eq_zero] using hn

theorem written_lt {base : Nat} (hbase : 1 < base) (n : Nat) :
    ∀ digit ∈ written base n, digit < base := by
  intro digit hdigit
  unfold written at hdigit
  split at hdigit
  · rw [List.mem_singleton.mp hdigit]
    omega
  · exact Nat.digits_lt_base hbase (List.mem_reverse.mp hdigit)

theorem ofDigits_written (base n : Nat) : Nat.ofDigits base (written base n).reverse = n := by
  unfold written
  split
  · next hn => rw [hn, List.reverse_singleton, Nat.ofDigits_singleton]
  · rw [List.reverse_reverse, Nat.ofDigits_digits]

theorem written_head (base n : Nat) : written base n = [0] ∨ (written base n).head? ≠ some 0 := by
  unfold written
  split
  · exact .inl rfl
  · next hn =>
      right
      rw [List.head?_reverse, List.getLast?_eq_some_getLast (Nat.digits_ne_nil_iff_ne_zero.mpr hn)]
      exact fun h => Nat.getLast_digit_ne_zero base hn (Option.some.inj h)

theorem shows_digitChars {base : Nat} {digits : List Nat} (hne : digits ≠ [])
    (h : ∀ digit ∈ digits, digit < base) : Shows base digits (digits.map Nat.digitChar) := by
  have hplain : (digits.map Nat.digitChar).filter (· != '_') = digits.map Nat.digitChar := by
    apply List.filter_eq_self.mpr
    intro c hc
    obtain ⟨digit, hdigit, rfl⟩ := List.mem_map.mp hc
    simp
  refine ⟨hne, ?_⟩
  rw [hplain, List.forall₂_map_right_iff, List.forall₂_same]
  exact fun digit hdigit => ⟨h digit hdigit, .inl rfl⟩

/-- Every number has a spelling in every form; only decimal ones are of limited length. -/
theorem exists_spells (form : Form) (n : Nat)
    (hlength : form = .decimal → (Nat.digits 10 n).length ≤ 4300) : ∃ cs, Spells form n cs := by
  have hshows {base : Nat} (hbase : 1 < base) :
      Shows base (written base n) ((written base n).map Nat.digitChar) :=
    shows_digitChars (written_ne_nil base n) (written_lt hbase n)
  cases form with
  | decimal =>
      have hshort : (written 10 n).length ≤ 4300 := by
        unfold written
        split
        · decide
        · rw [List.length_reverse]
          exact hlength rfl
      have hspells := Spells.decimal (hshows (by decide)) (written_head 10 n) hshort
      rw [ofDigits_written] at hspells
      exact ⟨_, hspells⟩
  | marked mark =>
      have hbase : 1 < mark.base := by cases mark <;> decide
      have hspells : Spells (.marked mark) _ _ := .marked (.inl rfl) (hshows hbase)
      rw [ofDigits_written] at hspells
      exact ⟨_, hspells⟩
  | leadingZero =>
      have hspells := Spells.leadingZero (hshows (by decide))
      rw [ofDigits_written] at hspells
      exact ⟨_, hspells⟩

/-- A literal is read as the number it spells, whatever its form and whatever blanks are around it;
a literal with a digit beyond its base, or with no digit behind its mark, is read as none. Every
number has a spelling in every form. -/
theorem value?_spelling :
    (∀ form n cs text, Spells form n cs → Pads cs text → value? text = some (n : Int)) ∧
      (∀ cs text, Misspells cs → Pads cs text → value? text = none) ∧
      ∀ form n, (form = .decimal → (Nat.digits 10 n).length ≤ 4300) → ∃ cs, Spells form n cs :=
  ⟨fun _ _ _ _ hspells hpads => value?_of_spells hspells hpads,
    fun _ _ hmisspells hpads => value?_of_misspells hmisspells hpads, exists_spells⟩

theorem value?_spelling_blanks :
    value? " 0X0_1f\n" = some 31 ∧ value? "0779" = none ∧ ∃ cs, Spells .decimal 10 cs := by
  have hshows : Shows 16 [0, 1, 15] ['0', '_', '1', 'f'] :=
    ⟨by decide, .cons ⟨by decide, .inl rfl⟩
      (.cons ⟨by decide, .inl rfl⟩ (.cons ⟨by decide, .inl rfl⟩ .nil))⟩
  have hspells : Spells (.marked .hexadecimal) 31 ['0', 'X', '0', '_', '1', 'f'] :=
    .marked (.inr rfl : Mark.hexadecimal.IsWritten 'X') hshows
  have hpads : Pads ['0', 'X', '0', '_', '1', 'f'] " 0X0_1f\n" := by
    refine ⟨[' '], ['\n'], by decide, ?_⟩
    rw [List.singleton_append, List.forall_mem_cons, List.forall_mem_singleton]
    decide
  have hoctal : Misspells ['0', '7', '7', '9'] :=
    .beyondOctal (c := '9') (by simp) (by simp) ⟨rfl, by decide⟩
  refine ⟨value?_spelling.1 _ _ _ _ hspells hpads, ?_, ?_⟩
  · exact value?_spelling.2.1 _ _ hoctal ⟨[], [], by decide, by simp⟩
  · exact value?_spelling.2.2 .decimal 10 fun _ => by simp

end IntLiteral

namespace CodeStyle

theorem isMagic_iff {value : Int} : isMagic value = true ↔ 10 < value ∧ value ≠ 1000 := by
  rw [isMagic, Bool.and_eq_true, decide_eq_true_eq, bne_iff_ne]
  rfl

/-- Whether a node is a literal whose number is worth naming. -/
def isMagicLiteral (source : Bytes) (node : Node) : Bool :=
  node.isKind [Kind.integer] && (IntLiteral.value? (node.text source)).any isMagic

theorem isMagicLiteral_iff {source : Bytes} {node : Node} :
    isMagicLiteral source node = true ↔ node.kind = Kind.integer ∧
      ∃ value, IntLiteral.value? (node.text source) = some value ∧ 10 < value ∧ value ≠ 1000 := by
  simp only [isMagicLiteral, Bool.and_eq_true, Node.isKind_singleton, Option.any_eq_true,
    isMagic_iff]

def declaresConstants (node : Node) : Bool := node.isKind [Kind.constDeclaration]

theorem magicNumbers_eq (tree : SyntaxTree) :
    magicNumbers tree = ((tree.root.exposedPlaces declaresConstants).filter fun place =>
      isMagicLiteral tree.source place.2).map (·.2) := by
  have hvisit : magicNumbers tree = Node.visitFrom
      (Node.collector declaresConstants (isMagicLiteral tree.source)) [] [tree.root] := rfl
  rw [hvisit, Node.visitFrom_collector, List.nil_append, List.flatMap_singleton,
    Node.exposedNodes, List.filter_map]
  rfl

/-- A node that declares no constants itself is met unless it stands below one that does. -/
theorem unhidden_iff {root node : Node} {position : List Nat}
    (hat : root.nodeAt? position = some node) (hkind : node.kind ≠ Kind.constDeclaration) :
    Node.Unhidden declaresConstants root position ↔
      ∀ outer ancestor, outer <+: position → outer ≠ position →
        root.nodeAt? outer = some ancestor → ancestor.kind ≠ Kind.constDeclaration := by
  have hhides (passed : Node) :
      declaresConstants passed = false ↔ passed.kind ≠ Kind.constDeclaration := by
    rw [declaresConstants, Bool.eq_false_iff, Ne, Node.isKind_singleton]
  simp only [Node.Unhidden, hhides]
  constructor
  · intro h outer ancestor houter _ hancestor
    exact h outer houter ancestor hancestor
  · intro h outer houter passed hpassed
    by_cases hself : outer = position
    · rw [hself, hat, Option.some.injEq] at hpassed
      rw [← hpassed]
      exact hkind
    · exact h outer passed houter hself hpassed

/-- The numbers worth naming, with their positions: the integer literals without a constant
declaration above them whose value is more than ten and not a thousand, each position once and in
the order of the source. -/
theorem magicNumbers_places (tree : SyntaxTree) :
    ∃ places : List (List Nat × Node),
      magicNumbers tree = places.map (·.2) ∧
      places.Pairwise (fun first second => first.1 < second.1) ∧
      ∀ position node, (position, node) ∈ places ↔
        tree.root.nodeAt? position = some node ∧ node.kind = Kind.integer ∧
        (∀ outer ancestor, outer <+: position → outer ≠ position →
          tree.root.nodeAt? outer = some ancestor → ancestor.kind ≠ Kind.constDeclaration) ∧
        ∃ value, IntLiteral.value? (node.text tree.source) = some value ∧
          10 < value ∧ value ≠ 1000 := by
  refine ⟨_, magicNumbers_eq tree, (Node.pairwise_exposedPlaces _ tree.root).filter _, ?_⟩
  intro position node
  have hother : node.kind = Kind.integer → node.kind ≠ Kind.constDeclaration := by
    intro hinteger
    rw [hinteger]
    decide
  rw [List.mem_filter, Node.mem_exposedPlaces, isMagicLiteral_iff]
  constructor
  · rintro ⟨⟨hat, hshown⟩, hinteger, hvalue⟩
    exact ⟨hat, hinteger, (unhidden_iff hat (hother hinteger)).mp hshown, hvalue⟩
  · rintro ⟨hat, hinteger, habove, hvalue⟩
    exact ⟨⟨hat, (unhidden_iff hat (hother hinteger)).mpr habove⟩, hinteger, hvalue⟩

end CodeStyle

end PhpAudit
