import PhpAudit.Proofs.IntegerLiterals

/-!
Names that the style rule suggests. A name is cut at its separators into words, and these are joined
with their first letters in upper case. What comes out passes the check whose failure called for
it, has all letters and digits of the name it was made from, and stays the same when it is made
again.
-/

namespace PhpAudit

namespace CodeStyle

theorem toNat_lt_of_isAlphanum {c : Char} (h : c.isAlphanum = true) : c.toNat < 0x80 := by
  change ((decide (65 ≤ c.val ∧ c.val ≤ 90) ||
    (decide (97 ≤ c.val) && decide (c.val ≤ 122))) ||
    (decide (48 ≤ c.val) && decide (c.val ≤ 57))) = true at h
  simp only [Bool.or_eq_true, Bool.and_eq_true, decide_eq_true_eq, UInt32.le_iff_toNat_le] at h
  change ((65 ≤ c.toNat ∧ c.toNat ≤ 90) ∨ (97 ≤ c.toNat ∧ c.toNat ≤ 122)) ∨
    (48 ≤ c.toNat ∧ c.toNat ≤ 57) at h
  omega

/-- What upper and lower case are for an ASCII character. -/
structure IsCased (c : Char) : Prop where
  upper_of_not_lower : c.isLower = false → c.toUpper = c
  lower_of_not_upper : c.isUpper = false → c.toLower = c
  not_lower : c.isUpper = true → c.isLower = false
  not_upper : c.isLower = true → c.isUpper = false
  isUpper_upper : c.toUpper.isUpper = c.isAlpha
  isLower_lower : c.toLower.isLower = c.isAlpha
  isAlpha_upper : c.toUpper.isAlpha = c.isAlpha
  lower_upper : c.toUpper.toLower = c.toLower
  lower_lower : c.toLower.toLower = c.toLower

/-- By trying all of them. -/
theorem isCased_of_isAlphanum {c : Char} (h : c.isAlphanum = true) : IsCased c := by
  have hall : ∀ n < 0x80, let c := Char.ofNat n
      (c.isLower = false → c.toUpper = c) ∧ (c.isUpper = false → c.toLower = c) ∧
      (c.isUpper = true → c.isLower = false) ∧ (c.isLower = true → c.isUpper = false) ∧
      c.toUpper.isUpper = c.isAlpha ∧ c.toLower.isLower = c.isAlpha ∧
      c.toUpper.isAlpha = c.isAlpha ∧ c.toUpper.toLower = c.toLower ∧
      c.toLower.toLower = c.toLower := by
    decide +kernel
  have hc := hall c.toNat (toNat_lt_of_isAlphanum h)
  rw [Char.ofNat_toNat] at hc
  obtain ⟨h1, h2, h3, h4, h5, h6, h7, h8, h9⟩ := hc
  exact ⟨h1, h2, h3, h4, h5, h6, h7, h8, h9⟩

theorem isAlpha_eq (c : Char) : c.isAlpha = (c.isUpper || c.isLower) := rfl

theorem isAlphanum_of_isAlpha {c : Char} (h : c.isAlpha = true) : c.isAlphanum = true := by
  rw [Char.isAlphanum, h, Bool.true_or]

theorem isAlphanum_toUpper {c : Char} (h : c.isAlphanum = true) : c.toUpper.isAlphanum = true := by
  by_cases hlower : c.isLower = true
  · apply isAlphanum_of_isAlpha
    rw [(isCased_of_isAlphanum h).isAlpha_upper, isAlpha_eq, hlower, Bool.or_true]
  · rw [(isCased_of_isAlphanum h).upper_of_not_lower (eq_false_of_ne_true hlower)]
    exact h

theorem ne_underscore_of_isAlphanum {c : Char} (h : c.isAlphanum = true) : c ≠ '_' := by
  rintro rfl
  cases h

theorem isSeparator_of_isAlphanum {c : Char} (h : c.isAlphanum = true) : isSeparator c = false := by
  rw [isSeparator, Text.isWordChar, if_pos (toNat_lt_of_isAlphanum h), h,
    beq_false_of_ne (ne_underscore_of_isAlphanum h)]
  rfl

/-- All separators are left out, and nothing else. -/
theorem flatten_wordsFrom (current cs : List Char) :
    (wordsFrom current cs).flatten = current ++ cs.filter (!isSeparator ·) := by
  induction cs generalizing current with
  | nil => cases current <;> simp [wordsFrom]
  | cons c rest ih =>
      cases hseparator : isSeparator c with
      | true => cases current <;> simp [wordsFrom, hseparator, ih]
      | false => simp [wordsFrom, hseparator, ih]

theorem ne_nil_of_mem_wordsFrom {current cs word : List Char} (h : word ∈ wordsFrom current cs) :
    word ≠ [] := by
  induction cs generalizing current with
  | nil => cases current <;> simp_all [wordsFrom]
  | cons c rest ih =>
      cases hseparator : isSeparator c with
      | true =>
          cases current with
          | nil =>
              have hlater : word ∈ wordsFrom [] rest := by simpa [wordsFrom, hseparator] using h
              exact ih hlater
          | cons first others =>
              rw [wordsFrom, hseparator, if_pos rfl, if_neg (by simp), List.mem_cons] at h
              rcases h with rfl | hlater
              · exact List.cons_ne_nil first others
              · exact ih hlater
      | false =>
          have hlater : word ∈ wordsFrom (current ++ [c]) rest := by
            simpa [wordsFrom, hseparator] using h
          exact ih hlater

theorem wordsFrom_of_forall {cs : List Char} (h : ∀ c ∈ cs, isSeparator c = false)
    {current : List Char} (hne : current ++ cs ≠ []) : wordsFrom current cs = [current ++ cs] := by
  induction cs generalizing current with
  | nil =>
      rw [List.append_nil] at hne ⊢
      rw [wordsFrom, if_neg (by simpa using hne)]
  | cons c rest ih =>
      obtain ⟨hc, hrest⟩ := List.forall_mem_cons.mp h
      rw [wordsFrom, hc, if_neg Bool.false_ne_true, ih hrest (by simp), List.append_assoc,
        List.singleton_append]

theorem capitalize_cons {c : Char} (h : c.isAlphanum = true) (rest : List Char) :
    capitalize (c :: rest) = c.toUpper :: rest := by
  rw [capitalize, Text.upperChars, List.flatMap_singleton, Text.upperChar,
    if_pos (toNat_lt_of_isAlphanum h), List.singleton_append]

theorem uncapitalize_cons {c : Char} (h : c.isAlphanum = true) (rest : List Char) :
    uncapitalize (c :: rest) = c.toLower :: rest := by
  rw [uncapitalize, Text.lowerChars, Text.lowerFrom_cons_ascii [] (toNat_lt_of_isAlphanum h)]
  rfl

/-- Only letters and digits. -/
def Alphanumeric (cs : List Char) : Prop := ∀ c ∈ cs, c.isAlphanum = true

theorem Alphanumeric.capitalize {word : List Char} (h : Alphanumeric word) :
    Alphanumeric (capitalize word) := by
  cases word with
  | nil => exact h
  | cons c rest =>
      obtain ⟨hc, hrest⟩ := List.forall_mem_cons.mp h
      rw [capitalize_cons hc]
      exact List.forall_mem_cons.mpr ⟨isAlphanum_toUpper hc, hrest⟩

theorem map_toLower_capitalize {word : List Char} (h : Alphanumeric word) :
    (capitalize word).map Char.toLower = word.map Char.toLower := by
  cases word with
  | nil => rfl
  | cons c rest =>
      have hc := (List.forall_mem_cons.mp h).1
      rw [capitalize_cons hc, List.map_cons, List.map_cons, (isCased_of_isAlphanum hc).lower_upper]

theorem isPascalCase_cons {c : Char} {rest : List Char} :
    isPascalCase (c :: rest) = true ↔ c.isUpper = true ∧ Alphanumeric rest := by
  rw [isPascalCase, Bool.and_eq_true, List.all_eq_true, Alphanumeric]

theorem isCamelCase_cons {c : Char} {rest : List Char} :
    isCamelCase (c :: rest) = true ↔ c.isLower = true ∧ Alphanumeric rest := by
  rw [isCamelCase, Bool.and_eq_true, List.all_eq_true, Alphanumeric]

theorem exists_of_isPascalCase {name : List Char} (h : isPascalCase name = true) :
    ∃ c rest, name = c :: rest ∧ c.isUpper = true ∧ c.isAlphanum = true ∧ Alphanumeric rest := by
  cases name with
  | nil => cases h
  | cons c rest =>
      obtain ⟨hupper, hrest⟩ := isPascalCase_cons.mp h
      refine ⟨c, rest, rfl, hupper, isAlphanum_of_isAlpha ?_, hrest⟩
      rw [isAlpha_eq, hupper, Bool.true_or]

theorem exists_of_isCamelCase {name : List Char} (h : isCamelCase name = true) :
    ∃ c rest, name = c :: rest ∧ c.isLower = true ∧ c.isAlphanum = true ∧ Alphanumeric rest := by
  cases name with
  | nil => cases h
  | cons c rest =>
      obtain ⟨hlower, hrest⟩ := isCamelCase_cons.mp h
      refine ⟨c, rest, rfl, hlower, isAlphanum_of_isAlpha ?_, hrest⟩
      rw [isAlpha_eq, hlower, Bool.or_true]

theorem pascalCase_of_words {name word : List Char} {words : List (List Char)}
    (h : wordsFrom [] name = word :: words) :
    pascalCase name = capitalize word ++ words.flatMap capitalize := by
  rw [pascalCase, h]
  rfl

/-- Without separators a name is one word. -/
theorem pascalCase_of_alphanumeric {name : List Char} (h : Alphanumeric name) (hne : name ≠ []) :
    pascalCase name = capitalize name := by
  have hwords : wordsFrom [] name = [name] :=
    wordsFrom_of_forall (fun c hc => isSeparator_of_isAlphanum (h c hc)) hne
  rw [pascalCase_of_words hwords, List.flatMap_nil, List.append_nil]

theorem pascalCase_of_isPascalCase {name : List Char} (h : isPascalCase name = true) :
    pascalCase name = name := by
  obtain ⟨c, rest, rfl, hupper, hc, hrest⟩ := exists_of_isPascalCase h
  rw [pascalCase_of_alphanumeric (List.forall_mem_cons.mpr ⟨hc, hrest⟩) (List.cons_ne_nil c rest),
    capitalize_cons hc,
    (isCased_of_isAlphanum hc).upper_of_not_lower ((isCased_of_isAlphanum hc).not_lower hupper)]

theorem camelCase_of_isCamelCase {name : List Char} (h : isCamelCase name = true) :
    camelCase name = name := by
  obtain ⟨c, rest, rfl, hlower, hc, hrest⟩ := exists_of_isCamelCase h
  rw [camelCase,
    pascalCase_of_alphanumeric (List.forall_mem_cons.mpr ⟨hc, hrest⟩) (List.cons_ne_nil c rest),
    capitalize_cons hc, uncapitalize_cons (isAlphanum_toUpper hc),
    (isCased_of_isAlphanum hc).lower_upper,
    (isCased_of_isAlphanum hc).lower_of_not_upper ((isCased_of_isAlphanum hc).not_upper hlower)]

theorem isCamelCase_uncapitalize {name : List Char} (h : isPascalCase name = true) :
    isCamelCase (uncapitalize name) = true := by
  obtain ⟨c, rest, rfl, hupper, hc, hrest⟩ := exists_of_isPascalCase h
  rw [uncapitalize_cons hc, isCamelCase_cons, (isCased_of_isAlphanum hc).isLower_lower, isAlpha_eq,
    hupper]
  exact ⟨rfl, hrest⟩

theorem map_toLower_uncapitalize {name : List Char} (h : isPascalCase name = true) :
    (uncapitalize name).map Char.toLower = name.map Char.toLower := by
  obtain ⟨c, rest, rfl, _, hc, _⟩ := exists_of_isPascalCase h
  rw [uncapitalize_cons hc, List.map_cons, List.map_cons, (isCased_of_isAlphanum hc).lower_lower]

/-- ASCII letters, digits and underscores, of which the first that is no underscore is a letter. -/
structure IsPlain (name : List Char) : Prop where
  chars : ∀ c ∈ name, c.isAlphanum = true ∨ c = '_'
  letter : ∃ c, name.find? (· != '_') = some c ∧ c.isAlpha = true

theorem IsPlain.filter_eq {name : List Char} (h : IsPlain name) :
    name.filter (!isSeparator ·) = name.filter (· != '_') := by
  apply List.filter_congr
  intro c hc
  rcases h.chars c hc with halphanum | rfl
  · rw [isSeparator_of_isAlphanum halphanum,
      bne_iff_ne.mpr (ne_underscore_of_isAlphanum halphanum), Bool.not_false]
  · rfl

theorem IsPlain.alphanumeric {name : List Char} (h : IsPlain name) :
    Alphanumeric (name.filter (· != '_')) := by
  intro c hc
  obtain ⟨hmem, hother⟩ := List.mem_filter.mp hc
  exact (h.chars c hmem).resolve_right (bne_iff_ne.mp hother)

/-- The words of a plain name: what is left without underscores, and a letter comes first. -/
theorem IsPlain.exists_words {name : List Char} (h : IsPlain name) :
    ∃ c rest words, wordsFrom [] name = (c :: rest) :: words ∧ c.isAlpha = true ∧
      (c :: rest) ++ words.flatten = name.filter (· != '_') := by
  obtain ⟨first, hfirst, hletter⟩ := h.letter
  have hflatten : (wordsFrom [] name).flatten = name.filter (· != '_') := by
    rw [flatten_wordsFrom, h.filter_eq, List.nil_append]
  have hhead : (name.filter (· != '_')).head? = some first := by
    rw [List.head?_filter, hfirst]
  cases hwords : wordsFrom [] name with
  | nil =>
      rw [← hflatten, hwords] at hhead
      cases hhead
  | cons word words =>
      cases word with
      | nil => exact absurd rfl (ne_nil_of_mem_wordsFrom (hwords ▸ List.mem_cons_self))
      | cons c rest =>
          rw [hwords, List.flatten_cons] at hflatten
          rw [← hflatten, List.cons_append, List.head?_cons, Option.some.injEq] at hhead
          exact ⟨c, rest, words, rfl, hhead ▸ hletter, hflatten⟩

theorem IsPlain.isPascalCase_pascalCase {name : List Char} (h : IsPlain name) :
    isPascalCase (pascalCase name) = true ∧
      (pascalCase name).map Char.toLower = (name.filter (· != '_')).map Char.toLower := by
  obtain ⟨c, rest, words, hwords, hletter, hflatten⟩ := h.exists_words
  have hall : Alphanumeric ((c :: rest) ++ words.flatten) := hflatten ▸ h.alphanumeric
  obtain ⟨hword, hlater⟩ := List.forall_mem_append.mp hall
  obtain ⟨hc, hrest⟩ := List.forall_mem_cons.mp hword
  have hlater : ∀ word ∈ words, Alphanumeric word := fun word hword d hd =>
    hlater d (List.mem_flatten_of_mem hword hd)
  have hpascal := pascalCase_of_words hwords
  constructor
  · rw [hpascal, capitalize_cons hc, List.cons_append, isPascalCase_cons,
      (isCased_of_isAlphanum hc).isUpper_upper]
    refine ⟨hletter, List.forall_mem_append.mpr ⟨hrest, fun d hd => ?_⟩⟩
    obtain ⟨word, hmem, hd⟩ := List.mem_flatMap.mp hd
    exact (hlater word hmem).capitalize d hd
  · have hsame : (words.flatMap capitalize).map Char.toLower =
        words.flatMap fun word => word.map Char.toLower := by
      rw [List.map_flatMap]
      exact List.flatMap_congr fun word hmem => map_toLower_capitalize (hlater word hmem)
    rw [hpascal, List.map_append, map_toLower_capitalize hword, hsame, ← hflatten, List.map_append,
      List.map_flatten, ← List.flatMap_def]

theorem isCamelCase_booleanName {name : List Char} (h : isCamelCase name = true) :
    isCamelCase (booleanName name) = true := by
  obtain ⟨c, rest, rfl, _, hc, hrest⟩ := exists_of_isCamelCase h
  have hword : Alphanumeric (c :: rest) := List.forall_mem_cons.mpr ⟨hc, hrest⟩
  exact isCamelCase_cons.mpr ⟨rfl, List.forall_mem_cons.mpr ⟨rfl, hword.capitalize⟩⟩

theorem beginsBoolean_booleanName (name : List Char) : beginsBoolean (booleanName name) = true := by
  rw [beginsBoolean, List.any_eq_true]
  refine ⟨"is", List.mem_cons_self, List.isPrefixOf_iff_prefix.mpr ⟨capitalize name, rfl⟩⟩

theorem misplaces_withEnding (ending name : List Char) :
    misplaces ending (withEnding ending name) = false := by
  have hends : ending.isSuffixOf (withEnding ending name) = true :=
    List.isSuffixOf_iff_suffix.mpr (List.suffix_append _ _)
  rw [misplaces, hends, Bool.not_true, Bool.and_false]

theorem checkClassName_of_isPascalCase {name : List Char} (h : isPascalCase name = true)
    (path : String) (cls : Node) :
    checkClassName path cls (String.ofList name) =
      if shortestClassName ≤ name.length then []
      else [namingFinding path cls ("Class name should be descriptive: " ++ String.ofList name)
        ("class " ++ String.ofList name) "Use a more descriptive name" .info] := by
  obtain ⟨c, rest, rfl, _⟩ := exists_of_isPascalCase h
  have hsome : (String.ofList (c :: rest)).isEmpty = false := by simp
  rw [checkClassName, hsome, String.toList_ofList, String.length_ofList, h]
  rfl

theorem checkMethodName_of_isCamelCase {name : List Char} (h : isCamelCase name = true)
    (path : String) (method : Node) (returns : Option String) :
    checkMethodName path method (String.ofList name) returns =
      if returns.any (fun type => Text.lower type == "bool") && !beginsBoolean name then
        [namingFinding path method
          ("Boolean method should start with is/has/can: " ++ String.ofList name)
          ("function " ++ String.ofList name)
          ("function " ++ String.ofList (booleanName name)) .info]
      else [] := by
  obtain ⟨c, rest, rfl, _, hc, _⟩ := exists_of_isCamelCase h
  have hsome : (String.ofList (c :: rest)).isEmpty = false := by simp
  have hordinary : "__".toList.isPrefixOf (c :: rest) = false := by
    show ['_', '_'].isPrefixOf (c :: rest) = false
    rw [List.isPrefixOf_cons_cons, beq_false_of_ne (ne_underscore_of_isAlphanum hc).symm,
      Bool.false_and]
  rw [checkMethodName, hsome, @String.toList_ofList (c :: rest), hordinary, h]
  rfl

theorem severity_of_mem_checkClassName {name : List Char} (h : isPascalCase name = true)
    {path : String} {cls : Node} {f : Finding}
    (hf : f ∈ checkClassName path cls (String.ofList name)) : f.severity = .info := by
  rw [checkClassName_of_isPascalCase h] at hf
  split at hf
  · cases hf
  · rw [List.mem_singleton.mp hf]
    rfl

theorem severity_of_mem_checkMethodName {name : List Char} (h : isCamelCase name = true)
    {path : String} {method : Node} {returns : Option String} {f : Finding}
    (hf : f ∈ checkMethodName path method (String.ofList name) returns) : f.severity = .info := by
  rw [checkMethodName_of_isCamelCase h] at hf
  split at hf
  · rw [List.mem_singleton.mp hf]
    rfl
  · cases hf

/-- A suggested name passes the check that suggests it. For a plain name it is in Pascal or camel
case, has the letters and digits of the plain one, and stays as it is when suggested for itself; no
class and no method is warned of for such a name. For a method with a truth value it is the
capitalised name after `is`, which is in camel case and begins as it should, so that nothing is
reported any more. For a class with a misplaced ending it
does not misplace this ending. -/
theorem suggestions_pass :
    (∀ name, IsPlain name →
      isPascalCase (pascalCase name) = true ∧ pascalCase (pascalCase name) = pascalCase name ∧
      isCamelCase (camelCase name) = true ∧ camelCase (camelCase name) = camelCase name ∧
      (pascalCase name).map Char.toLower = (name.filter (· != '_')).map Char.toLower ∧
      (camelCase name).map Char.toLower = (name.filter (· != '_')).map Char.toLower ∧
      (∀ path cls, ∀ f ∈ checkClassName path cls (String.ofList (pascalCase name)),
        f.severity = .info) ∧
      ∀ path method returns,
        ∀ f ∈ checkMethodName path method (String.ofList (camelCase name)) returns,
          f.severity = .info) ∧
    (∀ name, isCamelCase name = true →
      booleanName name = "is".toList ++ capitalize name ∧
      isCamelCase (booleanName name) = true ∧ beginsBoolean (booleanName name) = true ∧
      ∀ path method returns,
        checkMethodName path method (String.ofList (booleanName name)) returns = []) ∧
    ∀ ending ∈ conventionEndings, ∀ name,
      misplaces ending.toList (withEnding ending.toList name) = false := by
  refine ⟨fun name hplain => ?_, fun name hcamel => ?_, fun ending _ name => ?_⟩
  · obtain ⟨hpascal, hsame⟩ := hplain.isPascalCase_pascalCase
    have hcamel : isCamelCase (camelCase name) = true := isCamelCase_uncapitalize hpascal
    refine ⟨hpascal, pascalCase_of_isPascalCase hpascal, hcamel, camelCase_of_isCamelCase hcamel,
      hsame, ?_, ?_, ?_⟩
    · rw [camelCase, map_toLower_uncapitalize hpascal, hsame]
    · intro path cls f hf
      exact severity_of_mem_checkClassName hpascal hf
    · intro path method returns f hf
      exact severity_of_mem_checkMethodName hcamel hf
  · have hboolean := isCamelCase_booleanName hcamel
    have hbegins := beginsBoolean_booleanName name
    refine ⟨rfl, hboolean, hbegins, fun path method returns => ?_⟩
    rw [checkMethodName_of_isCamelCase hboolean, hbegins, Bool.not_true, Bool.and_false]
    rfl
  · exact misplaces_withEnding ending.toList name

/-- With underscores around the name and within it. -/
theorem underscored_suggestion_passes :
    IsPlain "__user_id2__".toList ∧
      isPascalCase (pascalCase "__user_id2__".toList) = true ∧
      isCamelCase (camelCase "__user_id2__".toList) = true := by
  have hplain : IsPlain "__user_id2__".toList :=
    { chars := by simp, letter := ⟨'u', by decide, by decide⟩ }
  obtain ⟨hpascal, _, hcamel, _⟩ := suggestions_pass.1 _ hplain
  exact ⟨hplain, hpascal, hcamel⟩

example : pascalCase "__user_id2__".toList = "UserId2".toList := by decide

end CodeStyle

end PhpAudit
