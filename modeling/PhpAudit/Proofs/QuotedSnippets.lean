import PhpAudit.Proofs.DriverNames
import PhpAudit.Proofs.FaultLocation

/-!
What a parse fault quotes. The text of an error node is trimmed before it is divided into lines, and
every line boundary is blank. So a text of which anything is left begins with a line that is not
empty, and the fault quotes this line, or its first thirty characters with dots behind them.
-/

namespace PhpAudit

namespace Text

theorem isBlank_of_isLineBoundary {c : Char} (h : isLineBoundary c = true) : isBlank c = true := by
  simp only [isLineBoundary, Bool.or_eq_true, Bool.and_eq_true, decide_eq_true_eq, beq_iff_eq] at h
  simp only [isBlank, CodeRange.anyCovers, blankRanges, CodeRange.covers, List.any_cons,
    List.any_nil, Bool.or_eq_true, Bool.and_eq_true, decide_eq_true_eq]
  omega

/-- What stands before the first line boundary. -/
def firstLine (cs : List Char) : List Char := cs.takeWhile (!isLineBoundary ·)

theorem firstLine_of_boundary {c : Char} (rest : List Char) (h : isLineBoundary c = true) :
    firstLine (c :: rest) = [] :=
  List.takeWhile_cons_of_neg (by simp [h])

theorem firstLine_of_other {c : Char} (rest : List Char) (h : isLineBoundary c = false) :
    firstLine (c :: rest) = c :: firstLine rest :=
  List.takeWhile_cons_of_pos (by simp [h])

/-- Dividing a text that is not empty gives a line, and the first is what stands before the first
boundary. -/
theorem head?_splitLines {cs : List Char} (h : cs ≠ []) :
    (splitLines cs).head? = some (firstLine cs) := by
  fun_induction splitLines cs with
  | case1 => exact absurd rfl h
  | case2 rest ih => rw [firstLine_of_boundary _ (by decide), List.head?_cons]
  | case3 c rest _ hboundary ih => rw [firstLine_of_boundary _ hboundary, List.head?_cons]
  | case4 c rest _ hother hnone ih =>
      rw [firstLine_of_other _ (Bool.eq_false_iff.mpr hother), List.head?_cons]
      cases rest with
      | nil => rfl
      | cons next others =>
          have hsome := ih (List.cons_ne_nil _ _)
          rw [hnone] at hsome
          cases hsome
  | case5 c rest _ hother line others hsome ih =>
      have hrest : rest ≠ [] := by
        rintro rfl
        cases hsome
      have hline := ih hrest
      rw [hsome, List.head?_cons, Option.some.injEq] at hline
      rw [firstLine_of_other _ (Bool.eq_false_iff.mpr hother), List.head?_cons, hline]

theorem isLineBoundary_of_mem_firstLine {cs : List Char} {c : Char} (h : c ∈ firstLine cs) :
    isLineBoundary c = false := by
  simpa using List.mem_takeWhile_imp h

/-- A text is its first line and a rest that is empty or begins with a boundary. -/
theorem exists_eq_firstLine_append (cs : List Char) :
    ∃ rest, cs = firstLine cs ++ rest ∧ ∀ c ∈ rest.head?, isLineBoundary c = true := by
  refine ⟨cs.dropWhile (!isLineBoundary ·), List.takeWhile_append_dropWhile.symm, fun c hc => ?_⟩
  have hhead := List.head?_dropWhile_not (!isLineBoundary ·) cs
  rw [Option.mem_def.mp hc] at hhead
  simpa using hhead

/-- Since a boundary is blank, no trimmed text begins with one. -/
theorem firstLine_trimChars_ne_nil {cs : List Char} (h : trimChars cs ≠ []) :
    firstLine (trimChars cs) ≠ [] := by
  cases htrimmed : trimChars cs with
  | nil => exact absurd htrimmed h
  | cons c rest =>
      have hblank : isBlank c = false := head_trimWhile htrimmed
      have hother : isLineBoundary c = false := by
        by_contra hboundary
        rw [isBlank_of_isLineBoundary (Bool.eq_true_of_not_eq_false hboundary)] at hblank
        cases hblank
      rw [firstLine_of_other _ hother]
      exact List.cons_ne_nil _ _

end Text

namespace ParseFault

/-- What is quoted of a text: all up to a line boundary or the end, if that is within thirty
characters, and otherwise the first thirty with dots behind them. -/
def Abridges (text quoted : List Char) : Prop :=
  ∃ shown rest, text = shown ++ rest ∧
    (quoted = shown ∧ shown.length ≤ 30 ∧ (∀ c ∈ rest.head?, Text.isLineBoundary c = true) ∨
      quoted = shown ++ "...".toList ∧ shown.length = 30 ∧
        ∃ c ∈ rest.head?, Text.isLineBoundary c = false)

theorem shorten_of_long {line : List Char} (h : 30 < line.length) :
    shorten line = line.take 30 ++ "...".toList :=
  if_pos h

theorem shorten_of_short {line : List Char} (h : line.length ≤ 30) : shorten line = line :=
  if_neg (Nat.not_lt_of_le h)

theorem length_shorten_le (line : List Char) : (shorten line).length ≤ 33 := by
  rcases Nat.lt_or_ge 30 line.length with hlong | hshort
  · rw [shorten_of_long hlong, List.length_append, List.length_take_of_le (Nat.le_of_lt hlong)]
    decide
  · rw [shorten_of_short hshort]
    omega

theorem shorten_ne_nil {line : List Char} (h : line ≠ []) : shorten line ≠ [] := by
  rcases Nat.lt_or_ge 30 line.length with hlong | hshort
  · rw [shorten_of_long hlong]
    exact List.append_ne_nil_of_right_ne_nil _ (by decide)
  · rw [shorten_of_short hshort]
    exact h

/-- Shortening brings in nothing but dots. -/
theorem mem_shorten {line : List Char} {c : Char} (h : c ∈ shorten line) : c ∈ line ∨ c = '.' := by
  rcases Nat.lt_or_ge 30 line.length with hlong | hshort
  · rw [shorten_of_long hlong, List.mem_append] at h
    rcases h with hshown | hdots
    · exact .inl (List.mem_of_mem_take hshown)
    · exact .inr (by simpa using hdots)
  · rw [shorten_of_short hshort] at h
    exact .inl h

theorem abridges_shorten_firstLine (text : List Char) :
    Abridges text (shorten (Text.firstLine text)) := by
  obtain ⟨rest, htext, hends⟩ := Text.exists_eq_firstLine_append text
  rcases Nat.lt_or_ge 30 (Text.firstLine text).length with hlong | hshort
  · -- The line goes on behind the cut, with a character of its own.
    obtain ⟨next, more, hmore⟩ := List.exists_cons_of_length_pos
      (l := (Text.firstLine text).drop 30) (by rw [List.length_drop]; omega)
    have hnext : next ∈ Text.firstLine text :=
      List.mem_of_mem_drop (hmore ▸ List.mem_cons_self)
    refine ⟨(Text.firstLine text).take 30, (Text.firstLine text).drop 30 ++ rest, ?_,
      .inr ⟨shorten_of_long hlong, List.length_take_of_le (Nat.le_of_lt hlong), next, ?_,
        Text.isLineBoundary_of_mem_firstLine hnext⟩⟩
    · rw [← List.append_assoc, List.take_append_drop]
      exact htext
    · rw [hmore]
      rfl
  · exact ⟨_, rest, htext, .inl ⟨shorten_of_short hshort, hshort, hends⟩⟩

theorem snippet?_nil : snippet? [] = some "end of file".toList := by decide

theorem snippet?_of_ne_nil {trimmed : List Char} (h : trimmed ≠ []) :
    snippet? trimmed = some (shorten (Text.firstLine trimmed)) := by
  rw [snippet?, if_neg (by simpa using h), Text.head?_splitLines h, Option.map_some]

/-- Of every text, once trimmed, there is something to quote. -/
theorem snippet?_trimChars (cs : List Char) :
    ∃ quoted, snippet? (Text.trimChars cs) = some quoted ∧ quoted ≠ [] ∧
      (∀ c ∈ quoted, Text.isLineBoundary c = false) ∧ quoted.length ≤ 33 ∧
      (Text.trimChars cs = [] → quoted = "end of file".toList) ∧
      (Text.trimChars cs ≠ [] → Abridges (Text.trimChars cs) quoted) := by
  by_cases hempty : Text.trimChars cs = []
  · have hwords : "end of file".toList.all (!Text.isLineBoundary ·) = true := by decide
    rw [hempty]
    refine ⟨_, snippet?_nil, by decide, fun c hc => ?_, by decide, fun _ => rfl,
      fun h => absurd rfl h⟩
    simpa using List.all_eq_true.mp hwords c hc
  · refine ⟨_, snippet?_of_ne_nil hempty, shorten_ne_nil (Text.firstLine_trimChars_ne_nil hempty),
      fun c hc => ?_, length_shorten_le _, fun h => absurd h hempty,
      fun _ => abridges_shorten_firstLine _⟩
    rcases mem_shorten hc with hline | rfl
    · exact Text.isLineBoundary_of_mem_firstLine hline
    · decide

theorem ofTree_of_first {source : Bytes} {tree bad : Node}
    (h : tree.findFirst? (fun node => node.isMissing || node.isError) = some bad) :
    ofTree source tree = ofNode source bad := by
  rw [ofTree, h]

/-- An error node is either unterminated or quoted. -/
theorem ofNode_of_error {source : Bytes} {node : Node} {quoted : List Char}
    (herror : node.isMissing = false)
    (hquoted : snippet? (Text.trimChars (node.text source).toList) = some quoted) :
    (ofNode source node).saysUnterminated = true ∨
      ofNode source node = .unexpected (String.ofList quoted) node.startLine := by
  unfold ofNode
  rw [herror, if_neg Bool.false_ne_true]
  dsimp only
  split
  · exact .inl ((saysUnterminated_iff _).mpr ⟨_, .inl rfl⟩)
  · split
    · exact .inl ((saysUnterminated_iff _).mpr ⟨_, .inr rfl⟩)
    · rw [hquoted]
      exact .inr rfl

theorem saysUnexpected_of_saysUnterminated {fault : ParseFault}
    (h : fault.saysUnterminated = true) : fault.saysUnexpected = false := by
  rw [Bool.eq_false_iff, ne_eq, saysUnexpected_iff]
  rintro ⟨snippet, line, rfl⟩
  obtain ⟨_, hsame | hsame⟩ := (saysUnterminated_iff _).mp h
  · cases hsame
  · cases hsame

theorem saysUnexpected_unexpected (snippet : String) (line : Nat) :
    (unexpected snippet line).saysUnexpected = true :=
  (saysUnexpected_iff _).mpr ⟨snippet, line, rfl⟩

/-- Where the first bad node of a tree is an error, whatever bytes it covers, there is a line to
quote from its trimmed text, and the fault says that something is unexpected unless it says that
something is unterminated. If it does, it quotes at least one and at most thirty-three characters,
none of them a line boundary: the end of the file if the text is empty, and else the beginning of
the text, up to its first boundary or cut after thirty characters and marked by dots. -/
theorem unexpected_quotes_first_line (source : Bytes) {tree bad : Node}
    (hbad : tree.findFirst? (fun node => node.isMissing || node.isError) = some bad)
    (herror : bad.isMissing = false) :
    ∃ quoted, snippet? (Text.trimChars (bad.text source).toList) = some quoted ∧
      (ofTree source tree).saysUnexpected = !(ofTree source tree).saysUnterminated ∧
      ((ofTree source tree).saysUnexpected = true →
        (ofTree source tree).message =
            "Syntax error, unexpected '" ++ String.ofList quoted ++ "' on line " ++
              toString bad.startLine ∧
          quoted ≠ [] ∧ (∀ c ∈ quoted, Text.isLineBoundary c = false) ∧ quoted.length ≤ 33 ∧
          (Text.trimChars (bad.text source).toList = [] → quoted = "end of file".toList) ∧
          (Text.trimChars (bad.text source).toList ≠ [] →
            Abridges (Text.trimChars (bad.text source).toList) quoted)) := by
  obtain ⟨quoted, hquoted, hformed⟩ := snippet?_trimChars (bad.text source).toList
  refine ⟨quoted, hquoted, ?_⟩
  rw [ofTree_of_first hbad]
  rcases ofNode_of_error herror hquoted with hunterminated | hunexpected
  · have htells := saysUnexpected_of_saysUnterminated hunterminated
    rw [htells, hunterminated]
    exact ⟨rfl, fun h => absurd h Bool.false_ne_true⟩
  · have htells := saysUnexpected_unexpected (String.ofList quoted) bad.startLine
    rw [hunexpected]
    refine ⟨?_, fun _ => ⟨rfl, hformed⟩⟩
    rw [htells, eq_comm, Bool.not_eq_true', Bool.eq_false_iff]
    intro hunterminated
    rw [saysUnexpected_of_saysUnterminated hunterminated] at htells
    cases htells

/-- A stray byte, a long word and a semicolon below it. -/
def garbledSource : Bytes :=
  Utf8.ofAscii "<?php \n" ++ [0xFF] ++ Utf8.ofAscii "xxxxxxxxxxxxxxxxxxxxxxxxxxxxxx\r\n;\n"

/-- The error that stands for all behind the opening tag. -/
def garbledNode : Node := ⟨"ERROR", 5, 42, 1, 3, [], [], true, false⟩

def garbledTree : Node := .onFirstLine "program" 0 42 [(garbledNode, none)]

/-- The stray byte counts as one character, so the word is cut before its end. -/
theorem garbled_quotes_beginning :
    garbledTree.findFirst? (fun node => node.isMissing || node.isError) = some garbledNode ∧
      garbledNode.isMissing = false ∧
      (ofTree garbledSource garbledTree).saysUnexpected = true ∧
      ∃ quoted,
        (ofTree garbledSource garbledTree).message =
            "Syntax error, unexpected '" ++ String.ofList quoted ++ "' on line " ++
              toString garbledNode.startLine ∧
          quoted.length ≤ 33 ∧
          Abridges (Text.trimChars (garbledNode.text garbledSource).toList) quoted := by
  have hfirst : garbledTree.findFirst? (fun node => node.isMissing || node.isError) =
      some garbledNode := by
    simp [garbledTree, garbledNode, Node.onFirstLine, Node.findFirst?, Node.walk, Node.walkFrom]
  have htells : (ofTree garbledSource garbledTree).saysUnexpected = true := by
    rw [ofTree_of_first hfirst]
    decide +kernel
  obtain ⟨quoted, -, -, hquoted⟩ := unexpected_quotes_first_line garbledSource hfirst rfl
  obtain ⟨hmessage, -, -, hlength, -, habridges⟩ := hquoted htells
  exact ⟨hfirst, rfl, htells, quoted, hmessage, hlength, habridges (by decide +kernel)⟩

end ParseFault

end PhpAudit
