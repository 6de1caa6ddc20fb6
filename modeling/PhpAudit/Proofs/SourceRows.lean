import PhpAudit.Proofs.UnwritableLiterals

/-!
Rows of a source. The grammar counts rows by newline bytes, and the rule about code style splits the
decoded text; the two agree on every byte string, since the decoder neither loses a newline in a
malformed sequence nor makes one of other bytes. The lines it calls too long are therefore rows,
with the numbers the grammar gives them.
-/

namespace PhpAudit

namespace Utf8

/-- What is owed can be settled by tail bytes only, and then is no newline. -/
def State.Clean : State → Prop
  | .ready => True
  | .owing _ low _ bits => 0x80 ≤ low.toNat ∧ 0x0A < bits * 64 + (low.toNat - 0x80)

theorem ofNat_ne_newline {n : Nat} (h : n ≠ 0x0A) : Char.ofNat n ≠ '\n' := by
  intro heq
  have hcode := congrArg Char.toNat heq
  by_cases hvalid : n.isValidChar
  · rw [Char.ofNat, dif_pos hvalid] at hcode
    exact h hcode
  · rw [Char.ofNat, dif_neg hvalid] at hcode
    cases hcode

theorem owing_clean (more : Nat) {low : UInt8} (high : UInt8) {bits : Nat} (hlow : 0x80 ≤ low)
    (hvalue : 0 < bits ∨ 0x8A < low) : (State.owing more low high bits).Clean := by
  rw [UInt8.le_iff_toNat_le] at hlow
  rw [UInt8.lt_iff_toNat_lt] at hvalue
  have htail : (0x80 : UInt8).toNat = 0x80 := rfl
  have hsecond : (0x8A : UInt8).toNat = 0x8A := rfl
  exact ⟨by omega, by omega⟩

/-- A first byte is a character of its own, is replaced, or begins a sequence. -/
theorem start_cases (b : UInt8) :
    start b = ([Char.ofNat b.toNat], .ready) ∨ start b = ([replacement], .ready) ∨
      ∃ state, start b = ([], state) ∧ state.Clean := by
  have above {lead : UInt8} {code : Nat} (hcode : lead.toNat = code) (hnot : ¬b < lead)
      (hother : b ≠ lead) : 0 < b.toNat - code := by
    have hne : b.toNat ≠ lead.toNat := fun heq => hother (UInt8.toNat_inj.mp heq)
    rw [UInt8.lt_iff_toNat_lt] at hnot
    omega
  unfold start
  by_cases hascii : b < 0x80
  · rw [if_pos hascii]
    exact Or.inl rfl
  rw [if_neg hascii]
  refine Or.inr ?_
  by_cases htail : b < 0xC2
  · rw [if_pos htail]
    exact Or.inl rfl
  rw [if_neg htail]
  by_cases htwo : b < 0xE0
  · rw [if_pos htwo]
    have hbits : 0 < b.toNat - 0xC0 := by
      rw [UInt8.lt_iff_toNat_lt] at htail
      have hcode : (0xC2 : UInt8).toNat = 0xC2 := rfl
      omega
    exact Or.inr ⟨_, rfl, owing_clean 1 0xBF (by decide) (Or.inl hbits)⟩
  rw [if_neg htwo]
  by_cases hE0 : b = 0xE0
  · rw [if_pos hE0]
    exact Or.inr ⟨_, rfl, owing_clean 2 0xBF (by decide) (Or.inr (by decide))⟩
  rw [if_neg hE0]
  by_cases hED : b = 0xED
  · rw [if_pos hED]
    exact Or.inr ⟨_, rfl, owing_clean 2 0x9F (by decide) (Or.inl (by decide))⟩
  rw [if_neg hED]
  by_cases hthree : b < 0xF0
  · rw [if_pos hthree]
    exact Or.inr ⟨_, rfl, owing_clean 2 0xBF (by decide) (Or.inl (above rfl htwo hE0))⟩
  rw [if_neg hthree]
  by_cases hF0 : b = 0xF0
  · rw [if_pos hF0]
    exact Or.inr ⟨_, rfl, owing_clean 3 0xBF (by decide) (Or.inr (by decide))⟩
  rw [if_neg hF0]
  by_cases hfour : b < 0xF4
  · rw [if_pos hfour]
    exact Or.inr ⟨_, rfl, owing_clean 3 0xBF (by decide) (Or.inl (above rfl hthree hF0))⟩
  rw [if_neg hfour]
  by_cases hF4 : b = 0xF4
  · rw [if_pos hF4]
    exact Or.inr ⟨_, rfl, owing_clean 3 0x8F (by decide) (Or.inl (by decide))⟩
  · rw [if_neg hF4]
    exact Or.inl rfl

theorem start_clean (b : UInt8) : (start b).2.Clean := by
  rcases start_cases b with h | h | ⟨state, h, hclean⟩ <;> rw [h]
  · trivial
  · trivial
  · exact hclean

theorem step_clean {state : State} (h : state.Clean) (b : UInt8) : (step state b).2.Clean := by
  cases state with
  | ready => exact start_clean b
  | owing more low high bits =>
      obtain ⟨hlow, hbits⟩ := h
      simp only [step]
      split
      · next hwithin =>
          have htail := UInt8.le_iff_toNat_le.mp hwithin.1
          split
          · trivial
          · refine ⟨by decide, ?_⟩
            show 0x0A < (bits * 64 + (b.toNat - 0x80)) * 64 + (0x80 - 0x80)
            omega
      · exact start_clean b

theorem newline_notMem_start {b : UInt8} (h : b ≠ 0x0A) : '\n' ∉ (start b).1 := by
  have hcode : b.toNat ≠ 0x0A := fun heq => h (UInt8.toNat_inj.mp heq)
  rcases start_cases b with heq | heq | ⟨state, heq, _⟩ <;> rw [heq]
  · simpa using (ofNat_ne_newline hcode).symm
  · decide
  · exact List.not_mem_nil

theorem newline_notMem_step {state : State} (hstate : state.Clean) {b : UInt8} (h : b ≠ 0x0A) :
    '\n' ∉ (step state b).1 := by
  cases state with
  | ready => exact newline_notMem_start h
  | owing more low high bits =>
      obtain ⟨hlow, hbits⟩ := hstate
      simp only [step]
      split
      · next hwithin =>
          have htail := UInt8.le_iff_toNat_le.mp hwithin.1
          split
          · have hcode : bits * 64 + (b.toNat - 0x80) ≠ 0x0A := by omega
            simpa using (ofNat_ne_newline hcode).symm
          · exact List.not_mem_nil
      · rw [List.mem_cons, not_or]
        exact ⟨by decide, newline_notMem_start h⟩

/-- A newline byte ends whatever stands before it. -/
theorem step_newline {state : State} (h : state.Clean) :
    step state 0x0A = (finish state ++ ['\n'], .ready) := by
  cases state with
  | ready => rfl
  | owing more low high bits =>
      have hoff : ¬(low ≤ 0x0A ∧ (0x0A : UInt8) ≤ high) := by
        rw [UInt8.le_iff_toNat_le]
        have hlow : 0x80 ≤ low.toNat := h.1
        have hcode : (0x0A : UInt8).toNat = 0x0A := rfl
        omega
      simp only [step, if_neg hoff]
      rfl

theorem newline_notMem_finish (state : State) : '\n' ∉ finish state := by
  cases state with
  | ready => exact List.not_mem_nil
  | owing more low high bits =>
      show '\n' ∉ [replacement]
      decide

/-- The first row is read on from a state, each further one from the start. -/
def decodeRows (state : State) : List Bytes → List (List Char)
  | [] => []
  | row :: rest => decodeFrom state row :: rest.map decodeChars

theorem decodeRows_ready (rows : List Bytes) : decodeRows .ready rows = rows.map decodeChars := by
  cases rows <;> rfl

theorem splitOn_append {α : Type} [BEq α] [LawfulBEq α] {sep : α} {front : List α}
    (h : sep ∉ front) (rest : List α) :
    (front ++ rest).splitOn sep = (rest.splitOn sep).modifyHead (front ++ ·) := by
  induction front with
  | nil => exact (congrFun List.modifyHead_id _).symm
  | cons x front ih =>
      have hx : (x == sep) = false := by
        rw [beq_eq_false_iff_ne]
        rintro rfl
        exact h List.mem_cons_self
      rw [List.cons_append, List.splitOn_cons_eq_if_modifyHead, hx, if_neg Bool.false_ne_true,
        ih fun hmem => h (List.mem_cons_of_mem x hmem), List.modifyHead_modifyHead]
      rfl

theorem splitOn_decodeFrom {state : State} (h : state.Clean) (bytes : Bytes) :
    (decodeFrom state bytes).splitOn '\n' = decodeRows state (bytes.splitOn 0x0A) := by
  induction bytes generalizing state with
  | nil =>
      rw [decodeFrom, List.splitOn_eq_singleton (newline_notMem_finish state)]
      rfl
  | cons b rest ih =>
      rw [decodeFrom]
      by_cases hb : b = 0x0A
      · subst hb
        rw [step_newline h, List.append_assoc, List.singleton_append,
          List.splitOn_append_cons_self_of_not_mem (newline_notMem_finish state),
          @ih .ready trivial, decodeRows_ready, List.splitOn_cons_eq_if_modifyHead,
          if_pos (beq_self_eq_true _)]
        rfl
      · rw [splitOn_append (newline_notMem_step h hb), ih (step_clean h b),
          List.splitOn_cons_eq_if_modifyHead, if_neg (by simpa using hb)]
        cases hrows : rest.splitOn 0x0A with
        | nil => exact absurd hrows (List.splitOn_ne_nil _ _)
        | cons row rows => rfl

/-- Decoding a whole source and splitting it gives the rows that come of splitting the bytes and
decoding each row. -/
theorem splitOn_decodeChars (bytes : Bytes) :
    (decodeChars bytes).splitOn '\n' = (bytes.splitOn 0x0A).map decodeChars := by
  rw [decodeChars, @splitOn_decodeFrom .ready trivial, decodeRows_ready]

end Utf8

theorem Text.splitOnElem_eq_splitOn {α : Type} [BEq α] (sep : α) (xs : List α) :
    splitOnElem sep xs = xs.splitOn sep := by
  induction xs with
  | nil => rfl
  | cons x xs ih =>
      rw [splitOnElem, List.splitOn_cons_eq_if_modifyHead, ih]
      split
      · rfl
      · cases hpieces : xs.splitOn sep with
        | nil => exact absurd hpieces (List.splitOn_ne_nil _ _)
        | cons piece rest => rfl

namespace Finding

/-- Whether the message of a finding opens with a text. -/
def opensWith (opening : String) (f : Finding) : Bool :=
  match f.message with
  | .text s => opening.toList.isPrefixOf s.toList
  | _ => false

/-- The message of a finding begins with a character. -/
def Begins (c : Char) (f : Finding) : Prop :=
  ∃ message, f.message = .text message ∧ message.toList.head? = some c

/-- A finding that begins otherwise says something else. -/
theorem opensWith_of_begins {f : Finding} {c d : Char} (h : f.Begins c) {opening : String}
    (hopening : opening.toList.head? = some d) (hc : c ≠ d) : f.opensWith opening = false := by
  obtain ⟨message, hmessage, hhead⟩ := h
  obtain ⟨word, hword⟩ := List.head?_eq_some_iff.mp hopening
  obtain ⟨rest, hrest⟩ := List.head?_eq_some_iff.mp hhead
  rw [opensWith, hmessage]
  show opening.toList.isPrefixOf message.toList = false
  rw [hword, hrest, List.isPrefixOf_cons_cons, beq_false_of_ne hc.symm, Bool.false_and]

theorem begins_of_opensWith {f : Finding} {opening : String} (h : f.opensWith opening = true)
    {c : Char} (hopening : opening.toList.head? = some c) : f.Begins c := by
  unfold opensWith at h
  split at h
  · next message hmessage =>
      obtain ⟨rest, hrest⟩ := List.isPrefixOf_iff_prefix.mp h
      exact ⟨message, hmessage, by rw [← hrest, List.head?_append, hopening, Option.some_or]⟩
  · cases h

theorem filter_opensWith_eq_nil (opening : String) {d : Char}
    (hopening : opening.toList.head? = some d) {others : List Char} (hd : d ∉ others)
    {fs : List Finding} (hfs : ∀ f ∈ fs, ∃ c ∈ others, f.Begins c) :
    fs.filter (opensWith opening) = [] := by
  rw [List.filter_eq_nil_iff]
  intro f hf
  obtain ⟨c, hc, hbegins⟩ := hfs f hf
  rw [opensWith_of_begins hbegins hopening fun heq => hd (heq ▸ hc)]
  exact Bool.false_ne_true

end Finding

theorem RuleCard.begins_finding (card : RuleCard) (path : String) (line : Nat) {opening : String}
    {c : Char} (h : opening.toList.head? = some c) (rest badCode fix : String) (severity : Severity)
    (category : String) (metadata : Mapping String Value) :
    (card.finding path line (opening ++ rest) badCode fix severity category metadata).Begins c :=
  ⟨_, rfl, by rw [String.toList_append, List.head?_append, h, Option.some_or]⟩

namespace CodeStyle

/-- Characters of a row, which is decoded by itself and loses the carriage return that ends it. -/
def rowWidth (row : Bytes) : Nat := (Text.dropReturn (Utf8.decodeChars row)).length

/-- The rows between newline bytes that have more than `limit` characters: their numbers, from 1 on,
and their widths. -/
def overlongRows (limit : Int) (source : Bytes) : List (Nat × Nat) :=
  (((source.splitOn 0x0A).zipIdx 1).map fun e => (e.2, rowWidth e.1)).filter fun e =>
    decide (limit < e.2)

def longLineText (width : Nat) : String := "Line is too long (" ++ toString width ++ " characters)"

theorem pairwise_overlongRows (limit : Int) (source : Bytes) :
    ((overlongRows limit source).map (·.1)).Pairwise (· < ·) := by
  rw [List.pairwise_map]
  refine List.Pairwise.filter _ (List.pairwise_map.mp ?_)
  rw [List.map_map]
  have hnumbers : ((source.splitOn 0x0A).zipIdx 1).map Prod.snd =
      List.range' 1 (source.splitOn 0x0A).length := List.zipIdx_map_snd _ _
  exact hnumbers ▸ List.pairwise_lt_range' 1

theorem longLinesFrom_concat_nil {limit : Int} (h : 0 ≤ limit) (path : String) (number : Nat)
    (rows : List (List Char)) :
    longLinesFrom limit path number (rows ++ [[]]) = longLinesFrom limit path number rows := by
  induction rows generalizing number with
  | nil => simp [longLinesFrom, h]
  | cons row rest ih => rw [List.cons_append, longLinesFrom, longLinesFrom, ih]

/-- An empty last row that is not counted would not be too long. -/
theorem longLinesFrom_rows {limit : Int} (h : 0 ≤ limit) (path : String) (cs : List Char) :
    longLinesFrom limit path 1 (Text.rows cs) =
      longLinesFrom limit path 1 ((cs.splitOn '\n').map Text.dropReturn) := by
  simp only [Text.rows, Text.splitOnElem_eq_splitOn]
  split
  · next hlast =>
      rw [← longLinesFrom_concat_nil h, List.dropLast_append_getLast? _ hlast]
  · rfl

theorem place_finding (card : RuleCard) (path : String) {line : Nat} (h : 1 ≤ line)
    (message badCode fix : String) (severity : Severity) (category : String)
    (metadata : Mapping String Value) :
    ((card.finding path line message badCode fix severity category metadata).line,
      (card.finding path line message badCode fix severity category metadata).message) =
        ((line : Int), Value.text message) := by
  simp [RuleCard.finding, h]

theorem map_longLinesFrom (limit : Int) (path : String) {number : Nat} (h : 1 ≤ number)
    (rows : List (List Char)) :
    (longLinesFrom limit path number rows).map (fun f => (f.line, f.message)) =
      (((rows.zipIdx number).map fun e => (e.2, e.1.length)).filter fun e =>
        decide (limit < e.2)).map fun e => ((e.1 : Int), .text (longLineText e.2)) := by
  induction rows generalizing number with
  | nil => rfl
  | cons row rest ih =>
      rw [longLinesFrom, List.zipIdx_cons, List.map_cons]
      split
      · next hshort =>
          rw [ih (Nat.le_succ_of_le h), List.filter_cons_of_neg (by simpa using hshort)]
      · next hlong =>
          rw [List.map_cons, ih (Nat.le_succ_of_le h),
            List.filter_cons_of_pos (by simpa using hlong), List.map_cons]
          exact congrArg (· :: _) (place_finding card path h _ _ _ _ _ _)

/-- The lines that are called too long are the overlong rows. -/
theorem map_longLines {limit : Int} (h : 0 ≤ limit) (path : String) (tree : SyntaxTree) :
    (longLinesFrom limit path 1 tree.lines).map (fun f => (f.line, f.message)) =
      (overlongRows limit tree.source).map fun e => ((e.1 : Int), .text (longLineText e.2)) := by
  rw [SyntaxTree.lines, longLinesFrom_rows h, map_longLinesFrom limit path (Nat.le_refl 1),
    Utf8.splitOn_decodeChars, overlongRows, List.map_map, List.zipIdx_map, List.map_map]
  rfl

theorem opensWith_longLine (card : RuleCard) (path : String) (line width : Nat)
    (badCode fix : String) (severity : Severity) (category : String)
    (metadata : Mapping String Value) :
    (card.finding path line (longLineText width) badCode fix severity category
      metadata).opensWith "Line is too long (" = true := by
  have hbegins (a b c : String) : a.toList ++ (b ++ c).toList = (a ++ b ++ c).toList := by
    rw [String.append_assoc, String.toList_append (s := a)]
  exact List.isPrefixOf_iff_prefix.mpr ⟨_, hbegins _ _ _⟩

theorem begins_of_mem_checkClassName {path : String} {cls : Node} {name : String} {f : Finding}
    (h : f ∈ checkClassName path cls name) : f.Begins 'C' := by
  unfold checkClassName at h
  split at h
  · cases h
  · rcases List.mem_append.mp h with h | h <;> split at h
    · cases h
    · rw [List.mem_singleton.mp h]
      exact card.begins_finding _ _ rfl ..
    · cases h
    · rw [List.mem_singleton.mp h]
      exact card.begins_finding _ _ rfl ..

theorem begins_of_mem_checkMethodName {path : String} {method : Node} {name : String}
    {returns : Option String} {f : Finding} (h : f ∈ checkMethodName path method name returns) :
    ∃ c ∈ ['M', 'B'], f.Begins c := by
  unfold checkMethodName at h
  split at h
  · cases h
  · rcases List.mem_append.mp h with h | h <;> split at h
    · cases h
    · rw [List.mem_singleton.mp h]
      exact ⟨'M', by decide, card.begins_finding _ _ rfl ..⟩
    · rw [List.mem_singleton.mp h]
      exact ⟨'B', by decide, card.begins_finding _ _ rfl ..⟩
    · cases h

theorem begins_of_mem_checkNaming {tree : SyntaxTree} {path : String} {f : Finding}
    (h : f ∈ checkNaming tree path) : ∃ c ∈ ['C', 'M', 'B'], f.Begins c := by
  rcases List.mem_append.mp h with h | h
  · obtain ⟨cls, _, h⟩ := List.mem_flatMap.mp h
    exact ⟨'C', by decide, begins_of_mem_checkClassName h⟩
  · obtain ⟨method, _, h⟩ := List.mem_flatMap.mp h
    obtain ⟨c, hc, hbegins⟩ := begins_of_mem_checkMethodName h
    exact ⟨c, List.mem_cons_of_mem _ hc, hbegins⟩

theorem begins_of_mem_checkStructure {tree : SyntaxTree} {path : String} {f : Finding}
    (h : f ∈ checkStructure tree path) : ∃ c ∈ ['F', 'U'], f.Begins c := by
  rcases List.mem_append.mp h with h | h
  · split at h
    · rw [List.mem_singleton.mp h]
      exact ⟨'F', by decide, _, rfl, rfl⟩
    · cases h
  · obtain ⟨i, _, rfl⟩ := List.mem_map.mp h
    exact ⟨'U', by decide, card.begins_finding _ _ rfl ..⟩

theorem begins_of_mem_checkConventions {tree : SyntaxTree} {path : String} {f : Finding}
    (h : f ∈ checkConventions tree path) : ∃ c ∈ ['C', 'M'], f.Begins c := by
  obtain ⟨cls, _, h⟩ := List.mem_flatMap.mp h
  obtain ⟨ending, hending, rfl⟩ := List.mem_map.mp h
  obtain ⟨c, hc, hhead⟩ : ∃ c ∈ ['C', 'M'], ending.toList.head? = some c := by
    have hlisted := (List.mem_filter.mp hending).1
    simp only [conventionEndings, List.mem_cons, List.not_mem_nil, or_false] at hlisted
    rcases hlisted with rfl | rfl
    · exact ⟨'C', by decide, rfl⟩
    · exact ⟨'M', by decide, rfl⟩
  refine ⟨c, hc, _, rfl, ?_⟩
  simp only [String.toList_append, List.head?_append, hhead, Option.some_or]

theorem begins_magicFinding {tree : SyntaxTree} {path : String} {node : Node} {f : Finding}
    (h : magicFinding tree path node = .ok f) : f.Begins 'M' := by
  unfold magicFinding at h
  dsimp only at h
  split at h
  · obtain ⟨shown, _, h⟩ := exists_ok_of_bind h
    cases h
    exact card.begins_finding _ _ rfl ..
  · cases h
    exact card.begins_finding _ _ rfl ..

theorem begins_of_mem_magicFindings {tree : SyntaxTree} {path : String} {nodes : List Node}
    {findings : List Finding} (hfindings : magicFindings tree path nodes = .ok findings)
    {f : Finding} (h : f ∈ findings) : f.Begins 'M' := by
  induction nodes generalizing findings with
  | nil =>
      cases hfindings
      cases h
  | cons node rest ih =>
      obtain ⟨first, hfirst, hfindings⟩ := exists_ok_of_bind hfindings
      obtain ⟨others, hothers, hfindings⟩ := exists_ok_of_bind hfindings
      cases hfindings
      rcases List.mem_cons.mp h with rfl | h
      · exact begins_magicFinding hfirst
      · exact ih hothers h

theorem opensWith_of_mem_longLinesFrom {limit : Int} {path : String} {number : Nat}
    {rows : List (List Char)} {f : Finding} (h : f ∈ longLinesFrom limit path number rows) :
    f.opensWith "Line is too long (" = true := by
  induction rows generalizing number with
  | nil => cases h
  | cons row rest ih =>
      rw [longLinesFrom] at h
      split at h
      · exact ih h
      · rcases List.mem_cons.mp h with rfl | h
        · exact opensWith_longLine ..
        · exact ih h

/-- The findings of the rule in parts. Those about names, numbers and conventions begin with none of
the characters that the others do. -/
theorem perform_parts {chosen : Mapping String Value} {tree : SyntaxTree} {path : String}
    {findings : List Finding} (h : perform chosen tree path = .ok findings) :
    ∃ numbers limit, card.integerOption chosen "max_line_length" = .ok limit ∧
      findings = checkNaming tree path ++ checkStructure tree path ++
        (numbers ++ longLinesFrom limit path 1 tree.lines) ++ checkConventions tree path ∧
      ∀ f ∈ checkNaming tree path ++ numbers ++ checkConventions tree path,
        ∃ c ∈ ['C', 'M', 'B'], f.Begins c := by
  obtain ⟨readability, hreadability, h⟩ := exists_ok_of_bind h
  obtain ⟨numbers, hnumbers, hreadability⟩ := exists_ok_of_bind hreadability
  obtain ⟨limit, hlimit, hreadability⟩ := exists_ok_of_bind hreadability
  cases h
  cases hreadability
  refine ⟨numbers, limit, hlimit, rfl, fun f hf => ?_⟩
  rw [List.mem_append, List.mem_append] at hf
  rcases hf with (hf | hf) | hf
  · exact begins_of_mem_checkNaming hf
  · exact ⟨'M', by decide, begins_of_mem_magicFindings hnumbers hf⟩
  · obtain ⟨c, hc, hbegins⟩ := begins_of_mem_checkConventions hf
    exact ⟨c, List.mem_append_left ['B'] hc, hbegins⟩

/-- Of all that the rule finds, the findings about long lines are those made from the rows. -/
theorem filter_perform {chosen : Mapping String Value} {limit : Int}
    (hlimit : card.integerOption chosen "max_line_length" = .ok limit) {tree : SyntaxTree}
    {path : String} {findings : List Finding} (h : perform chosen tree path = .ok findings) :
    findings.filter (Finding.opensWith "Line is too long (") =
      longLinesFrom limit path 1 tree.lines := by
  obtain ⟨numbers, most, hmost, rfl, hothers⟩ := perform_parts h
  rw [hlimit] at hmost
  cases hmost
  have hrows : (longLinesFrom limit path 1 tree.lines).filter
      (Finding.opensWith "Line is too long (") = longLinesFrom limit path 1 tree.lines :=
    List.filter_eq_self.mpr fun f => opensWith_of_mem_longLinesFrom
  have hstructure : (checkStructure tree path).filter
      (Finding.opensWith "Line is too long (") = [] :=
    Finding.filter_opensWith_eq_nil _ rfl (by decide) fun f => begins_of_mem_checkStructure
  have hnone := Finding.filter_opensWith_eq_nil "Line is too long (" rfl (by decide) hothers
  simp only [List.filter_append, List.append_eq_nil_iff] at hnone
  simp only [List.filter_append, hnone, hstructure, hrows, List.nil_append, List.append_nil]

/-- Any number may be the length of the longest line. Let it not be negative, and let a rule with
this length perform on a tree. Unless a literal cannot be written, in which case there are no
findings at all, its findings about long lines are the overlong rows of the source, in increasing
order and each with its width. Rows are those of the decoded text as well as those of the bytes. -/
theorem long_lines_are_rows {limit : Int} (hlimit : 0 ≤ limit) :
    (∃ rule, build (.map [("max_line_length", .int limit)]) = .ok rule ∧
        card.integerOption rule.chosen "max_line_length" = .ok limit) ∧
      ∀ (options : Value) (rule : Rule) (tree : SyntaxTree) (path : String),
        build options = .ok rule →
        card.integerOption rule.chosen "max_line_length" = .ok limit →
        rule.body = .tree (fun tree path => RuleCard.script (perform rule.chosen tree path)) ∧
          ((∃ findings, perform rule.chosen tree path = .ok findings) ↔ ¬Unwritable tree) ∧
          (∀ findings, perform rule.chosen tree path = .ok findings →
            (findings.filter (Finding.opensWith "Line is too long (")).map
              (fun f => (f.line, f.message)) =
              (overlongRows limit tree.source).map fun e =>
                ((e.1 : Int), .text (longLineText e.2))) ∧
          ((overlongRows limit tree.source).map (·.1)).Pairwise (· < ·) ∧
          (Utf8.decodeChars tree.source).splitOn '\n' =
            (tree.source.splitOn 0x0A).map Utf8.decodeChars := by
  refine ⟨⟨_, rfl, rfl⟩, fun options rule tree path hbuilt hchosen => ?_⟩
  refine ⟨RuleCard.body_of_build hbuilt, ?_, fun findings hfindings => ?_, pairwise_overlongRows _ _,
    Utf8.splitOn_decodeChars _⟩
  · rcases perform_cases hchosen tree path with ⟨hwritable, hfound⟩ | ⟨hunwritable, hfail⟩
    · exact ⟨fun _ => hwritable, fun _ => hfound⟩
    · refine ⟨?_, fun hwritable => absurd hunwritable hwritable⟩
      rintro ⟨findings, hfound⟩
      rw [hfail] at hfound
      cases hfound
  · rw [filter_perform hchosen hfindings, map_longLines hlimit]

/-- Two rows: a sequence cut short by the newline, and three characters with a carriage return. -/
def malformedRows : SyntaxTree where
  root := ⟨"program", 0, 8, 1, 3, [], [], false, false⟩
  source := [0xE2, 0x82, 0x0A, 0x61, 0x62, 0x63, 0x0D, 0x0A]

theorem writable_malformedRows : ¬Unwritable malformedRows := by
  rintro ⟨literal, n, ⟨_⟩ | ⟨_, hchild, _⟩, hinteger, _⟩
  · exact absurd hinteger (by decide)
  · cases hchild

theorem overlongRows_hexBytes {limit : Int} {n : Nat} (h : limit < (n + 3 : Nat)) :
    overlongRows limit (IntLiteral.hexBytes (n + 1)) = [(1, n + 3)] := by
  have hrow : (IntLiteral.hexBytes (n + 1)).splitOn 0x0A = [IntLiteral.hexBytes (n + 1)] := by
    apply List.splitOn_eq_singleton
    simp [IntLiteral.hexBytes, List.mem_replicate]
  have hwidth : rowWidth (IntLiteral.hexBytes (n + 1)) = n + 3 := by
    have hend : '0' :: 'x' :: List.replicate (n + 1) 'f' =
        ('0' :: 'x' :: List.replicate n 'f') ++ ['f'] := by
      simp [List.replicate_succ']
    rw [rowWidth, IntLiteral.decodeChars_hexBytes, hend, Text.dropReturn, List.getLast?_concat,
      if_neg (by decide)]
    simp
  rw [overlongRows, hrow]
  simp only [List.zipIdx_singleton, List.map_cons, List.map_nil, hwidth]
  exact List.filter_cons_of_pos (decide_eq_true h)

/-- With at most two characters to a line, only the second of the two rows is too long. The line of
a numeral of 3572 digits is too long by far, but is not found. -/
theorem malformed_and_wide_rows :
    (∃ rule findings, build (.map [("max_line_length", .int 2)]) = .ok rule ∧
      perform rule.chosen malformedRows "rows.php" = .ok findings ∧
      (findings.filter (Finding.opensWith "Line is too long (")).map
          (fun f => (f.line, f.message)) =
        [(2, .text "Line is too long (3 characters)")]) ∧
    ∃ rule, build (.map []) = .ok rule ∧
      overlongRows 120 (IntLiteral.hexBytes 3572) = [(1, 3574)] ∧
      ¬∃ findings, perform rule.chosen (Grammar.numeralTree (IntLiteral.hexBytes 3572))
        "wide.php" = .ok findings := by
  constructor
  · obtain ⟨⟨rule, hbuilt, hchosen⟩, hrule⟩ := long_lines_are_rows (show (0 : Int) ≤ 2 by decide)
    obtain ⟨_, hends, hlong, _⟩ := hrule _ rule malformedRows "rows.php" hbuilt hchosen
    obtain ⟨findings, hfindings⟩ := hends.mpr writable_malformedRows
    refine ⟨rule, findings, hbuilt, hfindings, ?_⟩
    rw [hlong findings hfindings, show overlongRows 2 malformedRows.source = [(2, 3)] by decide]
    rfl
  · obtain ⟨rule, hbuilt⟩ : ∃ rule, build (.map []) = .ok rule := ⟨_, rfl⟩
    have hchosen : card.integerOption rule.chosen "max_line_length" = .ok 120 := by
      cases hbuilt
      rfl
    have hrule := (long_lines_are_rows (show (0 : Int) ≤ 120 by decide)).2 _ rule
      (Grammar.numeralTree (IntLiteral.hexBytes 3572)) "wide.php" hbuilt hchosen
    refine ⟨rule, hbuilt, overlongRows_hexBytes (by decide), fun hfound => ?_⟩
    exact hrule.2.1.mp hfound (unwritable_numeralTree (by decide) (by decide +kernel))

end CodeStyle

end PhpAudit
