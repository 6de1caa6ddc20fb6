import Mathlib.Data.List.DropRight
import PhpAudit.Proofs.TreeConversion
import PhpAudit.Syntax.Parsing

/-!
Where a parse fault points. The fault is told from the converted tree, which has lost its anonymous
tokens and all that stood below them; so the node it is about is the first one of the concrete tree
that is missing or stands for an error and has no dropped token above it. What the fault says
depends on that node alone and on whether anything but blanks follows it.
-/

namespace PhpAudit

namespace Text

/-- What is left after trimming ends by a place exactly if only trimmed elements follow it. -/
theorem length_dropEndWhile_le_iff {α : Type} (p : α → Bool) (xs : List α) (n : Nat) :
    (dropEndWhile p xs).length ≤ n ↔ ∀ x ∈ xs.drop n, p x = true := by
  change (xs.rdropWhile p).length ≤ n ↔ _
  induction xs using List.reverseRecOn with
  | nil => simp
  | append_singleton xs x ih =>
      rw [List.rdropWhile_concat, List.drop_append]
      cases hx : p x with
      | true =>
          have hlast : ∀ y ∈ [x].drop (n - xs.length), p y = true := by
            intro y hy
            rw [List.mem_singleton.mp (List.mem_of_mem_drop hy), hx]
          rw [if_pos rfl, ih, List.forall_mem_append]
          exact ⟨fun h => ⟨h, hlast⟩, fun h => h.1⟩
      | false =>
          rw [if_neg Bool.false_ne_true, List.length_append, List.length_singleton,
            List.forall_mem_append]
          constructor
          · intro hlong
            have hfront : xs.drop n = [] := List.drop_eq_nil_of_le (by omega)
            have hlast : [x].drop (n - xs.length) = [] :=
              List.drop_eq_nil_of_le (by rw [List.length_singleton]; omega)
            simp [hfront, hlast]
          · rintro ⟨-, hlast⟩
            by_contra hshort
            have hzero : n - xs.length = 0 := by omega
            have := hlast x (by rw [hzero]; exact List.mem_singleton_self x)
            rw [hx] at this
            cases this

theorem begins_append (text rest : String) : text.toList <+: (text ++ rest).toList := by
  rw [String.toList_append]
  exact List.prefix_append _ _

/-- A text that opens in one way does not begin with what disagrees with this opening. -/
theorem not_begins_of_clash (opening : String) {beginning text : String}
    (hopens : opening.toList <+: text.toList)
    (hclash : (beginning.toList.isPrefixOf opening.toList ||
      opening.toList.isPrefixOf beginning.toList) = false) :
    ¬beginning.toList.isPrefixOf text.toList = true := by
  rw [Bool.or_eq_false_iff] at hclash
  simp only [Bool.eq_false_iff, ne_eq, List.isPrefixOf_iff_prefix] at hclash ⊢
  intro hbegins
  rcases List.prefix_or_prefix_of_prefix hbegins hopens with h | h
  · exact hclash.1 h
  · exact hclash.2 h

end Text

namespace RawNode

/-- Whether the node stands for something wrong in the source. -/
def isBad (node : RawNode) : Bool := node.isMissing || node.isError

/-- The nodes that are neither dropped nor below a dropped one, in pre-order. -/
def survivors (root : RawNode) : List RawNode :=
  (root.occurrences.filter Occurrence.survives).map (·.node)

/-- The first survivor that is missing or an error. -/
def firstBad? (root : RawNode) : Option RawNode := root.survivors.find? isBad

/-- The search in the converted tree comes upon that node. -/
theorem findFirst?_convert (root : RawNode) :
    root.convert.findFirst? (fun node => node.isMissing || node.isError) =
      root.firstBad?.map prune := by
  have hbad : (fun node : Node => node.isMissing || node.isError) ∘ prune = isBad := by
    funext node
    rw [Function.comp_apply, prune_eq]
    rfl
  have hwalk : root.convert.walk = root.survivors.map prune := by
    have hall : ([] : List RawNode).all isKept = true := rfl
    rw [convert_eq_prune, root.walk_prune hall, survivors, List.map_map]
    rfl
  rw [Node.findFirst?, hwalk, List.find?_map, hbad, firstBad?]

end RawNode

namespace ParseFault

theorem runsToEnd_iff (source : Bytes) (node : Node) :
    runsToEnd source node = true ↔
      ∀ b ∈ source.drop node.endByte, Text.isBlankByte b = true := by
  rw [runsToEnd, decide_eq_true_iff, Text.trimEndBytes, Text.length_dropEndWhile_le_iff]

def saysMissing (fault : ParseFault) : Bool :=
  "Syntax error, missing '".toList.isPrefixOf fault.message.toList

def saysUnterminated (fault : ParseFault) : Bool :=
  "Syntax error, unterminated ".toList.isPrefixOf fault.message.toList

def saysUnexpected (fault : ParseFault) : Bool :=
  "Syntax error, unexpected '".toList.isPrefixOf fault.message.toList

/-- The words with which the text of a fault opens, whatever it is about. -/
def opening : ParseFault → String
  | .unlocated => "Syntax error"
  | .missing .. => "Syntax error, missing '"
  | .unterminatedComment _ => "Syntax error, unterminated comment starting on line "
  | .unterminatedString _ => "Syntax error, unterminated string starting on line "
  | .unexpected .. => "Syntax error, unexpected '"

theorem opening_begins (fault : ParseFault) : fault.opening.toList <+: fault.message.toList := by
  cases fault with
  | unlocated => exact List.prefix_rfl
  | missing kind line =>
      exact ((Text.begins_append _ _).trans (Text.begins_append _ _)).trans (Text.begins_append _ _)
  | unterminatedComment line => exact Text.begins_append _ _
  | unterminatedString line => exact Text.begins_append _ _
  | unexpected snippet line =>
      exact ((Text.begins_append _ _).trans (Text.begins_append _ _)).trans (Text.begins_append _ _)

/-- The text of a fault tells a missing node from everything else. -/
theorem saysMissing_iff (fault : ParseFault) :
    fault.saysMissing = true ↔ ∃ kind line, fault = .missing kind line := by
  have hopens := fault.opening_begins
  constructor
  · intro hsays
    cases fault with
    | missing kind line => exact ⟨kind, line, rfl⟩
    | unlocated => exact absurd hsays (by decide +kernel)
    | unterminatedComment line =>
        exact absurd hsays (Text.not_begins_of_clash
          "Syntax error, unterminated comment starting on line " hopens (by decide +kernel))
    | unterminatedString line =>
        exact absurd hsays (Text.not_begins_of_clash
          "Syntax error, unterminated string starting on line " hopens (by decide +kernel))
    | unexpected snippet line =>
        exact absurd hsays (Text.not_begins_of_clash "Syntax error, unexpected '"
          hopens (by decide +kernel))
  · rintro ⟨kind, line, rfl⟩
    exact List.isPrefixOf_iff_prefix.mpr hopens

theorem saysUnexpected_iff (fault : ParseFault) :
    fault.saysUnexpected = true ↔ ∃ snippet line, fault = .unexpected snippet line := by
  have hopens := fault.opening_begins
  constructor
  · intro hsays
    cases fault with
    | unexpected snippet line => exact ⟨snippet, line, rfl⟩
    | unlocated => exact absurd hsays (by decide +kernel)
    | missing kind line =>
        exact absurd hsays (Text.not_begins_of_clash "Syntax error, missing '"
          hopens (by decide +kernel))
    | unterminatedComment line =>
        exact absurd hsays (Text.not_begins_of_clash
          "Syntax error, unterminated comment starting on line " hopens (by decide +kernel))
    | unterminatedString line =>
        exact absurd hsays (Text.not_begins_of_clash
          "Syntax error, unterminated string starting on line " hopens (by decide +kernel))
  · rintro ⟨snippet, line, rfl⟩
    exact List.isPrefixOf_iff_prefix.mpr hopens

theorem saysUnterminated_iff (fault : ParseFault) :
    fault.saysUnterminated = true ↔
      ∃ line, fault = .unterminatedComment line ∨ fault = .unterminatedString line := by
  have hopens := fault.opening_begins
  constructor
  · intro hsays
    cases fault with
    | unterminatedComment line => exact ⟨line, Or.inl rfl⟩
    | unterminatedString line => exact ⟨line, Or.inr rfl⟩
    | unlocated => exact absurd hsays (by decide +kernel)
    | missing kind line =>
        exact absurd hsays (Text.not_begins_of_clash "Syntax error, missing '"
          hopens (by decide +kernel))
    | unexpected snippet line =>
        exact absurd hsays (Text.not_begins_of_clash "Syntax error, unexpected '"
          hopens (by decide +kernel))
  · have hcomment : "Syntax error, unterminated ".toList <+:
        (opening (.unterminatedComment 0)).toList :=
      List.isPrefixOf_iff_prefix.mp (by decide +kernel)
    have hstring : "Syntax error, unterminated ".toList <+:
        (opening (.unterminatedString 0)).toList :=
      List.isPrefixOf_iff_prefix.mp (by decide +kernel)
    rintro ⟨line, rfl | rfl⟩
    · exact List.isPrefixOf_iff_prefix.mpr (hcomment.trans hopens)
    · exact List.isPrefixOf_iff_prefix.mpr (hstring.trans hopens)

/-- The fault of a node is about its first line. -/
theorem line_ofNode (source : Bytes) (node : Node) :
    (ofNode source node).line = node.startLine := by
  unfold ofNode
  split
  · rfl
  · dsimp only
    split
    · rfl
    · split <;> rfl

theorem saysMissing_ofNode (source : Bytes) (node : Node) :
    (ofNode source node).saysMissing = node.isMissing := by
  rw [Bool.eq_iff_iff, saysMissing_iff]
  unfold ofNode
  cases node.isMissing with
  | true => simp
  | false =>
      dsimp only
      rw [if_neg Bool.false_ne_true]
      split
      · simp
      · split <;> simp

theorem runsToEnd_of_saysUnterminated {source : Bytes} {node : Node}
    (h : (ofNode source node).saysUnterminated = true) : runsToEnd source node = true := by
  obtain ⟨line, h⟩ := (saysUnterminated_iff _).mp h
  unfold ofNode at h
  cases hends : runsToEnd source node with
  | true => rfl
  | false =>
      rw [hends] at h
      simp only [Bool.false_and, Bool.false_eq_true, if_false] at h
      split at h <;> simp at h

section Location

variable {source : Bytes} {root : RawNode}

theorem ofTree_of_none (h : root.firstBad? = none) : ofTree source root.convert = .unlocated := by
  rw [ofTree, root.findFirst?_convert, h]
  rfl

theorem ofTree_of_bad {bad : RawNode} (h : root.firstBad? = some bad) :
    ofTree source root.convert = ofNode source bad.prune := by
  rw [ofTree, root.findFirst?_convert, h]
  rfl

theorem line_ofTree (source : Bytes) (root : RawNode) :
    (ofTree source root.convert).line = (root.firstBad?.map (·.startRow + 1)).getD 1 := by
  cases hbad : root.firstBad? with
  | none =>
      rw [ofTree_of_none hbad]
      rfl
  | some bad =>
      rw [ofTree_of_bad hbad, line_ofNode, bad.prune_eq]
      rfl

theorem saysMissing_ofTree_iff (source : Bytes) (root : RawNode) :
    (ofTree source root.convert).saysMissing = true ↔
      ∃ bad, root.firstBad? = some bad ∧ bad.isMissing = true := by
  cases hbad : root.firstBad? with
  | none =>
      rw [ofTree_of_none hbad, saysMissing_iff]
      simp
  | some bad =>
      rw [ofTree_of_bad hbad, saysMissing_ofNode, bad.prune_eq]
      simp

/-- A fault about something missing names its kind and its line. -/
theorem message_ofTree_of_missing {bad : RawNode} (h : root.firstBad? = some bad)
    (hmissing : bad.isMissing = true) :
    (ofTree source root.convert).message =
      "Syntax error, missing '" ++ bad.kind ++ "' on line " ++ toString (bad.startRow + 1) := by
  have hfault : ofNode source bad.prune = .missing bad.kind (bad.startRow + 1) := by
    rw [ofNode, bad.prune_eq]
    exact if_pos hmissing
  rw [ofTree_of_bad h, hfault]
  rfl

/-- Nothing but blanks follows what is unterminated. -/
theorem blank_after_unterminated (h : (ofTree source root.convert).saysUnterminated = true) :
    ∃ bad, root.firstBad? = some bad ∧
      ∀ b ∈ source.drop bad.endByte, Text.isBlankByte b = true := by
  cases hbad : root.firstBad? with
  | none =>
      rw [ofTree_of_none hbad] at h
      exact absurd h (by decide +kernel)
  | some bad =>
      rw [ofTree_of_bad hbad] at h
      have hends := (runsToEnd_iff source bad.prune).mp (runsToEnd_of_saysUnterminated h)
      rw [bad.prune_eq] at hends
      exact ⟨bad, rfl, hends⟩

end Location

end ParseFault

/-- A reading has a tree exactly if the grammar reports no error. Otherwise it has a fault, on the
line of the first survivor that is missing or an error, or on the first line if there is none. The
fault says that something is missing, and what, exactly if that node is missing; and it says that
something is unterminated only if nothing but blanks follows the node in the source. -/
theorem Reading.fault_at_first_bad (reading : Reading) (source : Bytes) :
    ((∃ tree, reading.parse source = .ok tree) ↔ reading.hasError = false) ∧
      (reading.hasError = false → reading.parse source = .ok ⟨reading.root.convert, source⟩) ∧
      (reading.hasError = true →
        ∃ fault, reading.parse source = .error fault ∧ 1 ≤ fault.line ∧
          fault.line = (reading.root.firstBad?.map (·.startRow + 1)).getD 1 ∧
          (fault.saysMissing = true ↔
            ∃ bad, reading.root.firstBad? = some bad ∧ bad.isMissing = true) ∧
          (∀ bad, reading.root.firstBad? = some bad → bad.isMissing = true →
            fault.message = "Syntax error, missing '" ++ bad.kind ++ "' on line " ++
              toString (bad.startRow + 1)) ∧
          (fault.saysUnterminated = true →
            ∃ bad, reading.root.firstBad? = some bad ∧
              ∀ b ∈ source.drop bad.endByte, Text.isBlankByte b = true)) := by
  have hclean (h : reading.hasError = false) :
      reading.parse source = .ok ⟨reading.root.convert, source⟩ := by
    simp only [parse, h, Bool.false_eq_true, if_false]
  have hfaulty (h : reading.hasError = true) :
      reading.parse source = .error (ParseFault.ofTree source reading.root.convert) := by
    simp only [parse, h, if_true]
  refine ⟨⟨?_, fun h => ⟨_, hclean h⟩⟩, hclean, fun h => ⟨_, hfaulty h, ?_⟩⟩
  · rintro ⟨tree, htree⟩
    cases h : reading.hasError with
    | false => rfl
    | true => cases (hfaulty h).symm.trans htree
  · refine ⟨?_, ParseFault.line_ofTree _ _, ParseFault.saysMissing_ofTree_iff _ _,
      fun bad => ParseFault.message_ofTree_of_missing, ParseFault.blank_after_unterminated⟩
    rw [ParseFault.line_ofTree]
    cases reading.root.firstBad? with
    | none => exact Nat.le_refl 1
    | some bad => exact Nat.le_add_left 1 bad.startRow

end PhpAudit
