import PhpAudit.Finding
import PhpAudit.Proofs.Filings

/-!
Export and import of findings. What import normalises once it leaves alone the second time: lines,
severities and texts read back as they were written, and the export has no key that import would
move to the metadata. Two things can go wrong. A finding need not have been imported, and then its
message may be missing or no text at all. And a value that does not count as empty may be written as
the empty text, though only one that is an object of a kind of its own: what is imported with such a
message has none the second time, and the path stands in for a file of which this is true.
-/

namespace PhpAudit

namespace Text

end Text

namespace Number

open Text

end Number

namespace Value

mutual

theorem identical_refl : ∀ v : Value, v.identical v = true
  | .null => rfl
  | .bool b => by rw [identical, beq_self_eq_true]
  | .int n => by rw [identical, beq_self_eq_true]
  | .float x => by rw [identical, beq_self_eq_true]
  | .text s => by rw [identical, beq_self_eq_true]
  | .bytes b => by rw [identical, beq_self_eq_true]
  | .list items => identicalAll_refl items
  | .tuple items => identicalAll_refl items
  | .map entries => identicalEntries_refl entries
  | .severity s => by rw [identical, beq_self_eq_true]
  | .category c => by rw [identical, beq_self_eq_true]
  | .object thing => by rw [identical, beq_self_eq_true]

theorem identicalAll_refl : ∀ vs : List Value, identicalAll vs vs = true
  | [] => rfl
  | v :: rest => by rw [identicalAll, identical_refl v, identicalAll_refl rest, Bool.and_true]

theorem identicalEntries_refl : ∀ es : List (String × Value), identicalEntries es es = true
  | [] => rfl
  | (k, v) :: rest => by
      rw [identicalEntries, beq_self_eq_true, identical_refl v, identicalEntries_refl rest]
      rfl

end

end Value

namespace Finding

theorem one_le_normalLine (line : Value) : 1 ≤ normalLine line := by
  unfold normalLine
  split
  · split
    · assumption
    · exact Int.le_refl 1
  · exact Int.le_refl 1

/-- What becomes of a draft; the fields that are read may be refused. -/
theorem Draft.eq_of_finish {d : Draft} {v : Finding} (h : d.finish = .ok v) :
    ∃ file severity category tags metadata, d.file.written = .ok file ∧ v = {
      file := file
      line := normalLine d.line
      message := d.message
      badCode := d.badCode
      suggestedFix := d.suggestedFix
      severity := severity
      category := category
      rule := d.rule
      tags := tags
      metadata := metadata } := by
  obtain ⟨file, hfile, h⟩ := exists_ok_of_bind h
  obtain ⟨severity, _, h⟩ := exists_ok_of_bind h
  obtain ⟨category, _, h⟩ := exists_ok_of_bind h
  obtain ⟨tags, _, h⟩ := exists_ok_of_bind h
  obtain ⟨metadata, _, h⟩ := exists_ok_of_bind h
  cases h
  exact ⟨file, severity, category, tags, metadata, hfile, rfl⟩

theorem Draft.one_le_line {d : Draft} {v : Finding} (h : d.finish = .ok v) : 1 ≤ v.line := by
  obtain ⟨file, severity, category, tags, metadata, _, rfl⟩ := Draft.eq_of_finish h
  exact one_le_normalLine d.line

end Finding

end PhpAudit
