import Mathlib.Data.Nat.Digits.Defs
import Mathlib.Data.Set.Function
import PhpAudit.TreeCache

/-!
Fingerprints tell contents apart as well as their digests do. A digest always has 64 characters,
so whatever modification times two fingerprints carry, equal fingerprints begin with equal digests.
-/

namespace PhpAudit

theorem Text.hexCode_length (width code : Nat) (hwidth : 0 < width) (hcode : code < 16 ^ width) :
    (Text.hexCode width code).length = width := by
  have hdigits : (Nat.toDigits 16 code).length ≤ width :=
    Nat.toDigits_length 16 code width hwidth hcode
  simp only [Text.hexCode, List.length_append, List.length_replicate]
  omega

namespace Sha256

theorem hexWord_length (w : UInt32) : (hexWord w).length = 8 := by
  apply Text.hexCode_length
  · decide
  · exact w.toNat_lt

theorem hexDigest_length (message : Bytes) : (hexDigest message).toList.length = 64 := by
  simp [hexDigest, hexWord_length]

/-- Two contents whose digests differ. -/
theorem injOn_hexDigest_pair : Set.InjOn hexDigest {[], [0]} := by
  have hne : hexDigest [] ≠ hexDigest [0] := by decide +kernel
  rintro a (rfl | rfl) b (rfl | rfl) h
  · rfl
  · exact absurd h hne
  · exact absurd h.symm hne
  · rfl

end Sha256

namespace TreeCache

/-- A fingerprint is the digest with something after it. -/
theorem fingerprint_eq_digest_append (content : Bytes) (mtime : Value) :
    ∃ suffix, fingerprint content mtime = Sha256.hexDigest content ++ suffix := by
  unfold fingerprint
  cases mtime with
  | null => exact ⟨"", by simp⟩
  | _ => exact ⟨_, String.append_assoc⟩

theorem digest_eq_of_fingerprint_eq {a b : Bytes} {s t : Value}
    (h : fingerprint a s = fingerprint b t) : Sha256.hexDigest a = Sha256.hexDigest b := by
  obtain ⟨x, hx⟩ := fingerprint_eq_digest_append a s
  obtain ⟨y, hy⟩ := fingerprint_eq_digest_append b t
  have hlists : (Sha256.hexDigest a).toList ++ x.toList =
      (Sha256.hexDigest b).toList ++ y.toList := by
    rw [← String.toList_append, ← String.toList_append, ← hx, ← hy, h]
  have hlengths : (Sha256.hexDigest a).toList.length = (Sha256.hexDigest b).toList.length := by
    rw [Sha256.hexDigest_length, Sha256.hexDigest_length]
  exact String.toList_inj.mp (List.append_inj_left hlists hlengths)

/-- Where digests do not collide, equal fingerprints stand for the same content. -/
theorem content_eq_of_fingerprint_eq {known : Set Bytes}
    (hdigest : Set.InjOn Sha256.hexDigest known)
    {a b : Bytes} (ha : a ∈ known) (hb : b ∈ known) {s t : Value}
    (h : fingerprint a s = fingerprint b t) : a = b :=
  hdigest ha hb (digest_eq_of_fingerprint_eq h)

end TreeCache

end PhpAudit
