/-
  CodeStencil/Proofs/Literals/Fingerprints.lean
  =============================================
  **Fingerprints of similar texts** — each byte is mixed in by steps that can be undone, so states
  that differ once differ for good (`mixBytes_left_inj`). Texts that differ in a single byte
  therefore never have one fingerprint (`fingerprint_ne_of_differOnce`).
-/
import CodeStencil.Literals.Fingerprint
import CodeStencil.Proofs.Text.ByteOrder
import Mathlib.Data.List.Basic

namespace CodeStencil

variable {h h' : UInt64} {b b' : UInt8} {bytes as bs : List UInt8}

/-! ### Single steps -/

/-- The prime is odd, so it has an inverse modulo 2^64. -/
def fingerprintInverse : UInt64 := 0xce965057aff6957b

theorem fingerprintPrime_mul_inverse : fingerprintPrime * fingerprintInverse = 1 := by decide

theorem mul_fingerprintPrime_inj : h * fingerprintPrime = h' * fingerprintPrime ↔ h = h' := by
  constructor
  · intro heq
    have hback : ∀ n : UInt64, n * fingerprintPrime * fingerprintInverse = n := by
      intro n
      rw [UInt64.mul_assoc, fingerprintPrime_mul_inverse, UInt64.mul_one]
    rw [← hback h, heq, hback h']
  · intro heq
    rw [heq]

/-- The same byte keeps states apart. -/
theorem mixByte_left_inj : mixByte h b = mixByte h' b ↔ h = h' := by
  unfold mixByte
  rw [mul_fingerprintPrime_inj, UInt64.xor_left_inj]

/-- Different bytes lead apart. -/
theorem mixByte_right_inj : mixByte h b = mixByte h b' ↔ b = b' := by
  unfold mixByte
  rw [mul_fingerprintPrime_inj, UInt64.xor_right_inj, UInt8.toUInt64_inj]

/-! ### Many bytes -/

@[simp] theorem mixBytes_cons (h : UInt64) (b : UInt8) (bytes : List UInt8) :
    mixBytes h (b :: bytes) = mixBytes (mixByte h b) bytes := rfl

theorem mixBytes_append (h : UInt64) (as bs : List UInt8) :
    mixBytes h (as ++ bs) = mixBytes (mixBytes h as) bs := List.foldl_append

theorem mixBytes_left_inj : mixBytes h bytes = mixBytes h' bytes ↔ h = h' := by
  induction bytes generalizing h h' with
  | nil => rfl
  | cons b rest ih => rw [mixBytes_cons, mixBytes_cons, ih, mixByte_left_inj]

/-- Whatever the bytes around it are, one other byte leads elsewhere. -/
theorem mixBytes_around_inj (front back : List UInt8) :
    mixBytes h (front ++ b :: back) = mixBytes h (front ++ b' :: back) ↔ b = b' := by
  rw [mixBytes_append, mixBytes_append, mixBytes_cons, mixBytes_cons, mixBytes_left_inj,
    mixByte_right_inj]

/-! ### Texts that differ in one byte -/

/-- As many bytes, and they differ in exactly one place. -/
structure DifferOnce (as bs : List UInt8) : Prop where
  length_eq : as.length = bs.length
  place : ∃! i : Nat, as[i]? ≠ bs[i]?

theorem differOnce_iff : DifferOnce as bs ↔
    ∃ front x y back, x ≠ y ∧ as = front ++ x :: back ∧ bs = front ++ y :: back := by
  constructor
  · rintro ⟨hlength, i, hi, honly⟩
    have hsame : ∀ j, j ≠ i → as[j]? = bs[j]? := fun j hj =>
      Decidable.byContradiction fun hne => hj (honly j hne)
    have hbound : i < as.length := by
      rw [← Nat.not_le]
      intro hle
      exact hi (by rw [List.getElem?_eq_none hle, List.getElem?_eq_none (hlength ▸ hle)])
    refine ⟨as.take i, as[i], bs[i], as.drop (i + 1), ?_, ?_, ?_⟩
    · intro heq
      exact hi (by rw [List.getElem?_eq_getElem hbound, List.getElem?_eq_getElem, heq])
    · rw [List.getElem_cons_drop, List.take_append_drop]
    · have hfront : as.take i = bs.take i := by
        apply List.ext_getElem?
        intro j
        rw [List.getElem?_take, List.getElem?_take]
        split
        · next hj => exact hsame j hj.ne
        · rfl
      have hback : as.drop (i + 1) = bs.drop (i + 1) := by
        apply List.ext_getElem?
        intro j
        rw [List.getElem?_drop, List.getElem?_drop]
        exact hsame _ (by omega)
      rw [hfront, hback, List.getElem_cons_drop, List.take_append_drop]
  · rintro ⟨front, x, y, back, hne, rfl, rfl⟩
    refine ⟨by simp, front.length, by simpa using hne, ?_⟩
    intro j hj
    by_contra hother
    rcases Nat.lt_or_gt_of_ne hother with hlt | hgt
    · exact hj (by rw [List.getElem?_append_left hlt, List.getElem?_append_left hlt])
    · obtain ⟨n, rfl⟩ := Nat.exists_eq_add_of_lt hgt
      have hbehind : ∀ z, (front ++ z :: back)[front.length + n + 1]? = back[n]? := by
        intro z
        rw [Nat.add_assoc, List.getElem?_append_right (by omega), Nat.add_sub_cancel_left,
          List.getElem?_cons_succ]
      exact hj (by rw [hbehind, hbehind])

/-- No two texts whose encodings differ in exactly one byte have the same fingerprint. -/
theorem fingerprint_ne_of_differOnce {s t : String}
    (hdiffer : DifferOnce (Text.bytesOf s) (Text.bytesOf t)) : fingerprint s ≠ fingerprint t := by
  obtain ⟨front, x, y, back, hne, hs, ht⟩ := differOnce_iff.1 hdiffer
  intro heq
  change mixBytes fingerprintBasis (Text.bytesOf s) = mixBytes fingerprintBasis (Text.bytesOf t) at heq
  rw [hs, ht, mixBytes_around_inj] at heq
  exact hne heq

/-- The accents differ in the second of two bytes. -/
theorem fingerprint_accents_ne :
    DifferOnce (Text.bytesOf "café noir") (Text.bytesOf "cafè noir") ∧
      fingerprint "café noir" ≠ fingerprint "cafè noir" := by
  have hdiffer : DifferOnce (Text.bytesOf "café noir") (Text.bytesOf "cafè noir") :=
    differOnce_iff.2 ⟨Text.bytesOf "caf" ++ [0xc3], 0xa9, 0xa8, Text.bytesOf " noir",
      by decide, by decide, by decide⟩
  exact ⟨hdiffer, fingerprint_ne_of_differOnce hdiffer⟩

end CodeStencil
