/-
  CodeStencil/Proofs/Text/LineFeeds.lean
  ======================================
  **Texts that end in a line feed** — a text ends in a line feed exactly if its bytes do
  (`endsInFeed_iff_bytesOf`), and joined texts end as the last one does that is not empty
  (`endsInFeed_join`).
-/
import CodeStencil.Proofs.Text.ByteOrder
import CodeStencil.Text.Blank

namespace CodeStencil.Text

/-- The last character is a line feed. -/
def EndsInFeed (s : String) : Prop := s.toList.getLast? = some '\n'

instance (s : String) : Decidable (EndsInFeed s) := inferInstanceAs (Decidable (_ = _))

/-! ### Bytes -/

/-- Only the encoding of a line feed ends in its byte; bytes that continue an encoding are large. -/
theorem getLast?_utf8EncodeChar {c : Char} :
    (String.utf8EncodeChar c).getLast? = some 10 ↔ c = '\n' := by
  have hbyte : ∀ n, 128 ≤ n → n < 256 → UInt8.ofNat n ≠ 10 := by
    intro n hlow hhigh heq
    have hvalue := congrArg UInt8.toNat heq
    rw [UInt8.toNat_ofNat_of_lt' hhigh] at hvalue
    have hten : (10 : UInt8).toNat = 10 := rfl
    omega
  constructor
  · intro h
    unfold String.utf8EncodeChar at h
    dsimp only at h
    split_ifs at h with hone
    · have hvalue : (UInt8.ofNat c.val.toNat).toNat = 10 := congrArg UInt8.toNat (Option.some.inj h)
      rw [UInt8.toNat_ofNat_of_lt' (Nat.lt_of_le_of_lt hone (by decide))] at hvalue
      exact Char.ext (UInt32.toNat_inj.1 hvalue)
    · exact absurd (Option.some.inj h) (hbyte _ (by omega) (by omega))
    · exact absurd (Option.some.inj h) (hbyte _ (by omega) (by omega))
    · exact absurd (Option.some.inj h) (hbyte _ (by omega) (by omega))
  · rintro rfl
    rfl

theorem bytesOf_append_feed (s : String) : bytesOf (s ++ "\n") = bytesOf s ++ [10] := by
  rw [bytesOf_eq, bytesOf_eq, String.toList_append, List.flatMap_append]
  rfl

theorem endsInFeed_iff_bytesOf {s : String} : EndsInFeed s ↔ (bytesOf s).getLast? = some 10 := by
  rw [EndsInFeed, bytesOf_eq]
  rcases List.eq_nil_or_concat' s.toList with hnil | ⟨front, c, hcs⟩
  · simp [hnil]
  · obtain ⟨b, bs, hencode⟩ := List.exists_cons_of_ne_nil (String.utf8EncodeChar_ne_nil (c := c))
    rw [hcs, List.getLast?_concat, Option.some.injEq, ← getLast?_utf8EncodeChar, List.flatMap_append,
      List.flatMap_singleton, List.getLast?_append, hencode]
    simp [List.getLast?_cons]

/-- A feed behind a text is the second one exactly if the text ends in a feed. -/
theorem two_feeds_iff {s : String} : [10, 10] <:+ bytesOf (s ++ "\n") ↔ EndsInFeed s := by
  rw [bytesOf_append_feed, endsInFeed_iff_bytesOf, List.getLast?_eq_some_iff]
  constructor
  · rintro ⟨front, h⟩
    have hlast : front ++ [10] ++ [10] = bytesOf s ++ [10] := by
      rw [← h, List.append_assoc]
      rfl
    exact ⟨front, (List.append_cancel_right hlast).symm⟩
  · rintro ⟨front, h⟩
    refine ⟨front, ?_⟩
    rw [h]
    simp

/-! ### Joined texts -/

theorem endsInFeed_join {texts : List String} : EndsInFeed (String.join texts) ↔
    ∃ before s after, texts = before ++ s :: after ∧ EndsInFeed s ∧ ∀ s' ∈ after, s' = "" := by
  rw [EndsInFeed, String.toList_join, List.getLast?_flatMap, List.findSome?_eq_some_iff]
  have hempty : ∀ s : String, s.toList.getLast? = none ↔ s = "" := by
    intro s
    rw [List.getLast?_eq_none_iff, String.toList_eq_nil_iff]
  constructor
  · rintro ⟨after, s, before, htexts, hs, hafter⟩
    refine ⟨before.reverse, s, after.reverse, ?_, hs, ?_⟩
    · rw [← List.reverse_reverse texts, htexts]
      simp
    · intro s' hs'
      exact (hempty s').1 (hafter s' (List.mem_reverse.1 hs'))
  · rintro ⟨before, s, after, rfl, hs, hafter⟩
    refine ⟨after.reverse, s, before.reverse, by simp, hs, ?_⟩
    intro s' hs'
    exact (hempty s').2 (hafter s' (List.mem_reverse.1 hs'))

/-- What is cut off the end does not end the rest. -/
theorem getLast?_dropEndWhile {p : Char → Bool} {cs : List Char} {c : Char}
    (h : (dropEndWhile p cs).getLast? = some c) : p c = false := by
  rw [dropEndWhile, List.getLast?_reverse] at h
  have hfirst := List.head?_dropWhile_not p cs.reverse
  rwa [h] at hfirst

end CodeStencil.Text
