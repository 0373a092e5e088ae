/-
  CodeStencil/Proofs/Text/ByteOrder.lean
  ======================================
  **Texts are ordered as their bytes** — a greater character has a greater byte where its encoding
  first differs from that of a smaller one (`precedes_utf8EncodeChar`), so it makes no difference
  whether texts are compared by characters or by the bytes of their encodings (`bytesOf_lt_iff`).
-/
import Mathlib.Data.String.Basic

namespace CodeStencil.Text

/-- The bytes of a text as it stands in a file. -/
def bytesOf (s : String) : List UInt8 := s.toUTF8.data.toList

theorem bytesOf_eq (s : String) : bytesOf s = s.toList.flatMap String.utf8EncodeChar := by
  have hencode : s.toUTF8 = (s.toList.flatMap String.utf8EncodeChar).toByteArray :=
    String.utf8Encode_toList.symm
  unfold bytesOf
  rw [hencode, List.data_toByteArray]

/-! ### The first different byte -/

/-- Where the bytes differ for the first time, the first ones are smaller. -/
def Precedes (as bs : List UInt8) : Prop :=
  ∃ common x y as' bs', as = common ++ x :: as' ∧ bs = common ++ y :: bs' ∧ x < y

theorem Precedes.append_lt {as bs : List UInt8} (h : Precedes as bs) (cs ds : List UInt8) :
    as ++ cs < bs ++ ds := by
  obtain ⟨common, x, y, as', bs', rfl, rfl, hlt⟩ := h
  rw [List.append_assoc, List.append_assoc]
  apply List.append_left_lt
  rw [List.cons_append, List.cons_append, List.cons_lt_cons_iff]
  exact Or.inl hlt

theorem precedes_of_lt {m n : Nat} (hlt : m < n) (hn : n < 256) (as bs : List UInt8) :
    Precedes (UInt8.ofNat m :: as) (UInt8.ofNat n :: bs) := by
  refine ⟨[], UInt8.ofNat m, UInt8.ofNat n, as, bs, rfl, rfl, ?_⟩
  rw [UInt8.lt_iff_toNat_lt, UInt8.toNat_ofNat_of_lt' (Nat.lt_trans hlt hn),
    UInt8.toNat_ofNat_of_lt' hn]
  exact hlt

theorem precedes_cons {m n : Nat} {as bs : List UInt8} (hle : m ≤ n) (hn : n < 256)
    (hrest : m = n → Precedes as bs) : Precedes (UInt8.ofNat m :: as) (UInt8.ofNat n :: bs) := by
  rcases Nat.lt_or_eq_of_le hle with hlt | rfl
  · exact precedes_of_lt hlt hn as bs
  · obtain ⟨common, x, y, as', bs', rfl, rfl, hxy⟩ := hrest rfl
    exact ⟨UInt8.ofNat m :: common, x, y, as', bs', rfl, rfl, hxy⟩

/-- A character with a longer encoding has a greater first byte. Encodings of one length are
    compared byte by byte. -/
theorem precedes_utf8EncodeChar {c d : Char} (h : c < d) :
    Precedes (String.utf8EncodeChar c) (String.utf8EncodeChar d) := by
  have hlt : c.val.toNat < d.val.toNat := h
  have hmax : d.val.toNat < 1114112 := by
    rcases d.valid with hsmall | ⟨-, hlarge⟩
    · exact Nat.lt_trans hsmall (by decide)
    · exact hlarge
  unfold String.utf8EncodeChar
  dsimp only
  -- four lengths of the encoding of `c`, and within each the four of that of `d`
  split_ifs
  · exact precedes_of_lt (by omega) (by omega) _ _
  · exact precedes_of_lt (by omega) (by omega) _ _
  · exact precedes_of_lt (by omega) (by omega) _ _
  · exact precedes_of_lt (by omega) (by omega) _ _
  · omega
  · refine precedes_cons (by omega) (by omega) fun _ => ?_
    exact precedes_of_lt (by omega) (by omega) _ _
  · exact precedes_of_lt (by omega) (by omega) _ _
  · exact precedes_of_lt (by omega) (by omega) _ _
  · omega
  · omega
  · refine precedes_cons (by omega) (by omega) fun _ => ?_
    refine precedes_cons (by omega) (by omega) fun _ => ?_
    exact precedes_of_lt (by omega) (by omega) _ _
  · exact precedes_of_lt (by omega) (by omega) _ _
  · omega
  · omega
  · omega
  · refine precedes_cons (by omega) (by omega) fun _ => ?_
    refine precedes_cons (by omega) (by omega) fun _ => ?_
    refine precedes_cons (by omega) (by omega) fun _ => ?_
    exact precedes_of_lt (by omega) (by omega) _ _

/-! ### Texts -/

theorem flatMap_utf8EncodeChar_lt {cs ds : List Char} (h : cs < ds) :
    cs.flatMap String.utf8EncodeChar < ds.flatMap String.utf8EncodeChar := by
  induction cs generalizing ds with
  | nil =>
    cases ds with
    | nil => exact absurd h (List.lt_irrefl [])
    | cons d rest =>
      rw [List.flatMap_nil, List.flatMap_cons]
      obtain ⟨b, bs, hencode⟩ := List.exists_cons_of_ne_nil (String.utf8EncodeChar_ne_nil)
      rw [hencode, List.cons_append]
      exact List.nil_lt_cons b _
  | cons c cs ih =>
    cases ds with
    | nil => exact absurd h (List.not_lt_nil _)
    | cons d ds =>
      rw [List.flatMap_cons, List.flatMap_cons]
      rcases List.cons_lt_cons_iff.1 h with hlt | ⟨rfl, hlt⟩
      · exact (precedes_utf8EncodeChar hlt).append_lt _ _
      · exact List.append_left_lt (ih hlt)

theorem bytesOf_lt_iff {s t : String} : bytesOf s < bytesOf t ↔ s < t := by
  have hmono : ∀ {s t : String}, s < t → bytesOf s < bytesOf t := by
    intro s t h
    rw [bytesOf_eq, bytesOf_eq]
    exact flatMap_utf8EncodeChar_lt (String.lt_iff_toList_lt.1 h)
  constructor
  · intro h
    rcases lt_trichotomy s t with hlt | rfl | hgt
    · exact hlt
    · exact absurd h (List.lt_irrefl _)
    · exact absurd (hmono hgt) (List.lt_asymm h)
  · exact hmono

theorem bytesOf_le_iff {s t : String} : bytesOf s ≤ bytesOf t ↔ s ≤ t := by
  rw [← List.not_lt, bytesOf_lt_iff, not_lt]

end CodeStencil.Text
