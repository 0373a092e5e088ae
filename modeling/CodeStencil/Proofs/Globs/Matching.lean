/-
  CodeStencil/Proofs/Globs/Matching.lean
  ======================================
  **What globs match** — the texts of a glob, part by part (`Matches`), and the matcher, which looks
  for a beginning after which the rest may go on (`matchThen_iff`). A glob that matches a text longer
  than its parts add up to has run over a star, which then may take up anything
  (`Matches.pump`).
-/
import Mathlib.Algebra.Ring.Nat
import CodeStencil.Glob.Basic
import CodeStencil.Proofs.Text.ByteOrder

namespace CodeStencil

theorem ByteSet.contains_only {b x : UInt8} : (only b).contains x = true ↔ x = b := by
  simp only [contains, only, List.any_cons, List.any_nil, Bool.or_false, Bool.bne_false,
    Bool.and_eq_true, decide_eq_true_eq]
  constructor
  · rintro ⟨hle, hge⟩
    exact UInt8.le_antisymm hge hle
  · rintro rfl
    exact ⟨UInt8.le_refl x, UInt8.le_refl x⟩

namespace Glob

/-- The glob matches the whole of a text. -/
def Matches : Glob → List UInt8 → Prop
  | .empty, bs => bs = []
  | .byte set, bs => ∃ b, bs = [b] ∧ set.contains b = true
  | .anything, _ => True
  | .seq a b, bs => ∃ u v, bs = u ++ v ∧ a.Matches u ∧ b.Matches v
  | .either a b, bs => a.Matches bs ∨ b.Matches bs

variable {g : Glob} {gs hs : List Glob} {bs : List UInt8} {c : Char}

/-! ### The matcher -/

theorem someEnd_iff {k : List UInt8 → Bool} :
    someEnd k bs = true ↔ ∃ u v, bs = u ++ v ∧ k v = true := by
  induction bs with
  | nil =>
    constructor
    · intro h
      exact ⟨[], [], rfl, h⟩
    · rintro ⟨u, v, heq, hv⟩
      obtain ⟨rfl, rfl⟩ := List.append_eq_nil_iff.1 heq.symm
      exact hv
  | cons b rest ih =>
    rw [someEnd, Bool.or_eq_true, ih]
    constructor
    · rintro (h | ⟨u, v, rfl, hv⟩)
      · exact ⟨[], b :: rest, rfl, h⟩
      · exact ⟨b :: u, v, rfl, hv⟩
    · rintro ⟨u, v, heq, hv⟩
      rcases List.cons_eq_append_iff.1 heq with ⟨rfl, rfl⟩ | ⟨u', rfl, rfl⟩
      · exact Or.inl hv
      · exact Or.inr ⟨u', v, rfl, hv⟩

/-- The matcher looks for a beginning that the glob matches, and goes on with the rest. -/
theorem matchThen_iff {k : List UInt8 → Bool} :
    g.matchThen k bs = true ↔ ∃ u v, bs = u ++ v ∧ g.Matches u ∧ k v = true := by
  induction g generalizing k bs with
  | empty => simp [matchThen, Matches]
  | byte set =>
    cases bs with
    | nil => simp [matchThen, Matches]
    | cons b rest =>
      rw [matchThen, Bool.and_eq_true]
      constructor
      · rintro ⟨hb, hrest⟩
        exact ⟨[b], rest, rfl, ⟨b, rfl, hb⟩, hrest⟩
      · rintro ⟨u, v, heq, ⟨b', rfl, hb⟩, hv⟩
        obtain ⟨rfl, rfl⟩ := List.cons.inj heq
        exact ⟨hb, hv⟩
  | anything => simp [matchThen, Matches, someEnd_iff]
  | seq a b iha ihb =>
    simp only [matchThen, iha, ihb, Matches]
    constructor
    · rintro ⟨u, _, rfl, hu, v, w, rfl, hv, hw⟩
      exact ⟨u ++ v, w, by rw [List.append_assoc], ⟨u, v, rfl, hu, hv⟩, hw⟩
    · rintro ⟨_, w, rfl, ⟨u, v, rfl, hu, hv⟩, hw⟩
      exact ⟨u, v ++ w, by rw [List.append_assoc], hu, v, w, rfl, hv, hw⟩
  | either a b iha ihb =>
    simp only [matchThen, Bool.or_eq_true, iha, ihb, Matches, or_and_right, and_or_left, exists_or]

theorem isMatch_iff {path : String} : g.isMatch path = true ↔ g.Matches (Text.bytesOf path) := by
  unfold isMatch matchesBytes Text.bytesOf
  rw [matchThen_iff]
  constructor
  · rintro ⟨u, v, heq, hu, hv⟩
    rw [List.isEmpty_iff] at hv
    rw [heq, hv, List.append_nil]
    exact hu
  · intro h
    exact ⟨_, [], (List.append_nil _).symm, h, rfl⟩

/-! ### Sequences -/

@[simp] theorem sequence_nil : sequence [] = .empty := rfl

@[simp] theorem sequence_cons (g : Glob) (gs : List Glob) :
    sequence (g :: gs) = .seq g (sequence gs) := rfl

theorem matches_sequence_append : (sequence (gs ++ hs)).Matches bs ↔
    ∃ u v, bs = u ++ v ∧ (sequence gs).Matches u ∧ (sequence hs).Matches v := by
  induction gs generalizing bs with
  | nil => simp [Matches]
  | cons g gs ih =>
    simp only [List.cons_append, sequence_cons, Matches, ih]
    constructor
    · rintro ⟨u, _, rfl, hu, v, w, rfl, hv, hw⟩
      exact ⟨u ++ v, w, by rw [List.append_assoc], ⟨u, v, rfl, hu, hv⟩, hw⟩
    · rintro ⟨_, w, rfl, ⟨u, v, rfl, hu, hv⟩, hw⟩
      exact ⟨u, v ++ w, by rw [List.append_assoc], hu, v, w, rfl, hv, hw⟩

theorem matches_sequence_bytes {bytes : List UInt8} :
    (sequence (bytes.map fun b => .byte (.only b))).Matches bs ↔ bs = bytes := by
  induction bytes generalizing bs with
  | nil => rfl
  | cons b rest ih =>
    simp only [List.map_cons, sequence_cons, Matches, ih, ByteSet.contains_only]
    constructor
    · rintro ⟨_, _, rfl, ⟨_, rfl, rfl⟩, rfl⟩
      rfl
    · rintro rfl
      exact ⟨[b], rest, rfl, ⟨b, rfl, rfl⟩, rfl⟩

theorem matches_char : (char c).Matches bs ↔ bs = String.utf8EncodeChar c := matches_sequence_bytes

/-- The bytes of characters. -/
def spelling (cs : List Char) : List UInt8 := cs.flatMap String.utf8EncodeChar

@[simp] theorem spelling_nil : spelling [] = [] := rfl

@[simp] theorem spelling_cons (c : Char) (cs : List Char) :
    spelling (c :: cs) = String.utf8EncodeChar c ++ spelling cs := List.flatMap_cons

@[simp] theorem spelling_append (cs ds : List Char) :
    spelling (cs ++ ds) = spelling cs ++ spelling ds := List.flatMap_append

theorem bytesOf_eq_spelling (s : String) : Text.bytesOf s = spelling s.toList := Text.bytesOf_eq s

theorem matches_sequence_chars {cs : List Char} :
    (sequence (cs.map char)).Matches bs ↔ bs = spelling cs := by
  induction cs generalizing bs with
  | nil => rfl
  | cons c rest ih =>
    simp only [List.map_cons, sequence_cons, Matches, ih, matches_char, spelling_cons]
    constructor
    · rintro ⟨_, _, rfl, rfl, rfl⟩
      rfl
    · rintro rfl
      exact ⟨_, _, rfl, rfl, rfl⟩

/-! ### Long texts -/

/-- The greatest length of a text for which no star is used. -/
def width : Glob → Nat
  | .empty => 0
  | .byte _ => 1
  | .anything => 0
  | .seq a b => a.width + b.width
  | .either a b => max a.width b.width

/-- Where a longer text is matched a star is used, and any text may stand in its place. -/
theorem Matches.pump (h : g.Matches bs) : bs.length ≤ g.width ∨
    ∃ u v w, bs = u ++ v ++ w ∧ ∀ x, g.Matches (u ++ x ++ w) := by
  induction g generalizing bs with
  | empty =>
    obtain rfl : bs = [] := h
    exact Or.inl (Nat.le_refl 0)
  | byte set =>
    obtain ⟨b, rfl, -⟩ := h
    exact Or.inl (Nat.le_refl 1)
  | anything => exact Or.inr ⟨[], bs, [], by simp, fun x => trivial⟩
  | seq a b iha ihb =>
    obtain ⟨u, v, rfl, hu, hv⟩ := h
    rcases iha hu with hshort | ⟨u₁, u₂, u₃, rfl, hany⟩
    · rcases ihb hv with hshort' | ⟨v₁, v₂, v₃, rfl, hany⟩
      · left
        rw [List.length_append, width]
        omega
      · right
        refine ⟨u ++ v₁, v₂, v₃, by simp, fun x => ⟨u, v₁ ++ x ++ v₃, by simp, hu, hany x⟩⟩
    · right
      refine ⟨u₁, u₂, u₃ ++ v, by simp, fun x => ⟨u₁ ++ x ++ u₃, v, by simp, hany x, hv⟩⟩
  | either a b iha ihb =>
    rcases h with h | h
    · rcases iha h with hshort | ⟨u, v, w, heq, hany⟩
      · exact Or.inl (Nat.le_trans hshort (Nat.le_max_left _ _))
      · exact Or.inr ⟨u, v, w, heq, fun x => Or.inl (hany x)⟩
    · rcases ihb h with hshort | ⟨u, v, w, heq, hany⟩
      · exact Or.inl (Nat.le_trans hshort (Nat.le_max_right _ _))
      · exact Or.inr ⟨u, v, w, heq, fun x => Or.inr (hany x)⟩

@[simp] theorem width_sequence (gs : List Glob) :
    (sequence gs).width = (gs.map width).sum := by
  induction gs with
  | nil => rfl
  | cons g gs ih => rw [sequence_cons, width, ih, List.map_cons, List.sum_cons]

@[simp] theorem width_char (c : Char) : (char c).width = (String.utf8EncodeChar c).length := by
  simp only [char, width_sequence, List.map_map]
  have hone : width ∘ (fun b => .byte (.only b)) = fun _ => 1 := rfl
  rw [hone]
  simp

end Glob

end CodeStencil
