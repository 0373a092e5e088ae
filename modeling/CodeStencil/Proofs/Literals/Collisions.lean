/-
  CodeStencil/Proofs/Literals/Collisions.lean
  ===========================================
  **Collisions of literals** — comparing neighbours finds a collision if there is one, and the one
  that is reported has the least fingerprint (`exists_least_collision`). Without collisions the
  table is the stable order of the literals by fingerprint (`collisions_are_found`).
-/
import CodeStencil.Proofs.Literals.Interning

namespace CodeStencil.Literal

variable {table literals : List Literal} {texts : List String} {e : Error}

/-! ### Stable order -/

/-- The literals in the order of their fingerprints. Those with one fingerprint stay in the order
    given. -/
structure StablySorted (table literals : List Literal) : Prop where
  perm : table.Perm literals
  ordered : table.Pairwise fun a b => a.fingerprint ≤ b.fingerprint
  stable : ∀ n, table.filter (fun l => l.fingerprint = n) = literals.filter fun l => l.fingerprint = n

theorem stablySorted_sorted (literals : List Literal) : StablySorted (sorted literals) literals := by
  refine ⟨sorted_perm literals, pairwise_sorted literals, ?_⟩
  intro n
  have hsame : (literals.filter fun l => l.fingerprint = n).Pairwise fun a b =>
      decide (a.fingerprint ≤ b.fingerprint) = true := by
    rw [List.pairwise_filter]
    refine List.pairwise_of_forall ?_
    intro a b ha hb
    rw [decide_eq_true_eq] at ha hb ⊢
    rw [ha, hb]
    exact UInt64.le_refl n
  -- a part that is ordered already is not taken apart, and no other literal has the fingerprint
  have hsub := (List.sublist_mergeSort decide_le_trans decide_le_total hsame
    List.filter_sublist).filter fun l => decide (l.fingerprint = n)
  rw [List.filter_filter] at hsub
  simp only [Bool.and_self] at hsub
  exact (hsub.eq_of_length ((sorted_perm literals).filter _).length_eq.symm).symm

/-! ### The least collision -/

theorem exists_error_iff (hsorted : table.Pairwise fun a b => a.fingerprint ≤ b.fingerprint) :
    (∃ e, checkCollisions table = .error e) ↔
      ∃ a ∈ table, ∃ b ∈ table, a.fingerprint = b.fingerprint ∧ a.text ≠ b.text := by
  have hok := checkCollisions_eq_ok_iff hsorted
  cases hcheck : checkCollisions table with
  | ok u =>
    rw [hcheck] at hok
    have hnone := hok.1 rfl
    constructor
    · rintro ⟨e, h⟩
      cases h
    · rintro ⟨a, ha, b, hb, heq, hne⟩
      exact absurd (hnone a ha b hb heq) hne
  | error e =>
    obtain ⟨a, ha, b, hb, heq, hne, -⟩ := checkCollisions_eq_error hcheck
    exact iff_of_true ⟨e, rfl⟩ ⟨a, ha, b, hb, heq, hne⟩

/-- The collision that is reported has the least fingerprint of all. -/
theorem exists_least_collision
    (hsorted : table.Pairwise fun a b => a.fingerprint ≤ b.fingerprint)
    (h : checkCollisions table = .error e) :
    ∃ a ∈ table, ∃ b ∈ table, a.fingerprint = b.fingerprint ∧ a.text ≠ b.text ∧
      e = .collision a.text b.text a.fingerprint ∧
      ∀ c ∈ table, ∀ d ∈ table, c.fingerprint = d.fingerprint → c.text ≠ d.text →
        a.fingerprint ≤ c.fingerprint := by
  fun_induction checkCollisions table with
  | case1 a b rest hcollide =>
    refine ⟨a, by simp, b, by simp, hcollide.1, hcollide.2, (Except.error.inj h).symm, ?_⟩
    intro c hc d _ _ _
    rcases List.mem_cons.1 hc with rfl | hc
    · exact UInt64.le_refl _
    · exact (List.pairwise_cons.1 hsorted).1 c hc
  | case2 a b rest hcollide ih =>
    obtain ⟨a', ha', b', hb', heq, hne, he, hleast⟩ := ih (List.pairwise_cons.1 hsorted).2 h
    refine ⟨a', List.mem_cons_of_mem a ha', b', List.mem_cons_of_mem a hb', heq, hne, he, ?_⟩
    -- the second literal takes the place of the first, with which it does not collide
    have hfirst : ∀ c ∈ b :: rest, a.fingerprint = c.fingerprint → a.text ≠ c.text →
        a'.fingerprint ≤ a.fingerprint := by
      intro c hc hac hne
      have hab := fingerprint_second hsorted hc hac
      have htext : b.text ≠ c.text := by
        intro hbc
        exact hcollide ⟨hab, fun hab => hne (hab.trans hbc)⟩
      rw [hab]
      exact hleast b List.mem_cons_self c hc (hab.symm.trans hac) htext
    intro c hc d hd hcd hne
    rcases List.mem_cons.1 hc with rfl | hc'
    · rcases List.mem_cons.1 hd with rfl | hd'
      · exact absurd rfl hne
      · exact hfirst d hd' hcd hne
    · rcases List.mem_cons.1 hd with rfl | hd'
      · rw [hcd]
        exact hfirst c hc' hcd.symm hne.symm
      · exact hleast c hc' d hd' hcd hne
  | case3 table hshort => cases h

/-! ### Collisions of texts -/

theorem intern_eq_error : intern texts = .error e ↔
    checkCollisions (sorted (texts.map ofText)) = .error e := by
  rw [intern_eq]
  cases checkCollisions (sorted (texts.map ofText)) with
  | ok u => simp [Except.map]
  | error e => simp [Except.map]

theorem exists_intern_eq_error_iff : (∃ e, intern texts = .error e) ↔
    ∃ s ∈ texts, ∃ s' ∈ texts, s ≠ s' ∧ CodeStencil.fingerprint s = CodeStencil.fingerprint s' := by
  simp only [intern_eq_error, exists_error_iff (pairwise_sorted _)]
  constructor
  · rintro ⟨a, ha, b, hb, heq, hne⟩
    obtain ⟨s, hs, rfl⟩ := mem_table.1 ha
    obtain ⟨s', hs', rfl⟩ := mem_table.1 hb
    exact ⟨s, hs, s', hs', hne, heq⟩
  · rintro ⟨s, hs, s', hs', hne, heq⟩
    exact ⟨ofText s, mem_table.2 ⟨s, hs, rfl⟩, ofText s', mem_table.2 ⟨s', hs', rfl⟩, heq, hne⟩

theorem exists_least_of_intern (h : intern texts = .error e) :
    ∃ first ∈ texts, ∃ second ∈ texts, first ≠ second ∧
      CodeStencil.fingerprint first = CodeStencil.fingerprint second ∧
      e = .collision first second (CodeStencil.fingerprint first) ∧
      ∀ s ∈ texts, ∀ s' ∈ texts, s ≠ s' →
        CodeStencil.fingerprint s = CodeStencil.fingerprint s' →
          CodeStencil.fingerprint first ≤ CodeStencil.fingerprint s := by
  obtain ⟨a, ha, b, hb, heq, hne, he, hleast⟩ :=
    exists_least_collision (pairwise_sorted _) (intern_eq_error.1 h)
  obtain ⟨first, hfirst, rfl⟩ := mem_table.1 ha
  obtain ⟨second, hsecond, rfl⟩ := mem_table.1 hb
  refine ⟨first, hfirst, second, hsecond, hne, heq, he, ?_⟩
  intro s hs s' hs' hne heq
  exact hleast _ (mem_table.2 ⟨s, hs, rfl⟩) _ (mem_table.2 ⟨s', hs', rfl⟩) heq hne

/-- Texts that are apart leave one order open, in which equal literals follow each other. -/
theorem intern_eq_ok_iff :
    intern texts = .ok table ↔ Apart texts ∧ StablySorted table (texts.map ofText) := by
  have hsorted := stablySorted_sorted (texts.map ofText)
  rcases intern_cases texts with ⟨hapart, hintern⟩ | ⟨hcollide, found, hintern, -⟩
  · rw [hintern, Except.ok.injEq]
    constructor
    · rintro rfl
      exact ⟨hapart, hsorted⟩
    · rintro ⟨-, htable⟩
      have hperm := hsorted.perm.trans htable.perm.symm
      apply hperm.eq_of_pairwise _ hsorted.ordered htable.ordered
      intro a b ha hb hab hba
      obtain ⟨s, hs, rfl⟩ := mem_table.1 ha
      obtain ⟨s', hs', rfl⟩ := mem_table.1 (hperm.mem_iff.2 hb)
      exact congrArg ofText (hapart s hs s' hs' (UInt64.le_antisymm hab hba))
  · rw [hintern]
    constructor
    · intro h
      cases h
    · rintro ⟨hapart, -⟩
      exact absurd hapart hcollide

/-- In a table ordered by fingerprint, neighbours are enough to find a collision. So texts are
    interned exactly if no two different ones have one fingerprint. Otherwise two such texts are
    reported, and none of a smaller fingerprint collide. The table of interned texts is their stable
    order, with all repetitions. -/
theorem collisions_are_found :
    (∀ table : List Literal, (table.Pairwise fun a b => a.fingerprint ≤ b.fingerprint) →
        ((∃ e, checkCollisions table = .error e) ↔
          ∃ a ∈ table, ∃ b ∈ table, a.fingerprint = b.fingerprint ∧ a.text ≠ b.text)) ∧
      ∀ texts : List String,
        ((∃ e, intern texts = .error e) ↔
          ∃ s ∈ texts, ∃ s' ∈ texts, s ≠ s' ∧
            CodeStencil.fingerprint s = CodeStencil.fingerprint s') ∧
        (∀ e, intern texts = .error e →
          ∃ first ∈ texts, ∃ second ∈ texts, first ≠ second ∧
            CodeStencil.fingerprint first = CodeStencil.fingerprint second ∧
            e = .collision first second (CodeStencil.fingerprint first) ∧
            ∀ s ∈ texts, ∀ s' ∈ texts, s ≠ s' →
              CodeStencil.fingerprint s = CodeStencil.fingerprint s' →
                CodeStencil.fingerprint first ≤ CodeStencil.fingerprint s) ∧
        ∀ table, intern texts = .ok table ↔
          Apart texts ∧ StablySorted table (texts.map ofText) := by
  refine ⟨fun table hsorted => exists_error_iff hsorted, ?_⟩
  intro texts
  refine ⟨exists_intern_eq_error_iff, ?_, fun table => intern_eq_ok_iff⟩
  intro e h
  exact exists_least_of_intern h

/-- Two pairs of texts with one fingerprint each; one of the texts is given twice. -/
def Sample.colliding : List String :=
  ["gMPflVXtwGDXbIhP73TX", "8yn0iYCKYHlIj4-BwPqk", "LtHf1prlU1bCeYZEdqWf",
    "8yn0iYCKYHlIj4-BwPqk", "GReLUrM4wMqfg9yzV3KQ"]

/-- The pair of the smaller fingerprint is reported, though it was not given first. -/
theorem least_collision_is_found :
    (∃ e, checkCollisions [⟨"a", 7⟩, ⟨"a", 7⟩, ⟨"b", 7⟩, ⟨"a", 9⟩] = .error e) ∧
      (∃ first second, first ≠ second ∧
        intern Sample.colliding = .error (.collision first second 0x4eac0c95540867e4)) ∧
      ∃ table, intern ["a", "", "a"] = .ok table ∧
        StablySorted table (["a", "", "a"].map ofText) := by
  obtain ⟨htable, htexts⟩ := collisions_are_found
  refine ⟨?_, ?_, ?_⟩
  · exact (htable _ (by decide)).2 ⟨⟨"a", 7⟩, by decide, ⟨"b", 7⟩, by decide, by decide⟩
  · obtain ⟨hfails, hleast, -⟩ := htexts Sample.colliding
    obtain ⟨e, he⟩ := hfails.2 ⟨"8yn0iYCKYHlIj4-BwPqk", by decide, "GReLUrM4wMqfg9yzV3KQ",
      by decide, by decide, by decide +kernel⟩
    obtain ⟨first, hfirst, second, -, hne, -, rfl, hsmallest⟩ := hleast e he
    have hle := hsmallest "8yn0iYCKYHlIj4-BwPqk" (by decide) "GReLUrM4wMqfg9yzV3KQ" (by decide)
      (by decide) (by decide +kernel)
    have hvalue : ∀ s ∈ Sample.colliding,
        CodeStencil.fingerprint s ≤ CodeStencil.fingerprint "8yn0iYCKYHlIj4-BwPqk" →
          CodeStencil.fingerprint s = 0x4eac0c95540867e4 := by decide +kernel
    rw [hvalue first hfirst hle] at he
    exact ⟨first, second, hne, he⟩
  · obtain ⟨hfails, -, hok⟩ := htexts ["a", "", "a"]
    cases hintern : intern ["a", "", "a"] with
    | ok table => exact ⟨table, rfl, ((hok table).1 hintern).2⟩
    | error e =>
      have hapart : ¬∃ s ∈ ["a", "", "a"], ∃ s' ∈ ["a", "", "a"], s ≠ s' ∧
          CodeStencil.fingerprint s = CodeStencil.fingerprint s' := by decide +kernel
      exact absurd (hfails.1 ⟨e, hintern⟩) hapart

end CodeStencil.Literal
