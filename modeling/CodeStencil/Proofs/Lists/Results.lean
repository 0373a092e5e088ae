/-
  CodeStencil/Proofs/Lists/Results.lean
  =====================================
  **Results of many steps** — steps that may fail, one after the other (`bind_eq_ok`) or one for each
  item of a list (`mapM_eq_ok`): what is known of the parts if the whole gives a result.
-/
import Mathlib.Data.List.Forall2

namespace CodeStencil

section Results

variable {ε α β γ : Type} {f : α → Except ε β}

/-! ### Two steps -/

theorem bind_eq_ok {x : Except ε α} {f : α → Except ε β} {b : β} :
    x >>= f = .ok b ↔ ∃ a, x = .ok a ∧ f a = .ok b := by
  constructor
  · intro h
    cases x with
    | error e => cases h
    | ok a => exact ⟨a, rfl, h⟩
  · rintro ⟨a, rfl, h⟩
    exact h

theorem map_eq_ok {x : Except ε α} {f : α → β} {b : β} :
    x.map f = .ok b ↔ ∃ a, x = .ok a ∧ f a = b := by
  cases x with
  | error e => simp [Except.map]
  | ok a => simp [Except.map]

/-- What comes second only matters for the result of what comes first. -/
theorem bind_congr_of_ok {x : Except ε α} {f g : α → Except ε β} (h : ∀ a, x = .ok a → f a = g a) :
    x >>= f = x >>= g := by
  cases x with
  | error e => rfl
  | ok a => exact h a rfl

theorem exists_of_isSome {x : Except ε α} (h : x.toOption.isSome = true) : ∃ a, x = .ok a := by
  cases x with
  | error e => cases h
  | ok a => exact ⟨a, rfl⟩

theorem eq_ok_of_toOption {x : Except ε α} {a : α} (h : x.toOption = some a) : x = .ok a := by
  cases x with
  | error e => cases h
  | ok b => exact congrArg Except.ok (Option.some.inj h)

/-- Why there is no result. -/
def reason? : Except ε α → Option ε
  | .error e => some e
  | .ok _ => none

theorem reason?_eq_some {x : Except ε α} {e : ε} : reason? x = some e ↔ x = .error e := by
  cases x <;> simp [reason?]

/-! ### A step for each item -/

theorem mapM_eq_ok {as : List α} {bs : List β} :
    as.mapM f = .ok bs ↔ List.Forall₂ (fun a b => f a = .ok b) as bs := by
  induction as generalizing bs with
  | nil =>
    constructor
    · intro h
      rw [← Except.ok.inj h]
      exact .nil
    · intro h
      cases h
      rfl
  | cons a rest ih =>
    rw [List.mapM_cons]
    constructor
    · intro h
      obtain ⟨b, hb, h⟩ := bind_eq_ok.1 h
      obtain ⟨more, hmore, h⟩ := bind_eq_ok.1 h
      rw [← Except.ok.inj h]
      exact .cons hb (ih.1 hmore)
    · intro h
      cases h with
      | cons hb hmore => exact bind_eq_ok.2 ⟨_, hb, bind_eq_ok.2 ⟨_, ih.2 hmore, rfl⟩⟩

theorem mem_mapM_iff {as : List α} {bs : List β} (h : as.mapM f = .ok bs) {b : β} :
    b ∈ bs ↔ ∃ a ∈ as, f a = .ok b := by
  induction mapM_eq_ok.1 h with
  | nil => simp
  | @cons a c rest more hc hmore ih =>
    rw [List.mem_cons, ih (mapM_eq_ok.2 hmore), List.exists_mem_cons_iff, hc, Except.ok.injEq]
    simp only [eq_comm]

theorem exists_of_mem_mapM {as : List α} {bs : List β} (h : as.mapM f = .ok bs) {b : β}
    (hb : b ∈ bs) : ∃ a ∈ as, f a = .ok b := (mem_mapM_iff h).1 hb

theorem eq_ok_of_mapM {as : List α} {bs : List β} (h : as.mapM f = .ok bs) {a : α} (ha : a ∈ as) :
    ∃ b, f a = .ok b := by
  induction as generalizing bs with
  | nil => cases ha
  | cons first rest ih =>
    rw [List.mapM_cons] at h
    obtain ⟨b, hb, h⟩ := bind_eq_ok.1 h
    obtain ⟨more, hmore, -⟩ := bind_eq_ok.1 h
    rcases List.mem_cons.1 ha with rfl | ha
    · exact ⟨b, hb⟩
    · exact ih hmore ha

/-- All steps give a result if each of them does. -/
theorem exists_mapM_iff {as : List α} :
    (∃ bs, as.mapM f = .ok bs) ↔ ∀ a ∈ as, ∃ b, f a = .ok b := by
  constructor
  · rintro ⟨bs, h⟩ a ha
    exact eq_ok_of_mapM h ha
  · intro h
    induction as with
    | nil => exact ⟨[], rfl⟩
    | cons a rest ih =>
      obtain ⟨⟨b, hb⟩, hrest⟩ := List.forall_mem_cons.1 h
      obtain ⟨bs, hbs⟩ := ih hrest
      exact ⟨b :: bs, mapM_eq_ok.2 (.cons hb (mapM_eq_ok.1 hbs))⟩

/-- The first step that fails decides about the error. -/
theorem mapM_eq_error {as : List α} {e : ε} :
    as.mapM f = .error e ↔ ∃ before a after, as = before ++ a :: after ∧
      (∀ b ∈ before, ∃ c, f b = .ok c) ∧ f a = .error e := by
  constructor
  · intro h
    induction as with
    | nil => cases h
    | cons first rest ih =>
      rw [List.mapM_cons] at h
      cases hfirst : f first with
      | error e' =>
        rw [hfirst] at h
        obtain rfl := Except.error.inj h
        exact ⟨[], first, rest, rfl, by simp, hfirst⟩
      | ok b =>
        have hrest : rest.mapM f = .error e := by
          cases hmore : rest.mapM f with
          | error e' =>
            rw [hfirst, hmore] at h
            exact h
          | ok bs =>
            rw [hfirst, hmore] at h
            cases h
        obtain ⟨before, a, after, rfl, hbefore, ha⟩ := ih hrest
        refine ⟨first :: before, a, after, rfl, ?_, ha⟩
        rw [List.forall_mem_cons]
        exact ⟨⟨b, hfirst⟩, hbefore⟩
  · rintro ⟨before, a, after, rfl, hbefore, ha⟩
    obtain ⟨bs, hbs⟩ := exists_mapM_iff.2 hbefore
    rw [List.mapM_append, hbs, List.mapM_cons, ha]
    rfl

theorem mapM_congr {f g : α → Except ε β} {as : List α} (h : ∀ a ∈ as, f a = g a) :
    as.mapM f = as.mapM g := by
  induction as with
  | nil => rfl
  | cons a rest ih =>
    rw [List.mapM_cons, List.mapM_cons, h a List.mem_cons_self,
      ih fun b hb => h b (List.mem_cons_of_mem _ hb)]

theorem mapM_append_eq_ok {as as' : List α} {cs : List β} :
    (as ++ as').mapM f = .ok cs ↔
      ∃ bs bs', as.mapM f = .ok bs ∧ as'.mapM f = .ok bs' ∧ cs = bs ++ bs' := by
  rw [List.mapM_append]
  constructor
  · intro h
    obtain ⟨bs, hbs, h⟩ := bind_eq_ok.1 h
    obtain ⟨bs', hbs', h⟩ := bind_eq_ok.1 h
    exact ⟨bs, bs', hbs, hbs', (Except.ok.inj h).symm⟩
  · rintro ⟨bs, bs', hbs, hbs', rfl⟩
    exact bind_eq_ok.2 ⟨bs, hbs, bind_eq_ok.2 ⟨bs', hbs', rfl⟩⟩

/-- Results of groups may be taken group by group. -/
theorem mapM_flatMap (f : α → Except ε β) (g : γ → List α) (cs : List γ) :
    (cs.flatMap g).mapM f = (cs.mapM fun c => (g c).mapM f).map List.flatten := by
  induction cs with
  | nil => rfl
  | cons c rest ih =>
    rw [List.flatMap_cons, List.mapM_append, List.mapM_cons, ih]
    cases (g c).mapM f with
    | error e => rfl
    | ok bs => cases rest.mapM fun c => (g c).mapM f <;> rfl

/-- Two passes over a list give results if one pass with both steps does. -/
theorem exists_mapM_mapM {g : β → Except ε γ} {as : List α} {cs : List γ} :
    (∃ bs, as.mapM f = .ok bs ∧ bs.mapM g = .ok cs) ↔ as.mapM (fun a => f a >>= g) = .ok cs := by
  simp only [mapM_eq_ok]
  constructor
  · rintro ⟨bs, hbs, hcs⟩
    induction hbs generalizing cs with
    | nil =>
      cases hcs
      exact .nil
    | cons hb hmore ih =>
      cases hcs with
      | cons hc hcs => exact .cons (bind_eq_ok.2 ⟨_, hb, hc⟩) (ih hcs)
  · intro h
    induction h with
    | nil => exact ⟨[], .nil, .nil⟩
    | cons hc hcs ih =>
      obtain ⟨b, hb, hc⟩ := bind_eq_ok.1 hc
      obtain ⟨bs, hbs, hcs⟩ := ih
      exact ⟨b :: bs, .cons hb hbs, .cons hc hcs⟩

/-! ### Steps that give no reason -/

theorem mapM_eq_some {f : α → Option β} {as : List α} {bs : List β} :
    as.mapM f = some bs ↔ List.Forall₂ (fun a b => f a = some b) as bs := by
  induction as generalizing bs with
  | nil => simp [eq_comm]
  | cons a rest ih =>
    rw [List.mapM_cons, List.forall₂_cons_left_iff]
    constructor
    · intro h
      obtain ⟨b, hb, h⟩ := Option.bind_eq_some_iff.1 h
      obtain ⟨more, hmore, h⟩ := Option.bind_eq_some_iff.1 h
      exact ⟨b, more, hb, ih.1 hmore, (Option.some.inj h).symm⟩
    · rintro ⟨b, more, hb, hmore, rfl⟩
      exact Option.bind_eq_some_iff.2 ⟨b, hb, Option.bind_eq_some_iff.2 ⟨more, ih.2 hmore, rfl⟩⟩

theorem mem_mapM_some_iff {f : α → Option β} {as : List α} {bs : List β} (h : as.mapM f = some bs)
    {b : β} : b ∈ bs ↔ ∃ a ∈ as, f a = some b := by
  induction mapM_eq_some.1 h with
  | nil => simp
  | @cons a c rest more hc hmore ih =>
    rw [List.mem_cons, ih (mapM_eq_some.2 hmore), List.exists_mem_cons_iff, hc, Option.some.injEq]
    simp only [eq_comm]

theorem exists_mapM_some {f : α → Option β} {as : List α} (h : ∀ a ∈ as, (f a).isSome = true) :
    ∃ bs, as.mapM f = some bs := by
  induction as with
  | nil => exact ⟨[], rfl⟩
  | cons a rest ih =>
    obtain ⟨ha, hrest⟩ := List.forall_mem_cons.1 h
    obtain ⟨b, hb⟩ := Option.isSome_iff_exists.1 ha
    obtain ⟨bs, hbs⟩ := ih hrest
    exact ⟨b :: bs, mapM_eq_some.2 (.cons hb (mapM_eq_some.1 hbs))⟩

end Results

end CodeStencil
