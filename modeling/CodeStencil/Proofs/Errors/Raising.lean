/-
  CodeStencil/Proofs/Errors/Raising.lean
  ======================================
  **Which errors a step can raise** — a condition on errors goes through results and actions step by
  step (`Raises.bind`, `Action.Raises.bind`), so that what a long computation can raise is read off
  its parts.
-/
import CodeStencil.Proofs.Files.Changes

namespace CodeStencil

/-- If the result is an error, then the error meets the condition. -/
def Raises {α : Type} (P : Error → Prop) (x : Except Error α) : Prop := ∀ e, x = .error e → P e

namespace Raises

variable {α β σ : Type} {P Q : Error → Prop} {x : Except Error α}

theorem ok (a : α) : Raises P (.ok a : Except Error α) := by
  intro e h
  cases h

theorem pure (a : α) : Raises P (Pure.pure a : Except Error α) := ok a

theorem error {e : Error} (he : P e) : Raises P (.error e : Except Error α) := by
  intro e' h
  cases h
  exact he

theorem throw {e : Error} (he : P e) : Raises P (MonadExcept.throw e : Except Error α) := error he

theorem mono (hx : Raises P x) (h : ∀ e, P e → Q e) : Raises Q x := fun e he => h e (hx e he)

theorem bind {f : α → Except Error β} (hx : Raises P x)
    (hf : ∀ a, x = .ok a → Raises P (f a)) : Raises P (x >>= f) := by
  cases x with
  | error e => exact error (hx e rfl)
  | ok a => exact hf a rfl

theorem map {f : α → β} (hx : Raises P x) : Raises P (x.map f) := by
  cases x with
  | error e => exact error (hx e rfl)
  | ok a => exact ok (f a)

theorem mapError {ε : Type} {y : Except ε α} {f : ε → Error} (h : ∀ e, P (f e)) :
    Raises P (y.mapError f) := by
  cases y with
  | error e => exact error (h e)
  | ok a => exact ok a

theorem mapM {f : α → Except Error β} {as : List α} (h : ∀ a ∈ as, Raises P (f a)) :
    Raises P (as.mapM f) := by
  induction as with
  | nil => exact ok []
  | cons a rest ih =>
    obtain ⟨ha, hrest⟩ := List.forall_mem_cons.1 h
    rw [List.mapM_cons]
    exact ha.bind fun b _ => (ih hrest).bind fun bs _ => pure (b :: bs)

theorem foldlM {f : σ → α → Except Error σ} {as : List α} (h : ∀ s, ∀ a ∈ as, Raises P (f s a))
    (s : σ) : Raises P (as.foldlM f s) := by
  induction as generalizing s with
  | nil => exact ok s
  | cons a rest ih =>
    rw [List.foldlM_cons]
    exact (h s a List.mem_cons_self).bind fun t _ =>
      ih (fun s' a' ha' => h s' a' (List.mem_cons_of_mem _ ha')) t

end Raises

/-! ### Actions -/

/-- Whatever the disk, the errors of an action meet the condition. -/
def Action.Raises {α : Type} (P : Error → Prop) (x : Action α) : Prop :=
  ∀ d, CodeStencil.Raises P (x.run.run d).1

namespace Action.Raises

variable {α β : Type} {P : Error → Prop} {x : Action α}

theorem pure (a : α) : Action.Raises P (Pure.pure a : Action α) := fun _ => .ok a

theorem throw {e : Error} (he : P e) : Action.Raises P (MonadExcept.throw e : Action α) :=
  fun _ => .error he

theorem get : Action.Raises P (MonadState.get : Action Disk) := fun d => .ok d

theorem set (d : Disk) : Action.Raises P (MonadStateOf.set d : Action PUnit) := fun _ => .ok PUnit.unit

theorem bind {f : α → Action β} (hx : x.Raises P) (hf : ∀ a, (f a).Raises P) :
    (x >>= f).Raises P := by
  intro d
  have hx := hx d
  rw [Action.run_bind]
  cases hrun : x.run.run d with
  | mk result d' =>
    rw [hrun] at hx
    cases result with
    | error e => exact .error (hx e rfl)
    | ok a => exact hf a d'

theorem look {f : Disk → Except Error α} (h : ∀ d, CodeStencil.Raises P (f d)) :
    (Disk.look f).Raises P := by
  refine bind get fun d => ?_
  have hd := h d
  cases hf : f d with
  | error e => exact throw (hd e hf)
  | ok a => exact pure a

end Action.Raises

end CodeStencil
