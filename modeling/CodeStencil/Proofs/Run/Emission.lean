/-
  CodeStencil/Proofs/Run/Emission.lean
  ====================================
  **What emission leaves behind** — each step leaves a file alone that is done, or writes it, or
  fails while it makes folders (`emitted`). After all steps a file holds what the last operation
  with this file wants (`contentAt?_emitAll`). What was emitted once can be emitted again
  (`Repeatable`), and nothing is written then exactly if operations with one file agree.
-/
import CodeStencil.Emission
import CodeStencil.Proofs.Files.Writing
import CodeStencil.Proofs.Record.Reconciliation
import CodeStencil.Run

namespace CodeStencil

open Disk

namespace Operation

/-! ### One operation -/

/-- The file is there and holds what is planned. -/
structure Done (op : Operation) (d : Disk) : Prop where
  leads : d.locate op.target = some (d.resolve op.target)
  holds : d.contentAt? (d.resolve op.target) = some op.bytes

theorem bytes_eq_iff {op op' : Operation} : op.bytes = op'.bytes ↔ op.content = op'.content := by
  constructor
  · intro h
    have htext := String.toByteArray_inj.1 h
    have hchars := congrArg String.toList htext
    rw [String.toList_append, String.toList_append] at hchars
    exact String.toList_inj.1 (List.append_cancel_right hchars)
  · intro h
    rw [bytes, bytes, h]

theorem isDone_spec (op : Operation) (d : Disk) :
    ∃ b, op.isDone d = .ok b ∧ (b = true ↔ op.Done d) := by
  unfold isDone
  cases hfile : d.isFile op.target with
  | false =>
    refine ⟨false, rfl, by simp, fun hdone => ?_⟩
    have hthere : d.isFile op.target = true :=
      isFile_eq_true.2 ⟨hdone.leads, isFileAt_eq_true.2 ⟨_, hdone.holds⟩⟩
    rw [hfile] at hthere
    cases hthere
  | true =>
    obtain ⟨hloc, hat⟩ := isFile_eq_true.1 hfile
    obtain ⟨bytes, hbytes⟩ := isFileAt_eq_true.1 hat
    have hread : d.read op.target = .ok bytes := by
      unfold Disk.read
      rw [hloc, Option.bind_some, hbytes]
    refine ⟨decide (bytes.data = op.bytes.data), by rw [if_pos rfl, hread]; rfl, ?_⟩
    rw [decide_eq_true_iff]
    constructor
    · exact fun hdata => ⟨hloc, by rw [hbytes, ByteArray.ext hdata]⟩
    · intro hdone
      rw [Option.some.inj (hbytes.symm.trans hdone.holds)]

/-- How the step for an operation may end. -/
inductive Emitted (op : Operation) (d : Disk) : Except Error Outcome → Disk → Prop
  | unchanged (hdone : op.Done d) : Emitted op d (.ok .unchanged) d
  | unwritten {e d'} (hmade : Changes (.making (d.way op.target)) d d') :
      Emitted op d (.error e) d'
  | written {d'} (hnew : ¬op.Done d) (hmade : Changes (.making (d.way op.target)) d d')
      (hfree : d'.isFolderAt (d.resolve op.target) = false)
      (hopen : d'.locate op.target = some (d.resolve op.target))
      (hclear : (d'.putAt (d.resolve op.target) op.bytes).Clear op.target) :
      Emitted op d (.ok .written) (d'.putAt (d.resolve op.target) op.bytes)

theorem run_emit (op : Operation) (d : Disk) :
    (op.Done d ∧ (op.emit false).run.run d = (.ok .unchanged, d)) ∨
      (¬op.Done d ∧ (op.emit false).run.run d =
        match (write op.target op.bytes).run.run d with
        | (.ok _, d') => (.ok .written, d')
        | (.error e, d') => (.error e, d')) := by
  obtain ⟨b, hdone, hb⟩ := op.isDone_spec d
  unfold emit
  rw [if_neg Bool.false_ne_true, Action.run_bind, run_look, hdone]
  cases b with
  | true => exact Or.inl ⟨hb.1 rfl, rfl⟩
  | false =>
    refine Or.inr ⟨fun h => Bool.false_ne_true (hb.2 h), ?_⟩
    dsimp only
    rw [if_neg Bool.false_ne_true, Action.run_bind]
    cases (write op.target op.bytes).run.run d with
    | mk result d' => cases result <;> rfl

theorem emitted (op : Operation) (d : Disk) :
    Emitted op d ((op.emit false).run.run d).1 ((op.emit false).run.run d).2 := by
  rcases run_emit op d with ⟨hdone, hrun⟩ | ⟨hnew, hrun⟩
  · rw [hrun]
    exact .unchanged hdone
  · rw [hrun]
    rcases write_cases op.target op.bytes d with ⟨e, d', hwrite, hmade⟩ |
      ⟨d', hwrite, hmade, hfree, hopen, hclear⟩
    · rw [hwrite]
      exact .unwritten hmade
    · rw [hwrite]
      exact .written hnew hmade hfree hopen hclear

namespace Emitted

variable {op : Operation} {d d' : Disk} {result : Except Error Outcome} {outcome : Outcome}

theorem changes (h : op.Emitted d result d') :
    Changes (.writing (d.way op.target) (d.resolve op.target)) d d' := by
  cases h with
  | unchanged hdone => exact .none
  | unwritten hmade => exact hmade.mono (fun _ => id) (fun _ => False.elim) (fun _ => id)
  | written hnew hmade hfree hopen hclear =>
    have hway : Changes (.writing (d.way op.target) (d.resolve op.target)) d _ :=
      hmade.mono (fun _ => id) (fun _ => False.elim) (fun _ => id)
    exact hway.write rfl hfree

/-- A step that does not fail leaves its operation done. -/
theorem done (h : op.Emitted d (.ok outcome) d') : op.Done d' := by
  cases h with
  | unchanged hdone => exact hdone
  | @written d₁ hnew hmade hfree hopen hclear =>
    have hresolve : (d₁.putAt (d.resolve op.target) op.bytes).resolve op.target =
        d.resolve op.target := hmade.resolve_eq op.target
    constructor
    · rw [hresolve]
      exact locate_mono (current_putAt _ _ _) (fun _ => id) hopen
    · rw [hresolve]
      simp

theorem contentAt? (h : op.Emitted d (.ok outcome) d') (l : Location) :
    d'.contentAt? l = if l = d.resolve op.target then some op.bytes else d.contentAt? l := by
  by_cases hl : l = d.resolve op.target
  · rw [if_pos hl, hl, ← h.changes.resolve_eq]
    exact h.done.holds
  · rw [if_neg hl]
    exact h.changes.contentAt?_eq hl id

end Emitted

end Operation

namespace Run

/-! ### All operations -/

/-- The targets are written, and folders are made on the way to them. -/
def emitting (ops : List Operation) (d : Disk) : Scope :=
  ⟨fun l => ∃ op ∈ ops, l ∈ d.way op.target, fun l => ∃ op ∈ ops, l = d.resolve op.target,
    fun _ => False⟩

theorem changes_emitting_cons {op : Operation} {rest : List Operation} {d d₁ d' : Disk}
    (hstep : Changes (.writing (d.way op.target) (d.resolve op.target)) d d₁)
    (hrest : Changes (emitting rest d₁) d₁ d') : Changes (emitting (op :: rest) d) d d' := by
  refine (hstep.mono (t := emitting (op :: rest) d) ?_ ?_ (fun _ => id)).trans
    (hrest.mono ?_ ?_ (fun _ => id))
  · exact fun l hl => ⟨op, List.mem_cons_self, hl⟩
  · exact fun l hl => ⟨op, List.mem_cons_self, hl⟩
  · rintro l ⟨op', hop', hl⟩
    exact ⟨op', List.mem_cons_of_mem _ hop', way_congr hstep.current_eq _ ▸ hl⟩
  · rintro l ⟨op', hop', hl⟩
    exact ⟨op', List.mem_cons_of_mem _ hop', hstep.resolve_eq _ ▸ hl⟩

theorem changes_emitAll (ops : List Operation) (d : Disk) :
    Changes (emitting ops d) d (emitAll false ops d).disk := by
  induction ops generalizing d with
  | nil => exact .none
  | cons op rest ih =>
    have hstep := (op.emitted d).changes
    rw [emitAll]
    cases hrun : (op.emit false).run.run d with
    | mk result d₁ =>
      rw [hrun] at hstep
      cases result with
      | error e => exact changes_emitting_cons hstep .none
      | ok outcome => exact changes_emitting_cons hstep (ih d₁)

/-- A dry run leaves the disk as it is, and writes nothing. -/
theorem emitAll_dry (ops : List Operation) (d : Disk) :
    (emitAll true ops d).disk = d ∧
      (emitAll true ops d).result = .ok (ops.map fun op => (op.target, .skipped)) := by
  induction ops with
  | nil => exact ⟨rfl, rfl⟩
  | cons op rest ih =>
    have hrun : (op.emit true).run.run d = (.ok .skipped, d) := rfl
    rw [emitAll, hrun]
    dsimp only
    rw [ih.2]
    exact ⟨ih.1, rfl⟩

theorem targetsWith_skipped {outcome : Outcome} (h : outcome ≠ .skipped) (ops : List Operation) :
    targetsWith outcome (ops.map fun op => (op.target, .skipped)) = [] := by
  simp [targetsWith, h.symm]

/-- Steps for all operations, none of which fails. -/
inductive EmittedAll : List Operation → Disk → List (Path × Outcome) → Disk → Prop
  | nil {d} : EmittedAll [] d [] d
  | cons {op rest d outcome d₁ outcomes d'} (hstep : op.Emitted d (.ok outcome) d₁)
      (hrest : EmittedAll rest d₁ outcomes d') :
      EmittedAll (op :: rest) d ((op.target, outcome) :: outcomes) d'

theorem emittedAll {ops : List Operation} {d : Disk} {outcomes : List (Path × Outcome)}
    (h : (emitAll false ops d).result = .ok outcomes) :
    EmittedAll ops d outcomes (emitAll false ops d).disk := by
  induction ops generalizing d outcomes with
  | nil =>
    rw [← Except.ok.inj h]
    exact .nil
  | cons op rest ih =>
    have hstep := op.emitted d
    rw [emitAll] at h ⊢
    cases hrun : (op.emit false).run.run d with
    | mk result d₁ =>
      rw [hrun] at h hstep
      cases result with
      | error e => cases h
      | ok outcome =>
        dsimp only at h ⊢
        cases hrest : (emitAll false rest d₁).result with
        | error e =>
          rw [hrest] at h
          cases h
        | ok more =>
          rw [hrest] at h
          rw [← Except.ok.inj h]
          exact .cons hstep (ih hrest)

/-- The last of the operations whose target is at a location. -/
def lastAt (d : Disk) (ops : List Operation) (l : Location) : Option Operation :=
  (ops.filter fun op => d.resolve op.target = l).getLast?

theorem lastAt_cons (d : Disk) (op : Operation) (rest : List Operation) (l : Location) :
    lastAt d (op :: rest) l =
      (lastAt d rest l).or (if l = d.resolve op.target then some op else none) := by
  unfold lastAt
  by_cases hl : l = d.resolve op.target
  · rw [List.filter_cons_of_pos (by simp [hl]), List.getLast?_cons, if_pos hl]
    cases (rest.filter fun op => d.resolve op.target = l).getLast? <;> rfl
  · rw [List.filter_cons_of_neg (by simpa using fun h => hl h.symm), if_neg hl, Option.or_none]

theorem lastAt_congr {d d' : Disk} (h : d'.current = d.current) (ops : List Operation)
    (l : Location) : lastAt d' ops l = lastAt d ops l := by
  unfold lastAt
  simp only [resolve_congr h]

theorem lastAt_eq_some {d : Disk} {ops : List Operation} {l : Location} {op : Operation}
    (h : lastAt d ops l = some op) : op ∈ ops ∧ d.resolve op.target = l := by
  have hmem := List.mem_filter.1 (List.mem_of_getLast? h)
  exact ⟨hmem.1, of_decide_eq_true hmem.2⟩

/-- Where an operation goes, there is a last one that goes there. -/
theorem lastAt_resolve {d : Disk} {ops : List Operation} {op : Operation} (h : op ∈ ops) :
    ∃ last ∈ ops, lastAt d ops (d.resolve op.target) = some last ∧
      d.resolve last.target = d.resolve op.target := by
  cases hlast : lastAt d ops (d.resolve op.target) with
  | none =>
    have hnil := List.getLast?_eq_none_iff.1 hlast
    exact absurd (List.mem_filter.2 ⟨h, decide_eq_true rfl⟩) (hnil ▸ List.not_mem_nil)
  | some last =>
    obtain ⟨hmem, hresolve⟩ := lastAt_eq_some hlast
    exact ⟨last, hmem, rfl, hresolve⟩

namespace EmittedAll

variable {ops : List Operation} {d d' : Disk} {outcomes : List (Path × Outcome)}

theorem changes (h : EmittedAll ops d outcomes d') : Changes (emitting ops d) d d' := by
  induction h with
  | nil => exact .none
  | cons hstep hrest ih => exact changes_emitting_cons hstep.changes ih

/-- All targets can be reached in the end. -/
theorem leads (h : EmittedAll ops d outcomes d') {op : Operation} (hop : op ∈ ops) :
    d'.locate op.target = some (d.resolve op.target) := by
  induction h with
  | nil => cases hop
  | cons hstep hrest ih =>
    rcases List.mem_cons.1 hop with rfl | hop
    · rw [← hstep.changes.resolve_eq]
      exact hrest.changes.locate hstep.done.leads
    · rw [← hstep.changes.resolve_eq]
      exact ih hop

/-- The last write to a file stays; all other files are as before. -/
theorem contentAt? (h : EmittedAll ops d outcomes d') (l : Location) :
    d'.contentAt? l =
      match lastAt d ops l with
      | some op => some op.bytes
      | none => d.contentAt? l := by
  induction h with
  | nil => rfl
  | @cons op rest d outcome d₁ outcomes d' hstep hrest ih =>
    rw [ih, lastAt_congr hstep.changes.current_eq, lastAt_cons, hstep.contentAt? l]
    cases lastAt d rest l with
    | some op' => rfl
    | none =>
      rw [Option.none_or]
      by_cases hl : l = d.resolve op.target
      · rw [if_pos hl, if_pos hl]
      · rw [if_neg hl, if_neg hl]

theorem isFile (h : EmittedAll ops d outcomes d') {op : Operation} (hop : op ∈ ops) :
    d'.isFile op.target = true := by
  obtain ⟨last, -, hlast, -⟩ := lastAt_resolve (d := d) hop
  have hcontent := h.contentAt? (d.resolve op.target)
  rw [hlast] at hcontent
  refine isFile_eq_true.2 ?_
  rw [h.changes.resolve_eq]
  exact ⟨h.leads hop, isFileAt_eq_true.2 ⟨_, hcontent⟩⟩

/-- Each target is reported as written or as unchanged. -/
theorem mem_targetsWith (h : EmittedAll ops d outcomes d') {op : Operation} (hop : op ∈ ops) :
    op.target ∈ targetsWith .written outcomes ++ targetsWith .unchanged outcomes := by
  induction h with
  | nil => cases hop
  | cons hstep hrest ih =>
    rw [List.mem_append]
    rcases List.mem_cons.1 hop with rfl | hop
    · cases hstep with
      | unchanged => exact Or.inr (by simp [targetsWith])
      | written => exact Or.inl (by simp [targetsWith])
    · have hmore := List.mem_append.1 (ih hop)
      cases hstep with
      | unchanged => exact hmore.imp id fun hm => by simpa [targetsWith] using Or.inr hm
      | written => exact hmore.imp (fun hm => by simpa [targetsWith] using Or.inr hm) id

/-- There is one outcome for each operation, in order. -/
theorem targets (h : EmittedAll ops d outcomes d') :
    outcomes.map Prod.fst = ops.map (·.target) := by
  induction h with
  | nil => rfl
  | cons hstep hrest ih => rw [List.map_cons, List.map_cons, ih]

/-- No operation is passed over. -/
theorem written_or_unchanged (h : EmittedAll ops d outcomes d') :
    ∀ o ∈ outcomes, o.2 = .written ∨ o.2 = .unchanged := by
  induction h with
  | nil => exact fun o ho => absurd ho List.not_mem_nil
  | cons hstep hrest ih =>
    rw [List.forall_mem_cons]
    refine ⟨?_, ih⟩
    cases hstep with
    | unchanged => exact Or.inr rfl
    | written => exact Or.inl rfl

/-- Nothing is written exactly if all was there already. -/
theorem targetsWith_written_eq_nil (h : EmittedAll ops d outcomes d') :
    targetsWith .written outcomes = [] ↔ ∀ op ∈ ops, op.Done d := by
  induction h with
  | nil => simp [targetsWith]
  | @cons op rest d outcome d₁ outcomes d' hstep hrest ih =>
    cases hstep with
    | unchanged hdone =>
      rw [List.forall_mem_cons, ← ih]
      simp [targetsWith, hdone]
    | written hnew =>
      rw [List.forall_mem_cons]
      simp [targetsWith, hnew]

end EmittedAll

end Run

end CodeStencil
