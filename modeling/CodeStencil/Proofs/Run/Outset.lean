/-
  CodeStencil/Proofs/Run/Outset.lean
  ==================================
  **Before a run writes** — a run finds its registry, selects, validates and plans, and only then
  touches a file. How far it gets is its outset; everything that follows is writing (`run_of_outset`).
  The plans of a selection come in order, up to the first generator that cannot be planned
  (`planAll_eq_ok_iff`, `planAll_eq_error`).
-/
import CodeStencil.Proofs.Errors.Writing
import CodeStencil.Proofs.Run.Phases

namespace CodeStencil

open Disk

namespace Run

/-- What a run is going to do, or why it does not get that far. -/
def outset (args : Arguments) (disk : Disk) : Except Error Preparation := do
  let s ← site args disk
  (prepare s args disk).result

variable {args : Arguments} {disk : Disk} {s : Site} {validated : List String}
  {ops : List Operation} {e : Error}

theorem outset_eq_ok {prepared : Preparation} :
    outset args disk = .ok prepared ↔
      ∃ s, site args disk = .ok s ∧ (prepare s args disk).result = .ok prepared := bind_eq_ok

theorem outset_of_site (hsite : site args disk = .ok s) :
    outset args disk = (prepare s args disk).result := by
  unfold outset
  rw [hsite]
  rfl

/-- Whether a run is quiet or dry, and where it has its record, does not matter before it writes. -/
theorem outset_congr (args : Arguments) (quiet dryRun : Bool) (caches : Option Path) (disk : Disk) :
    outset { args with quiet, dryRun, caches } disk = outset args disk := rfl

theorem planned_of_outset (h : outset args disk = .ok ⟨validated, some ops⟩) :
    planned args disk = ops := by
  obtain ⟨s, hsite, hplan⟩ := outset_eq_ok.1 h
  exact planned_eq hsite hplan

theorem planned_of_outset_none (h : outset args disk = .ok ⟨validated, none⟩) :
    planned args disk = [] := by
  obtain ⟨s, hsite, hplan⟩ := outset_eq_ok.1 h
  simp [planned, hsite, hplan]

theorem planned_congr (args : Arguments) (quiet dryRun : Bool) (caches : Option Path)
    (disk : Disk) :
    planned { args with quiet, dryRun, caches } disk = planned args disk := rfl

/-! ### Runs by their outset -/

theorem run_eq_runAt (hsite : site args disk = .ok s) :
    (run args disk).result = (runAt s args disk).result ∧
      (run args disk).disk = (runAt s args disk).disk ∧
      (run args disk).lines = if args.quiet then [] else (runAt s args disk).lines := by
  unfold run
  rw [hsite]
  cases args.quiet with
  | true => exact ⟨rfl, rfl, rfl⟩
  | false => exact ⟨rfl, rfl, rfl⟩

/-- A run that does not get as far as writing fails for that reason, and changes nothing. -/
theorem run_of_outset_error (h : outset args disk = .error e) :
    (run args disk).result = .error e ∧ (run args disk).disk = disk := by
  cases hsite : site args disk with
  | error e' =>
    have he : e' = e := by
      unfold outset at h
      rw [hsite] at h
      exact Except.error.inj h
    unfold run
    rw [hsite, he]
    exact ⟨rfl, rfl⟩
  | ok s =>
    rw [outset_of_site hsite] at h
    obtain ⟨hresult, hdisk, -⟩ := run_eq_runAt hsite
    rw [hresult, hdisk]
    unfold runAt
    dsimp only
    rw [h]
    exact ⟨rfl, rfl⟩

theorem run_of_outset_none (h : outset args disk = .ok ⟨validated, none⟩) :
    (run args disk).result = .ok ⟨validated, [], [], []⟩ ∧ (run args disk).disk = disk := by
  obtain ⟨s, hsite, hplan⟩ := outset_eq_ok.1 h
  obtain ⟨hresult, hdisk, -⟩ := run_eq_runAt hsite
  rw [hresult, hdisk]
  unfold runAt
  dsimp only
  rw [hplan]
  exact ⟨rfl, rfl⟩

theorem run_of_outset_some (h : outset args disk = .ok ⟨validated, some ops⟩) :
    ∃ s, site args disk = .ok s ∧ (prepare s args disk).result = .ok ⟨validated, some ops⟩ ∧
      (run args disk).result = (execute s args validated ops disk).result ∧
      (run args disk).disk = (execute s args validated ops disk).disk := by
  obtain ⟨s, hsite, hplan⟩ := outset_eq_ok.1 h
  exact ⟨s, hsite, hplan, run_eq_execute hsite hplan⟩

theorem lines_runAt {prepared : Preparation} (hplan : (prepare s args disk).result = .ok prepared) :
    (runAt s args disk).lines = (prepare s args disk).lines ++
      match prepared.operations with
      | none => []
      | some ops => (execute s args prepared.validated ops disk).lines := by
  obtain ⟨validated, ops⟩ := prepared
  unfold runAt
  dsimp only
  rw [hplan]
  cases ops with
  | none => exact (List.append_nil _).symm
  | some ops => rfl

theorem lines_runAt_of_error (hplan : (prepare s args disk).result = .error e) :
    (runAt s args disk).lines = (prepare s args disk).lines := by
  unfold runAt
  dsimp only
  rw [hplan]

/-! ### Writing and what comes after it -/

/-- A dry run shows all operations and changes nothing. -/
theorem execute_dry (hdry : args.dryRun = true) (validated : List String) (ops : List Operation) :
    execute s args validated ops disk =
      ⟨disk, ops.map (·.message .skipped), .ok ⟨validated, [], [], []⟩⟩ := by
  have hlines : (emitAll true ops disk).lines = ops.map (·.message .skipped) := by
    induction ops with
    | nil => rfl
    | cons op rest ih =>
      have hrun : (op.emit true).run.run disk = (.ok .skipped, disk) := rfl
      rw [emitAll, hrun]
      dsimp only
      rw [ih]
      rfl
  obtain ⟨hdisk, hresult⟩ := emitAll_dry ops disk
  unfold execute
  rw [hdry]
  dsimp only
  rw [hresult]
  dsimp only
  rw [if_pos rfl, hdisk, hlines, targetsWith_skipped (by decide), targetsWith_skipped (by decide)]

/-- How writing fails: in the middle of it, or while cleaning up. -/
theorem execute_eq_error (h : (execute s args validated ops disk).result = .error e) :
    args.dryRun = false ∧
      ((emitAll false ops disk).result = .error e ∧
          (execute s args validated ops disk).disk = (emitAll false ops disk).disk ∨
        ∃ outcomes, (emitAll false ops disk).result = .ok outcomes ∧
          (GenerationRecord.reconcile (recordFile s args)
            (GenerationRecord.ofList (ops.map (·.target)))).run.run (emitAll false ops disk).disk =
              (.error e, (execute s args validated ops disk).disk)) := by
  have hfile : GenerationRecord.pathIn (cachesFolder s args) = recordFile s args := rfl
  cases hdry : args.dryRun with
  | true =>
    rw [execute_dry hdry] at h
    cases h
  | false =>
    refine ⟨rfl, ?_⟩
    unfold execute at h ⊢
    rw [hdry] at h ⊢
    cases hemit : (emitAll false ops disk).result with
    | error e' =>
      simp only [hemit] at h ⊢
      obtain rfl := Except.error.inj h
      exact Or.inl ⟨rfl, trivial⟩
    | ok outcomes =>
      refine Or.inr ⟨outcomes, rfl, ?_⟩
      simp only [hemit, hfile, if_neg Bool.false_ne_true] at h ⊢
      cases hrun : (GenerationRecord.reconcile (recordFile s args)
          (GenerationRecord.ofList (ops.map (·.target)))).run.run (emitAll false ops disk).disk with
      | mk result d' =>
        rw [hrun] at h
        cases result with
        | error e' =>
          obtain rfl := Except.error.inj h
          rfl
        | ok removed => cases h

/-- Once all is planned, only the file system can make a run fail. -/
theorem raises_of_outset {prepared : Preparation} (h : outset args disk = .ok prepared) :
    Raises Error.IsIo (run args disk).result := by
  intro e he
  obtain ⟨validated, ops⟩ := prepared
  cases ops with
  | none =>
    rw [(run_of_outset_none h).1] at he
    cases he
  | some ops =>
    obtain ⟨s, -, -, hresult, -⟩ := run_of_outset_some h
    rw [hresult] at he
    obtain ⟨-, ⟨hemit, -⟩ | ⟨outcomes, -, hreconcile⟩⟩ := execute_eq_error he
    · exact raises_emitAll false ops disk e hemit
    · have hraises := GenerationRecord.raises_reconcile (recordFile s args)
        (GenerationRecord.ofList (ops.map (·.target))) (emitAll false ops disk).disk
      rw [hreconcile] at hraises
      exact hraises e rfl

/-! ### Plans of a selection -/

section PlanAll

variable {announce : String → String} {ids : List String}

theorem planAll_eq_ok_iff (announce : String → String) :
    (∃ opss, (planAll s disk announce ids).result = .ok opss) ↔
      ∀ id ∈ ids, ∃ ops, planOf s disk id = .ok ops := by
  induction ids with
  | nil => exact ⟨fun _ => by simp, fun _ => ⟨[], rfl⟩⟩
  | cons id rest ih =>
    rw [List.forall_mem_cons, ← ih, planAll]
    cases planOf s disk id with
    | error e => simp
    | ok ops =>
      dsimp only
      cases (planAll s disk announce rest).result with
      | error e => simp [Except.map]
      | ok opss => simp [Except.map]

/-- If not all generators can be planned, then the first one that cannot is the last one announced,
    and its error is the error. -/
theorem planAll_eq_error (h : (planAll s disk announce ids).result = .error e) :
    ∃ before id after, ids = before ++ id :: after ∧
      (∀ id' ∈ before, ∃ ops, planOf s disk id' = .ok ops) ∧ planOf s disk id = .error e ∧
      (planAll s disk announce ids).lines = (before ++ [id]).map announce := by
  induction ids with
  | nil => cases h
  | cons id rest ih =>
    rw [planAll] at h ⊢
    cases hid : planOf s disk id with
    | error e' =>
      rw [hid] at h
      obtain rfl := Except.error.inj h
      exact ⟨[], id, rest, rfl, by simp, hid, rfl⟩
    | ok ops =>
      rw [hid] at h
      dsimp only at h
      have hrest : (planAll s disk announce rest).result = .error e := by
        cases hmore : (planAll s disk announce rest).result with
        | error e' =>
          rw [hmore] at h
          exact h
        | ok more =>
          rw [hmore] at h
          cases h
      obtain ⟨before, failing, after, rfl, hbefore, hfailing, hlines⟩ := ih hrest
      refine ⟨id :: before, failing, after, rfl, ?_, hfailing, ?_⟩
      · rw [List.forall_mem_cons]
        exact ⟨⟨ops, hid⟩, hbefore⟩
      · exact congrArg (announce id :: ·) hlines

theorem mem_lines_planAll {line : String} (h : line ∈ (planAll s disk announce ids).lines) :
    ∃ id, line = announce id := by
  induction ids with
  | nil => cases h
  | cons id rest ih =>
    rw [planAll] at h
    cases hid : planOf s disk id with
    | error e =>
      rw [hid] at h
      exact ⟨id, List.mem_singleton.1 h⟩
    | ok ops =>
      rw [hid] at h
      rcases List.mem_cons.1 h with rfl | h
      · exact ⟨id, rfl⟩
      · exact ih h

end PlanAll

theorem mem_lines_prepare {line : String} (h : line ∈ (prepare s args disk).lines) :
    ∃ id, line = "Validating generator: " ++ id ∨ line = "Running generator: " ++ id := by
  have hselected : ∀ {announce selection},
      line ∈ (planSelected s disk announce selection).lines → ∃ id, line = announce id := by
    intro announce selection h
    unfold planSelected at h
    split at h
    · cases h
    · exact mem_lines_planAll h
  have hvalidation : line ∈ (validation s args disk).lines →
      ∃ id, line = "Validating generator: " ++ id := by
    intro h
    unfold validation at h
    split at h
    · exact hselected h
    · cases h
  unfold prepare at h
  dsimp only at h
  split at h
  · obtain ⟨id, hid⟩ := hvalidation h
    exact ⟨id, Or.inl hid⟩
  · rcases List.mem_append.1 h with h | h
    · obtain ⟨id, hid⟩ := hvalidation h
      exact ⟨id, Or.inl hid⟩
    · unfold selected at h
      split at h
      · obtain ⟨id, hid⟩ := hselected h
        exact ⟨id, Or.inr hid⟩
      · cases h

end Run

end CodeStencil
