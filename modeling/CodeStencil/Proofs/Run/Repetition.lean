/-
  CodeStencil/Proofs/Run/Repetition.lean
  ======================================
  **Running again** — what was emitted once can be emitted again (`Repeatable`), and planning finds
  the same as before if nothing has been written where it looks. So a second run changes nothing,
  unless the first one has removed a file that it had just written, or has made a folder for its
  record where it had found nothing (`settled_iff`).
-/
import CodeStencil.Proofs.Run.Aliases
import CodeStencil.Proofs.Run.Overwriting
import CodeStencil.Proofs.Run.Probes

namespace CodeStencil

open Disk

namespace Run

/-! ### Emitting again -/

/-- The operations can be carried out: where one may have something to write, its file is clear. -/
structure Repeatable (ops : List Operation) (d : Disk) : Prop where
  leads : ∀ op ∈ ops, d.locate op.target = some (d.resolve op.target)
  ready : ∀ op ∈ ops, d.Clear op.target ∨
    ∀ op' ∈ ops, d.resolve op'.target = d.resolve op.target → op'.Done d

/-- Targets that start at the root and have no `..`. -/
def LevelTargets (ops : List Operation) : Prop :=
  ∀ op ∈ ops, op.target.isAbsolute = true ∧ op.target.Level

theorem clear_congr {d : Disk} {p q : Path} (h : d.Clear p) (heq : p.components = q.components) :
    d.Clear q := by
  have hresolve := resolve_eq_of_components heq d
  constructor
  · rw [← hresolve]
    exact h.isFile
  · rw [← hresolve]
    exact h.notFolder
  · intro v hv
    refine h.way v ?_
    unfold way at hv ⊢
    rwa [heq]

theorem done_of_changes {s : Scope} {d d' : Disk} {op : Operation} (h : op.Done d)
    (hs : Changes s d d') (hwrites : ¬s.writes (d.resolve op.target))
    (herases : ¬s.erases (d.resolve op.target)) : op.Done d' := by
  constructor
  · rw [hs.resolve_eq]
    exact hs.locate h.leads
  · rw [hs.resolve_eq, hs.contentAt?_eq hwrites herases]
    exact h.holds

namespace Repeatable

variable {ops : List Operation} {d d' : Disk}

/-- Changes that leave the files of the operations alone do not matter. -/
theorem changes {s : Scope} (h : Repeatable ops d) (hs : Changes s d d')
    (hwrites : ∀ op ∈ ops, ¬s.writes (d.resolve op.target))
    (herases : ∀ op ∈ ops, ¬s.erases (d.resolve op.target)) : Repeatable ops d' := by
  constructor
  · intro op hop
    rw [hs.resolve_eq]
    exact hs.locate (h.leads op hop)
  · intro op hop
    rcases h.ready op hop with hclear | hdone
    · exact Or.inl (hclear.changes hs (herases op hop))
    · refine Or.inr fun op' hop' heq => ?_
      rw [hs.resolve_eq, hs.resolve_eq] at heq
      exact done_of_changes (hdone op' hop' heq) hs (hwrites op' hop') (herases op' hop')

/-- Another operation that has been carried out can be carried out again, and so can all before. -/
theorem step {op : Operation} {outcome : Outcome} (h : Repeatable ops d)
    (hstep : op.Emitted d (.ok outcome) d') (hlevel : LevelTargets (ops ++ [op])) :
    Repeatable (ops ++ [op]) d' := by
  have hchanges := hstep.changes
  have hcurrent := hchanges.current_eq
  have hop : op ∈ ops ++ [op] := List.mem_append_right _ (List.mem_singleton_self op)
  have hsame : ∀ op' ∈ ops ++ [op], d.resolve op'.target = d.resolve op.target →
      op'.target.components = op.target.components := fun op' hop' heq =>
    (resolve_eq_iff (hlevel op' hop').1 (hlevel op' hop').2 (hlevel op hop).1 (hlevel op hop).2
      d).1 heq
  constructor
  · intro op' hop'
    rcases List.mem_append.1 hop' with hold | hnew
    · rw [resolve_congr hcurrent]
      exact hchanges.locate (h.leads op' hold)
    · rw [List.mem_singleton.1 hnew]
      exact hstep.done.leads
  · cases hstep with
    | unchanged hdone =>
      intro op' hop'
      by_cases hclear : ∃ op₂ ∈ ops ++ [op],
          d.resolve op₂.target = d.resolve op'.target ∧ d.Clear op₂.target
      · obtain ⟨op₂, hop₂, heq, hclear⟩ := hclear
        have hcomponents := (resolve_eq_iff (hlevel op₂ hop₂).1 (hlevel op₂ hop₂).2
          (hlevel op' hop').1 (hlevel op' hop').2 d).1 heq
        exact Or.inl (clear_congr hclear hcomponents)
      · refine Or.inr fun op₂ hop₂ heq => ?_
        rcases List.mem_append.1 hop₂ with hold | hnew
        · rcases h.ready op₂ hold with hclear' | hall
          · exact absurd ⟨op₂, hop₂, heq, hclear'⟩ hclear
          · exact hall op₂ hold rfl
        · rw [List.mem_singleton.1 hnew]
          exact hdone
    | @written d₁ hnew hmade hfree hopen hclear =>
      intro op' hop'
      by_cases heq : d.resolve op'.target = d.resolve op.target
      · exact Or.inl (clear_congr hclear (hsame op' hop' heq).symm)
      · rcases List.mem_append.1 hop' with hold | hnew'
        · rcases h.ready op' hold with hclear' | hall
          · exact Or.inl (hclear'.changes hchanges id)
          · refine Or.inr fun op₂ hop₂ heq₂ => ?_
            rw [resolve_congr hcurrent, resolve_congr hcurrent] at heq₂
            rcases List.mem_append.1 hop₂ with hold₂ | hnew₂
            · refine done_of_changes (hall op₂ hold₂ heq₂) hchanges ?_ id
              intro hwrites
              exact heq (heq₂.symm.trans hwrites)
            · rw [List.mem_singleton.1 hnew₂] at heq₂
              exact absurd heq₂.symm heq
        · rw [List.mem_singleton.1 hnew'] at heq
          exact absurd rfl heq

/-- None of the operations fails, and all of them can still be carried out. -/
theorem emit {op : Operation} (h : Repeatable ops d) (hop : op ∈ ops) :
    ∃ outcome d', (op.emit false).run.run d = (.ok outcome, d') ∧ Repeatable ops d' := by
  rcases op.run_emit d with ⟨hdone, hrun⟩ | ⟨hnew, hrun⟩
  · exact ⟨_, d, hrun, h⟩
  · have hclear : d.Clear op.target := by
      rcases h.ready op hop with hclear | hall
      · exact hclear
      · exact absurd (hall op hop rfl) hnew
    rw [run_write_of_clear hclear (h.leads op hop)] at hrun
    have hchanges : Changes (.writing [] (d.resolve op.target)) d
        (d.putAt (d.resolve op.target) op.bytes) := Changes.none.write rfl hclear.notFolder
    have hcurrent := hchanges.current_eq
    refine ⟨_, _, hrun, ?_, ?_⟩
    · intro op' hop'
      rw [resolve_congr hcurrent]
      exact hchanges.locate (h.leads op' hop')
    · intro op' hop'
      rcases h.ready op' hop' with hclear' | hall
      · exact Or.inl (hclear'.changes hchanges id)
      · -- all operations with this file are done, so the one that is not has another file
        have hother : d.resolve op'.target ≠ d.resolve op.target :=
          fun heq => hnew (hall op hop heq.symm)
        refine Or.inr fun op₂ hop₂ heq => ?_
        rw [resolve_congr hcurrent, resolve_congr hcurrent] at heq
        refine done_of_changes (hall op₂ hop₂ heq) hchanges ?_ id
        intro hwrites
        exact hother (heq.symm.trans hwrites)

theorem emitAll {more : List Operation} (h : Repeatable ops d) (hmore : more ⊆ ops) :
    ∃ outcomes, (emitAll false more d).result = .ok outcomes := by
  induction more generalizing d with
  | nil => exact ⟨[], rfl⟩
  | cons op rest ih =>
    obtain ⟨outcome, d', hrun, h'⟩ := h.emit (hmore List.mem_cons_self)
    obtain ⟨outcomes, hrest⟩ := ih h' fun op' hop' => hmore (List.mem_cons_of_mem _ hop')
    rw [Run.emitAll, hrun]
    dsimp only
    rw [hrest]
    exact ⟨_, rfl⟩

theorem emittedAll {more : List Operation} {outcomes : List (Path × Outcome)}
    (h : Repeatable ops d) (hemitted : EmittedAll more d outcomes d')
    (hlevel : LevelTargets (ops ++ more)) : Repeatable (ops ++ more) d' := by
  induction hemitted generalizing ops with
  | nil =>
    rw [List.append_nil]
    exact h
  | @cons op rest d outcome d₁ outcomes d' hstep hrest ih =>
    rw [← List.singleton_append, ← List.append_assoc] at hlevel ⊢
    refine ih (h.step hstep fun op' hop' => ?_) hlevel
    exact hlevel op' (List.mem_append_left _ hop')

end Repeatable

/-- What has been emitted can be emitted again. -/
theorem repeatable_of_emittedAll {ops : List Operation} {d d' : Disk}
    {outcomes : List (Path × Outcome)} (h : EmittedAll ops d outcomes d')
    (hlevel : LevelTargets ops) : Repeatable ops d' := by
  have hnil : Repeatable [] d := ⟨by simp, by simp⟩
  exact hnil.emittedAll h hlevel

/-! ### A second run -/

/-- Neither the targets nor the recorded paths are in the way of anything: they are lines without
    `..`, none of them is the record, and neither they nor the record lie at or below a path at which
    the run looks. -/
structure Tidy (args : Arguments) (disk : Disk) : Prop where
  level : ∀ op ∈ planned args disk, op.target.Level
  noBreak : ∀ op ∈ planned args disk,
    '\n' ∉ op.target.text.toList ∧ '\r' ∉ op.target.text.toList
  targets : ∀ s, site args disk = .ok s → ∀ op ∈ planned args disk,
    disk.resolve op.target ≠ disk.resolve (recordFile s args)
  listed : ∀ s, site args disk = .ok s → ∀ p ∈ recorded args disk,
    disk.resolve p ≠ disk.resolve (recordFile s args)
  targetsApart : ∀ q ∈ probes args disk, ∀ op ∈ planned args disk,
    ¬disk.resolve q <+: disk.resolve op.target
  listedApart : ∀ q ∈ probes args disk, ∀ p ∈ recorded args disk,
    ¬disk.resolve q <+: disk.resolve p
  recordApart : ∀ q ∈ probes args disk, ∀ s, site args disk = .ok s →
    ¬disk.resolve q <+: disk.resolve (recordFile s args)

/-- The spelled way to the record does not lead through anything that the run has asked for and not
    found. -/
def ClearWay (args : Arguments) (disk : Disk) : Prop :=
  ∀ s, site args disk = .ok s → ∀ q ∈ asked args disk, disk.holds q = false →
    disk.resolve q ∉ disk.way (recordFile s args)

/-- A second run with the same arguments succeeds with the same plan, changes no file, removes
    nothing and leaves the record alone. It writes nothing exactly if all operations agree. -/
structure Settled (args : Arguments) (disk : Disk) : Prop where
  plan : ∀ s, site args disk = .ok s → site args (run args disk).disk = .ok s ∧
    prepare s args (run args disk).disk = prepare s args disk
  report : ∃ report, (run args (run args disk).disk).result = .ok report ∧ report.removed = [] ∧
    (report.generated = [] ↔ Agree disk (planned args disk))
  files : ∀ l, (run args (run args disk).disk).disk.contentAt? l =
    (run args disk).disk.contentAt? l
  record : Writes args disk → ∀ s, site args disk = .ok s →
    GenerationRecord.IsCurrent (recordFile s args) (produced args disk)
      (emission args (run args disk).disk)

section Second

variable {args : Arguments} {disk : Disk} {s : Site} {validated : List String}
  {outcomes : List (Path × Outcome)} {removed : List Path}

theorem Tidy.isLine (htidy : Tidy args disk) : ∀ p ∈ (produced args disk).paths, p.IsLine := by
  intro p hp
  obtain ⟨op, hop, rfl⟩ := mem_produced hp
  obtain ⟨hfeed, hreturn⟩ := htidy.noBreak op hop
  obtain ⟨cs, hcs⟩ := Path.exists_text_of_isAbsolute (isAbsolute_of_mem_planned hop)
  refine ⟨by simp [hcs], hfeed, fun hlast => hreturn ?_⟩
  exact List.mem_of_getLast? hlast

theorem Tidy.levelTargets (htidy : Tidy args disk) : LevelTargets (planned args disk) :=
  fun op hop => ⟨isAbsolute_of_mem_planned hop, htidy.level op hop⟩

section Completed

variable (htidy : Tidy args disk) (hrun : Completed args disk s validated outcomes removed)

include htidy hrun

/-- After a tidy run, all that it has read is still there. -/
theorem Tidy.sees : ∀ q ∈ probes args disk, Sees q disk (run args disk).disk := by
  intro q hq
  obtain ⟨loc, hloc⟩ := locate_of_mem_probes hrun.site hrun.plan hq
  obtain rfl := locate_some hloc
  have hemission := changes_emission args disk
  refine ⟨_, hloc, hrun.changes.locate (hemission.locate hloc), ?_⟩
  have hwritten : Keeps (disk.resolve q) disk (emission args disk) := by
    refine hemission.keeps ?_ fun _ => False.elim
    rintro l ⟨op, hop, rfl⟩
    exact htidy.targetsApart q hq op hop
  refine hwritten.trans (hrun.changes.keeps ?_ ?_)
  · rintro l rfl
    exact htidy.recordApart q hq s hrun.site
  · intro l hl
    obtain ⟨p, hp, rfl⟩ := List.mem_map.1 hl
    exact htidy.listedApart q hq p (hrun.mem_recorded hp)

/-- What a tidy run has asked for has a place, which lies at or below one where it has looked. -/
theorem Tidy.sees_asked {q : Path} (hq : q ∈ asked args disk) :
    Sees q disk (run args disk).disk ∧
      ∃ p ∈ probes args disk, disk.resolve p <+: disk.resolve q := by
  obtain ⟨p, hp, rfl | ⟨hfolder, name, hname, rfl⟩⟩ :=
    exists_probe_of_mem_asked hrun.site hrun.plan hq
  · exact ⟨htidy.sees hrun q hp, q, hp, List.prefix_refl _⟩
  · refine ⟨(htidy.sees hrun p hp).child hfolder hname, p, hp, ?_⟩
    obtain ⟨loc, hloc⟩ := exists_locate_of_isFolder hfolder
    have hchild := locate_child_of_isFolderAt hloc (isFolderAt_of_isFolder hfolder hloc) hname
    rw [locate_some hloc, locate_some hchild]
    exact List.prefix_append loc [name]

/-- A tidy run makes no folder in the place of anything missing but on the way to its record. -/
theorem Tidy.stillMissing (hway : ClearWay args disk) :
    StillMissing (asked args disk) disk (run args disk).disk := by
  intro q hq hnone
  obtain ⟨hsees, p, hp, hbelow⟩ := htidy.sees_asked hrun hq
  refine hsees.holds_eq_false hnone fun hfolder => ?_
  rcases hrun.changes.isFolderAt_cases hfolder with hfolder | hmade
  · rcases (changes_emission args disk).isFolderAt_cases hfolder with hthere | ⟨op, hop, hmade⟩
    · exact hthere
    · have habove := prefix_of_mem_trail (isAbsolute_of_mem_planned hop) (htidy.level op hop)
        (way_subset_trail _ _ hmade)
      exact absurd (hbelow.trans habove) (htidy.targetsApart p hp op hop)
  · exact absurd hmade (hway s hrun.site q hq hnone)

/-- The way to a record whose path starts at the root and has no `..` is clear. -/
theorem Tidy.clearWay (hlevel : ∀ s, site args disk = .ok s →
    (recordFile s args).isAbsolute = true ∧ (recordFile s args).Level) : ClearWay args disk := by
  intro s' hs' q hq _ hway
  obtain ⟨-, p, hp, hbelow⟩ := htidy.sees_asked hrun hq
  obtain ⟨habs, hlevel⟩ := hlevel s' hs'
  have habove := prefix_of_mem_trail habs hlevel (way_subset_trail _ _ hway)
  exact htidy.recordApart p hp s' hs' (hbelow.trans habove)

/-- Planning again finds the same if what was missing is missing still. -/
theorem Tidy.plan_again (hstill : StillMissing (asked args disk) disk (run args disk).disk) :
    site args (run args disk).disk = .ok s ∧
      prepare s args (run args disk).disk = prepare s args disk :=
  plan_congr hrun.site hrun.plan hrun.current_eq (htidy.sees hrun) hstill

/-- The record is there and need not be written again. -/
theorem Tidy.isCurrent : GenerationRecord.IsCurrent (recordFile s args) (produced args disk)
    (run args disk).disk := by
  have hresolve := (changes_emission args disk).resolve_eq
  refine hrun.reconciled.isCurrent htidy.isLine fun previous hload p hp => ?_
  rw [hresolve, hresolve]
  refine htidy.listed s hrun.site p ?_
  rw [recorded_eq hrun.site hload]
  exact hp

section Avoids

variable (havoid : ∀ p ∈ removed, ∀ op ∈ planned args disk,
  disk.resolve p ≠ disk.resolve op.target)

include havoid

/-- If no target has been removed, all operations can be carried out again. -/
theorem Tidy.repeatable : Repeatable (planned args disk) (run args disk).disk := by
  have hresolve := (changes_emission args disk).resolve_eq
  refine (repeatable_of_emittedAll hrun.emitted htidy.levelTargets).changes hrun.changes ?_ ?_
  · intro op hop
    rw [hresolve]
    exact htidy.targets s hrun.site op hop
  · intro op hop hmem
    obtain ⟨p, hp, heq⟩ := List.mem_map.1 hmem
    rw [hresolve] at heq
    exact havoid p hp op hop heq

/-- If no target has been removed, all files still hold what was last written to them. -/
theorem Tidy.holds_last : ∀ op ∈ planned args disk, ∃ last ∈ planned args disk,
    lastAt disk (planned args disk) (disk.resolve op.target) = some last ∧
    (run args disk).disk.locate op.target = some (disk.resolve op.target) ∧
    (run args disk).disk.contentAt? (disk.resolve op.target) = some last.bytes := by
  intro op hop
  obtain ⟨last, hmem, hlast, hleads, hcontent⟩ := hrun.emitted.holds_last op hop
  refine ⟨last, hmem, hlast, hrun.changes.locate hleads, ?_⟩
  rw [hrun.changes.contentAt?_eq (htidy.targets s hrun.site op hop) ?_]
  · exact hcontent
  · intro herased
    obtain ⟨p, hp, heq⟩ := List.mem_map.1 herased
    exact havoid p hp op hop heq

/-- If no target has been removed and planning finds the same again, everything is settled. -/
theorem Tidy.settled (hdry : args.dryRun = false)
    (hstill : StillMissing (asked args disk) disk (run args disk).disk) : Settled args disk := by
  have hcurrent := hrun.current_eq
  obtain ⟨hsite', hprepare'⟩ := htidy.plan_again hrun hstill
  have hplan' : (prepare s args (run args disk).disk).result =
      .ok ⟨validated, some (planned args disk)⟩ := by
    rw [hprepare', hrun.plan]
  have hlast := htidy.holds_last hrun havoid
  -- the second emission does not change any file
  obtain ⟨outcomes', hemit⟩ := (htidy.repeatable hrun havoid).emitAll (List.Subset.refl _)
  have hemission := emission_of_planned hdry (planned_eq hsite' hplan')
  have hemitted' := emittedAll hemit
  rw [← hemission] at hemitted'
  have hfiles : ∀ l, (emission args (run args disk).disk).contentAt? l =
      (run args disk).disk.contentAt? l := by
    intro l
    rw [hemitted'.contentAt?, lastAt_congr hcurrent]
    cases hl : lastAt disk (planned args disk) l with
    | none => rfl
    | some op =>
      obtain ⟨hop, rfl⟩ := lastAt_eq_some hl
      obtain ⟨last, -, heq, -, hcontent⟩ := hlast op hop
      obtain rfl := Option.some.inj (hl.symm.trans heq)
      exact hcontent.symm
  -- nor does it change the record
  have hrecord : GenerationRecord.IsCurrent (recordFile s args) (produced args disk)
      (emission args (run args disk).disk) := by
    refine (htidy.isCurrent hrun).changes hemitted'.changes ?_ id
    rintro ⟨op, hop, heq⟩
    rw [resolve_congr hcurrent, resolve_congr hcurrent] at heq
    exact htidy.targets s hrun.site op hop heq.symm
  have hreconcile := GenerationRecord.run_reconcile_of_isCurrent hrecord
  rw [hemission] at hreconcile
  obtain ⟨hresult, hdisk⟩ := run_eq_execute hsite' hplan'
  obtain ⟨hexecute, hexecuteDisk⟩ := execute_of_ok validated hdry hemit hreconcile
  constructor
  · intro s' hs'
    obtain rfl := Except.ok.inj (hrun.site.symm.trans hs')
    exact ⟨hsite', hprepare'⟩
  · refine ⟨_, hresult.trans hexecute, rfl, ?_⟩
    rw [hemitted'.targetsWith_written_eq_nil]
    exact done_iff_agree hcurrent hlast
  · intro l
    rw [hdisk, hexecuteDisk, ← hemission]
    exact hfiles l
  · intro hwrites s' hs'
    obtain rfl := Except.ok.inj (hrun.site.symm.trans hs')
    exact hrecord

end Avoids

/-- A settled run has not removed any of its targets. -/
theorem Settled.avoids (h : Settled args disk) (hdry : args.dryRun = false) :
    ∀ p ∈ removed, ∀ op ∈ planned args disk, disk.resolve p ≠ disk.resolve op.target := by
  intro p hp op hop heq
  -- once removed, the file is not there when the second run starts
  have hgone := hrun.contentAt?_removed hp (heq ▸ htidy.targets s hrun.site op hop)
  rw [heq] at hgone
  -- but the second run writes it and keeps it
  obtain ⟨hsite', hprepare'⟩ := h.plan s hrun.site
  have hplan' : (prepare s args (run args disk).disk).result =
      .ok ⟨validated, some (planned args disk)⟩ := by
    rw [hprepare', hrun.plan]
  have hplanned := planned_eq hsite' hplan'
  obtain ⟨report, hresult, -, -⟩ := h.report
  have hrecord := h.record ⟨s, validated, hrun.site, hrun.plan⟩ s hrun.site
  have hproduced : produced args disk = produced args (run args disk).disk := by
    unfold produced
    rw [hplanned]
  rw [hproduced] at hrecord
  have hkept := unaliased_of_isCurrent hsite' hrecord
  have hthere := isFile_of_avoids hresult hdry (avoids_of_unaliased hresult hdry hkept) op
    (hplanned ▸ hop)
  obtain ⟨bytes, hbytes⟩ := isFileAt_eq_true.1 (isFile_eq_true.1 hthere).2
  rw [resolve_of_isAbsolute (isAbsolute_of_mem_planned hop) disk, h.files, hgone] at hbytes
  cases hbytes

/-- A settled run has made nothing in the place of anything missing. -/
theorem Settled.stillMissing (h : Settled args disk) :
    StillMissing (asked args disk) disk (run args disk).disk := by
  obtain ⟨hsite', hprepare'⟩ := h.plan s hrun.site
  have hplan' := hrun.plan
  rw [← hprepare'] at hplan'
  exact stillMissing_of_prepare hrun.site hrun.plan hrun.current_eq (htidy.sees hrun) hsite' hplan'

end Completed

/-- The second run finds everything settled exactly if no recorded path is an alias of a target, and
    nothing is there that the first run has asked for and not found. The former holds if all
    recorded paths start at the root and have no `..`. The latter holds if the way to the record does
    not lead through any such thing, and so if the path of the record starts at the root and has no
    `..`. -/
theorem settled_iff {report : Report} (hresult : (run args disk).result = .ok report)
    (hdry : args.dryRun = false) (htidy : Tidy args disk) :
    (Settled args disk ↔
        Unaliased args disk ∧ StillMissing (asked args disk) disk (run args disk).disk) ∧
      ((∀ p ∈ recorded args disk, p.isAbsolute = true ∧ p.Level) → Unaliased args disk) ∧
      (ClearWay args disk → StillMissing (asked args disk) disk (run args disk).disk) ∧
      ((∀ s, site args disk = .ok s →
          (recordFile s args).isAbsolute = true ∧ (recordFile s args).Level) →
        StillMissing (asked args disk) disk (run args disk).disk) := by
  have hlisted : (∀ p ∈ recorded args disk, p.isAbsolute = true ∧ p.Level) →
      Unaliased args disk := fun hlevel => unaliased_of_level hlevel htidy.level
  rcases ending_ok hresult hdry with ⟨hnone, hgenerated, hremoved, hdisk⟩ |
    ⟨s, validated, outcomes, hrun, -⟩
  · have hnil := planned_eq_nil hnone
    have hunaliased : Unaliased args disk := by simp [Unaliased, hnil]
    have hstill : StillMissing (asked args disk) disk (run args disk).disk := by
      rw [hdisk]
      exact fun _ _ => id
    have hsettled : Settled args disk := by
      constructor
      · intro s hsite
        rw [hdisk]
        exact ⟨hsite, rfl⟩
      · refine ⟨report, by rw [hdisk, hresult], hremoved, ?_⟩
        simp [hgenerated, Agree, hnil]
      · intro l
        rw [hdisk, hdisk]
      · exact fun hwrites => absurd hwrites hnone
    exact ⟨iff_of_true hsettled ⟨hunaliased, hstill⟩, hlisted, fun _ => hstill, fun _ => hstill⟩
  · refine ⟨⟨?_, ?_⟩, hlisted, htidy.stillMissing hrun, ?_⟩
    · intro hsettled
      exact ⟨unaliased_of_avoids hresult hdry (hsettled.avoids htidy hrun hdry),
        hsettled.stillMissing htidy hrun⟩
    · rintro ⟨hunaliased, hstill⟩
      exact htidy.settled hrun (avoids_of_unaliased hresult hdry hunaliased) hdry hstill
    · exact fun hlevel => htidy.stillMissing hrun (htidy.clearWay hrun hlevel)

end Second

namespace Sample

/-- Where a run of the generator looks. -/
def looked : List Path :=
  [⟨"/r/generators.json"⟩, ⟨"/r/c"⟩, ⟨"/r/c/templates/t.template"⟩, ⟨"/r/c/templates/u.template"⟩,
    ⟨"/r/d"⟩, ⟨"/r/d/Health.json"⟩]

theorem probes_generator : Generator.probes disk "g" config ⟨"/r"⟩ =
    [⟨"/r/c"⟩, ⟨"/r/c/templates/t.template"⟩, ⟨"/r/c/templates/u.template"⟩, ⟨"/r/d"⟩,
      ⟨"/r/d/Health.json"⟩] := by
  decide +kernel

theorem covered_disk {caches : String} {registry : Registry} {file : Path}
    (hgenerator : registry.generator "g" = .ok config) :
    covered ⟨⟨"/r"⟩, registry, file⟩ (args caches) = ["g"] := by
  simp [covered, args, Arguments.none, Arguments.selection?, Registry.select, hgenerator]
  rfl

theorem probes_disk (caches : String) : probes (args caches) disk = looked := by
  obtain ⟨registry, file, hsite, hgenerator⟩ := site_disk caches
  have hcandidates : Registry.candidates disk ⟨"/r"⟩ = [⟨"/r/generators.json"⟩] := by
    decide +kernel
  have hsiteProbes : siteProbes (args caches) disk = [⟨"/r/generators.json"⟩] := hcandidates
  rw [probes_eq hsite, hsiteProbes, covered_disk hgenerator, List.flatMap_singleton,
    generatorProbes_eq hgenerator, probes_generator]
  rfl

theorem mem_asked (caches : String) {p : Path} (hp : p ∈ Generator.asked disk config ⟨"/r"⟩) :
    p ∈ asked (args caches) disk := by
  obtain ⟨registry, file, hsite, hgenerator⟩ := site_disk caches
  rw [asked_eq hsite, covered_disk hgenerator, List.flatMap_singleton, generatorAsked_eq hgenerator]
  exact List.mem_append_right _ hp

/-- A run of the sample is tidy if it finds nothing recorded and its record is none of its files. -/
theorem tidy_disk {caches : String} (hrecorded : recorded (args caches) disk = [])
    (hplace : disk.resolve (recordIn caches) = ["r", "caches", "previously_generated_files.txt"]) :
    Tidy (args caches) disk := by
  obtain ⟨hplanned, -, -⟩ := run_disk caches
  constructor
  · rw [hplanned]
    decide +kernel
  · rw [hplanned]
    decide +kernel
  · intro s hs
    rw [hplanned, recordFile_disk hs, hplace]
    decide +kernel
  · rw [hrecorded]
    exact fun _ _ p hp => absurd hp List.not_mem_nil
  · rw [hplanned, probes_disk]
    decide +kernel
  · rw [hrecorded]
    exact fun _ _ p hp => absurd hp List.not_mem_nil
  · intro q hq s hs
    rw [recordFile_disk hs, hplace]
    rw [probes_disk] at hq
    revert q
    decide +kernel

/-- A folder for the record, spelled with an optional file of the generator on the way. -/
def detour : String :=
  "x/../c/attribute_templates.json/../../caches"

/-- The run makes a folder where this optional file has been missing. -/
theorem detour_blocks_templates : (∃ report, (run (args detour) disk).result = .ok report) ∧
    ¬StillMissing (asked (args detour) disk) disk (run (args detour) disk).disk := by
  obtain ⟨-, hresult, hdisk⟩ := run_disk detour
  rw [hresult, hdisk]
  refine ⟨exists_of_isSome (by decide +kernel), fun hstill => ?_⟩
  have hasked : (⟨"/r/c/attribute_templates.json"⟩ : Path) ∈
      Generator.asked disk config ⟨"/r"⟩ := by
    decide +kernel
  have hfolder := hstill _ (mem_asked detour hasked) (by decide +kernel)
  revert hfolder
  decide +kernel

end Sample

/-- A second run of the sample changes nothing, but it writes since the two operations disagree. With
    a detour on the way to the record, the second run is not like the first. -/
theorem sample_settled :
    Settled (Sample.args "caches") Sample.disk ∧
      (∃ report, (run (Sample.args "caches")
        (run (Sample.args "caches") Sample.disk).disk).result = .ok report ∧
          report.generated ≠ []) ∧
      ¬Settled (Sample.args Sample.detour) Sample.disk := by
  obtain ⟨hplanned, -, -⟩ := Sample.run_disk "caches"
  have hrecorded : recorded (Sample.args "caches") Sample.disk = [] :=
    Sample.recorded_disk (by decide +kernel)
  have htidy : Tidy (Sample.args "caches") Sample.disk :=
    Sample.tidy_disk hrecorded (by decide +kernel)
  obtain ⟨hiff, hunaliased, -, hstill⟩ := settled_iff Sample.result_disk rfl htidy
  have hsettled : Settled (Sample.args "caches") Sample.disk := by
    refine hiff.2 ⟨hunaliased fun p hp => ?_, hstill fun s hs => ?_⟩
    · rw [hrecorded] at hp
      cases hp
    · rw [Sample.recordFile_disk hs]
      decide +kernel
  refine ⟨hsettled, ?_, ?_⟩
  · obtain ⟨report, hagain, -, hgenerated⟩ := hsettled.report
    refine ⟨report, hagain, fun hnil => ?_⟩
    have hagree := hgenerated.1 hnil
    rw [hplanned] at hagree
    have hsame := hagree _ List.mem_cons_self _ (List.mem_cons_of_mem _ List.mem_cons_self) rfl
    revert hsame
    decide
  · obtain ⟨⟨report, hresult⟩, hblocked⟩ := Sample.detour_blocks_templates
    have hrecorded' : recorded (Sample.args Sample.detour) Sample.disk = [] :=
      Sample.recorded_disk (by decide +kernel)
    have htidy' : Tidy (Sample.args Sample.detour) Sample.disk :=
      Sample.tidy_disk hrecorded' (by decide +kernel)
    obtain ⟨hiff', -⟩ := settled_iff hresult rfl htidy'
    exact fun hsettled' => hblocked (hiff'.1 hsettled').2

end Run

end CodeStencil
