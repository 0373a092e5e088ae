/-
  CodeStencil/Proofs/Run/Validation.lean
  ======================================
  **What validation promises** — a run that only validates plans every registered generator, and the
  members of every group are registered. So if it succeeds, every selection of the registry can be
  planned on the same disk; if it fails, the first generator that cannot be planned is the one it
  names (`validation_predicts`).
-/
import CodeStencil.Proofs.Errors.Planning
import CodeStencil.Proofs.Run.Outset

namespace CodeStencil

/-! ### Registries -/

namespace Registry

variable {disk : Disk} {r : Registry}

theorem validate_of_load {p : Path} (h : load disk p = .ok r) : r.validate = .ok () := by
  have hrest : ∀ x : Except Error Registry,
      (do let r ← x; r.validate; return r) = Except.ok r → r.validate = .ok () := by
    intro x hx
    obtain ⟨r', -, hx⟩ := bind_eq_ok.1 hx
    obtain ⟨u, hvalid, hx⟩ := bind_eq_ok.1 hx
    obtain rfl := Except.ok.inj hx
    exact hvalid
  unfold load at h
  split at h
  · obtain ⟨text, -, h⟩ := bind_eq_ok.1 h
    dsimp only at h
    split at h
    · exact hrest _ h
    · exact hrest _ h
    · exact hrest _ h
  · cases h

/-- The groups of a valid registry hold registered generators only. -/
theorem mem_keys_of_mem_group (hvalid : r.validate = .ok ()) {name : String} {ids : List String}
    (hgroup : r.group name = .ok ids) {id : String} (hid : id ∈ ids) : id ∈ r.generators.keys := by
  have hget : r.groups.get? name = some ids := by
    unfold group at hgroup
    split at hgroup
    · next hget => rw [hget, Except.ok.inj hgroup]
    · cases hgroup
  obtain ⟨u, -, hmembers⟩ := bind_eq_ok.1 hvalid
  split at hmembers
  · cases hmembers
  · next hnone =>
    have hmember := List.findSome?_eq_none_iff.1 hnone _ (Table.mem_entries_of_get? hget)
    rw [Option.map_eq_none_iff] at hmember
    have hthere := List.find?_eq_none.1 hmember id hid
    rw [Bool.not_eq_true', Bool.not_eq_false] at hthere
    exact Table.contains_iff_mem_keys.1 hthere

/-- The registry has what is selected. -/
def Registered (r : Registry) : Selection → Prop
  | .all => True
  | .generator id => id ∈ r.generators.keys
  | .group name => name ∈ r.groups.keys

theorem exists_of_mem_keys {α : Type} {t : Table α} {key : String} (h : key ∈ t.keys) :
    ∃ value, t.get? key = some value :=
  Option.isSome_iff_exists.1 (Table.contains_iff_mem_keys.2 h)

theorem generator_of_mem_keys {id : String} (h : id ∈ r.generators.keys) :
    ∃ config, r.generator id = .ok config := by
  obtain ⟨config, hconfig⟩ := exists_of_mem_keys h
  exact ⟨config, by simp [generator, hconfig]⟩

theorem select_of_registered (hvalid : r.validate = .ok ()) {selection : Selection}
    (h : r.Registered selection) :
    ∃ ids, r.select selection = .ok ids ∧ ∀ id ∈ ids, id ∈ r.generators.keys := by
  cases selection with
  | all => exact ⟨r.generators.keys, rfl, fun _ => id⟩
  | generator id =>
    obtain ⟨config, hconfig⟩ := generator_of_mem_keys h
    refine ⟨[id], ?_, ?_⟩
    · exact bind_eq_ok.2 ⟨(), by rw [hconfig]; rfl, rfl⟩
    · intro id' hid'
      rw [List.mem_singleton.1 hid']
      exact h
  | group name =>
    obtain ⟨ids, hids⟩ := exists_of_mem_keys h
    have hgroup : r.group name = .ok ids := by simp [group, hids]
    exact ⟨ids, hgroup, fun id hid => mem_keys_of_mem_group hvalid hgroup hid⟩

end Registry

namespace Run

section

variable {args args' : Arguments} {disk : Disk} {s : Site}

theorem validate_of_site (hsite : site args disk = .ok s) : s.registry.validate = .ok () := by
  unfold site at hsite
  dsimp only at hsite
  split at hsite
  · obtain ⟨r, hload, hsite⟩ := bind_eq_ok.1 hsite
    cases hsite
    exact Registry.validate_of_load hload
  · obtain ⟨found, hfound, hsite⟩ := bind_eq_ok.1 hsite
    cases hsite
    unfold Registry.find at hfound
    split at hfound
    · obtain ⟨r, hload, hfound⟩ := bind_eq_ok.1 hfound
      cases hfound
      exact Registry.validate_of_load hload
    · cases hfound

theorem site_eq_of_args (hworking : args'.working = args.working)
    (hconfig : args'.config = args.config) : site args' disk = site args disk := by
  unfold site workingFolder
  rw [hworking, hconfig]

/-! ### Plans of registered generators -/

/-- Every registered generator can be planned. -/
def Plannable (s : Site) (disk : Disk) : Prop :=
  ∀ id ∈ s.registry.generators.keys, ∃ ops, planOf s disk id = .ok ops

theorem planSelected_of_plannable (hvalid : s.registry.validate = .ok ())
    (hplannable : Plannable s disk) (announce : String → String) (selection : Selection)
    (h : s.registry.Registered selection) :
    ∃ p, (planSelected s disk announce selection).result = .ok p := by
  obtain ⟨ids, hids, hmem⟩ := Registry.select_of_registered hvalid h
  have hall : ∀ id ∈ ids, ∃ ops, planOf s disk id = .ok ops := by
    intro id hid
    exact hplannable id (hmem id hid)
  obtain ⟨opss, hopss⟩ := (planAll_eq_ok_iff announce).2 hall
  refine ⟨(ids, opss.flatten), ?_⟩
  unfold planSelected
  rw [hids]
  dsimp only
  rw [hopss]
  rfl

/-- If all generators can be planned, then so can every registered selection. -/
theorem outset_of_plannable (hsite : site args disk = .ok s) (hplannable : Plannable s disk)
    {selection : Selection} (hselection : args.selection? = some selection)
    (h : s.registry.Registered selection) :
    ∃ validated ops, outset args disk = .ok ⟨validated, some ops⟩ := by
  have hvalid := validate_of_site hsite
  have hvalidation : ∃ validated, (validation s args disk).result = .ok validated := by
    unfold validation
    split
    · obtain ⟨p, hp⟩ := planSelected_of_plannable hvalid hplannable
        ("Validating generator: " ++ ·) .all trivial
      exact ⟨p.1, map_eq_ok.2 ⟨p, hp, rfl⟩⟩
    · exact ⟨[], rfl⟩
  obtain ⟨validated, hvalidated⟩ := hvalidation
  obtain ⟨p, hp⟩ :=
    planSelected_of_plannable hvalid hplannable ("Running generator: " ++ ·) selection h
  refine ⟨validated, p.2, ?_⟩
  rw [outset_of_site hsite]
  unfold prepare selected
  dsimp only
  rw [hvalidated, hselection]
  dsimp only
  rw [hp]
  rfl

/-! ### Validation alone -/

section Alone

variable (hvalidate : args.validateAll = true) (halone : args.selection? = none)

include hvalidate halone

/-- A run that only validates announces and plans the registered generators. -/
theorem prepare_alone (s : Site) (disk : Disk) :
    (prepare s args disk).lines =
        (planAll s disk ("Validating generator: " ++ ·) s.registry.generators.keys).lines ∧
      (prepare s args disk).result =
        (planAll s disk ("Validating generator: " ++ ·) s.registry.generators.keys).result.map
          fun _ => ⟨s.registry.generators.keys, none⟩ := by
  unfold prepare validation selected planSelected
  rw [hvalidate, halone]
  dsimp only [Registry.select, if_true]
  cases (planAll s disk ("Validating generator: " ++ ·) s.registry.generators.keys).result with
  | error e => exact ⟨rfl, rfl⟩
  | ok opss => exact ⟨List.append_nil _, rfl⟩

theorem run_alone_eq_ok_iff (hsite : site args disk = .ok s) :
    (∃ report, (run args disk).result = .ok report) ↔ Plannable s disk := by
  obtain ⟨-, hprepare⟩ := prepare_alone hvalidate halone s disk
  rw [← outset_of_site hsite] at hprepare
  unfold Plannable
  rw [← planAll_eq_ok_iff ("Validating generator: " ++ ·)]
  cases hplans :
      (planAll s disk ("Validating generator: " ++ ·) s.registry.generators.keys).result with
  | error e =>
    rw [hplans] at hprepare
    rw [(run_of_outset_error hprepare).1]
    simp
  | ok opss =>
    rw [hplans] at hprepare
    rw [(run_of_outset_none hprepare).1]
    simp

theorem run_alone_disk (hsite : site args disk = .ok s) : (run args disk).disk = disk := by
  obtain ⟨-, hprepare⟩ := prepare_alone hvalidate halone s disk
  rw [← outset_of_site hsite] at hprepare
  cases hplans :
      (planAll s disk ("Validating generator: " ++ ·) s.registry.generators.keys).result with
  | error e =>
    rw [hplans] at hprepare
    exact (run_of_outset_error hprepare).2
  | ok opss =>
    rw [hplans] at hprepare
    exact (run_of_outset_none hprepare).2

/-- What a run that only validates reports if it fails: the first generator in the order of the
    registry that cannot be planned, which is also the last one that it announces. -/
theorem run_alone_eq_error (hsite : site args disk = .ok s) {e : Error}
    (h : (run args disk).result = .error e) :
    ∃ before id after, s.registry.generators.keys = before ++ id :: after ∧
      (∀ id' ∈ before, ∃ ops, planOf s disk id' = .ok ops) ∧ planOf s disk id = .error e ∧
      (run args disk).lines =
        if args.quiet then [] else (before ++ [id]).map ("Validating generator: " ++ ·) := by
  obtain ⟨hlines, hprepare⟩ := prepare_alone hvalidate halone s disk
  cases hplans :
      (planAll s disk ("Validating generator: " ++ ·) s.registry.generators.keys).result with
  | ok opss =>
    rw [hplans, ← outset_of_site hsite] at hprepare
    rw [(run_of_outset_none hprepare).1] at h
    cases h
  | error e' =>
    rw [hplans] at hprepare
    have houtset := outset_of_site hsite
    rw [hprepare] at houtset
    rw [(run_of_outset_error houtset).1] at h
    obtain rfl := Except.error.inj h
    obtain ⟨before, id, after, hkeys, hbefore, hid, hannounced⟩ := planAll_eq_error hplans
    refine ⟨before, id, after, hkeys, hbefore, hid, ?_⟩
    rw [(run_eq_runAt hsite).2.2, lines_runAt_of_error hprepare, hlines, hannounced]

end Alone

theorem planOf_eq_error {id : String} (hid : id ∈ s.registry.generators.keys) {e : Error}
    (h : planOf s disk id = .error e) : ∃ cause, e = .generator id cause ∧ cause.IsPlain := by
  obtain ⟨config, hconfig⟩ := Registry.generator_of_mem_keys hid
  unfold planOf at h
  rw [hconfig] at h
  exact Generator.plan_eq_error h

/-- Validation alone changes nothing, and succeeds exactly if every registered generator can be
    planned. Then on the same disk only the file system can make a run of a registered selection
    fail. Otherwise the error names the first generator that cannot be planned, around its cause. -/
theorem validation_predicts (hsite : site args disk = .ok s) (hvalidate : args.validateAll = true)
    (halone : args.selection? = none) :
    (run args disk).disk = disk ∧
      ((∃ report, (run args disk).result = .ok report) ↔ Plannable s disk) ∧
      ((∃ report, (run args disk).result = .ok report) →
        ∀ args', args'.working = args.working → args'.config = args.config →
          ∀ selection, args'.selection? = some selection → s.registry.Registered selection →
            (∃ validated ops, outset args' disk = .ok ⟨validated, some ops⟩) ∧
              ∀ e, (run args' disk).result = .error e → e.kind = .io) ∧
      ∀ e, (run args disk).result = .error e →
        ∃ before id after cause, s.registry.generators.keys = before ++ id :: after ∧
          (∀ id' ∈ before, ∃ ops, planOf s disk id' = .ok ops) ∧ planOf s disk id = .error e ∧
          e = .generator id cause ∧ cause.IsPlain ∧ e.kind = cause.kind ∧
          (run args disk).lines =
            if args.quiet then [] else (before ++ [id]).map ("Validating generator: " ++ ·) := by
  have hiff := run_alone_eq_ok_iff hvalidate halone hsite
  refine ⟨run_alone_disk hvalidate halone hsite, hiff, ?_, ?_⟩
  · intro hok args' hworking hconfig selection hselection hregistered
    have hsite' : site args' disk = .ok s := (site_eq_of_args hworking hconfig).trans hsite
    obtain ⟨validated, ops, houtset⟩ :=
      outset_of_plannable hsite' (hiff.1 hok) hselection hregistered
    refine ⟨⟨validated, ops, houtset⟩, ?_⟩
    intro e he
    exact (raises_of_outset houtset e he).kind
  · intro e he
    obtain ⟨before, id, after, hkeys, hbefore, hid, hlines⟩ :=
      run_alone_eq_error hvalidate halone hsite he
    have hmem : id ∈ s.registry.generators.keys := by
      rw [hkeys]
      exact List.mem_append_right before List.mem_cons_self
    obtain ⟨cause, rfl, hplain⟩ := planOf_eq_error hmem hid
    exact ⟨before, id, after, cause, hkeys, hbefore, hid, rfl, hplain, rfl, hlines⟩

end

namespace Sample

theorem keys_disk : ((Registry.find disk ⟨"/r"⟩).toOption.map fun found =>
    found.1.generators.keys) = some ["g"] := by
  decide +kernel

theorem keys_of_site {caches : String} {registry : Registry} {file : Path}
    (hsite : site (args caches) disk = .ok ⟨⟨"/r"⟩, registry, file⟩) :
    registry.generators.keys = ["g"] := by
  have hkeys := keys_disk
  have hworking : workingFolder (args caches) disk = ⟨"/r"⟩ := rfl
  unfold site at hsite
  dsimp only [args, Arguments.none] at hsite
  obtain ⟨found, hfound, hsite⟩ := bind_eq_ok.1 hsite
  cases hsite
  rw [show Registry.find disk ⟨"/r"⟩ = .ok found from hfound] at hkeys
  exact Option.some.inj hkeys

end Sample

/-- Validation of the sample succeeds, so a run of its generator gets as far as writing. -/
theorem sample_validation_predicts :
    (∃ report, (run { Arguments.none with validateAll := true } Sample.disk).result = .ok report) ∧
      ∃ validated ops, outset (Sample.args "caches") Sample.disk = .ok ⟨validated, some ops⟩ := by
  obtain ⟨registry, file, hsite, hgenerator⟩ := Sample.site_disk "caches"
  have hkeys := Sample.keys_of_site hsite
  have hsame : site { Arguments.none with validateAll := true } Sample.disk =
      site (Sample.args "caches") Sample.disk := site_eq_of_args rfl rfl
  obtain ⟨-, hiff, hpredicts, -⟩ := validation_predicts (hsame.trans hsite) rfl rfl
  have hplannable : Plannable ⟨⟨"/r"⟩, registry, file⟩ Sample.disk := by
    intro id hid
    change id ∈ registry.generators.keys at hid
    rw [hkeys, List.mem_singleton] at hid
    rw [hid]
    exact ⟨_, bind_eq_ok.2 ⟨_, hgenerator, Sample.eq_ok_of_toOption Sample.plan_disk⟩⟩
  have hok := hiff.2 hplannable
  have hregistered : registry.Registered (.generator "g") := by
    change "g" ∈ registry.generators.keys
    rw [hkeys]
    exact List.mem_cons_self
  exact ⟨hok, (hpredicts hok (Sample.args "caches") rfl rfl (.generator "g") rfl hregistered).1⟩

end Run

end CodeStencil
