/-
  CodeStencil/Proofs/Planning/Placement.lean
  ==========================================
  **Where rendered names lead** — a planned file goes where the name that is rendered for it leads
  from the folder of its entry. So it lies inside of that folder if the name descends, and right in
  it if no value that the name takes in has a slash (`targets_follow_names`). Other names may lead
  out of the folder.
-/
import CodeStencil.Proofs.Files.Confinement
import CodeStencil.Proofs.Planning.Targets
import CodeStencil.Proofs.Template.Substitution

namespace CodeStencil

open Location (Inside)

/-- All folders of the output plan are inside of the output folder, and no name template leads
    anywhere else by its own text. -/
structure Bundle.Inward (b : Bundle) : Prop where
  relative : ∀ f ∈ b.files, (⟨f.folder⟩ : Path).isAbsolute = false
  level : ∀ f ∈ b.files, (⟨f.folder⟩ : Path).Level
  flat : ∀ f ∈ b.files, '/' ∉ f.nameTemplate.toList

namespace Plan.Context

variable {c : Context} {es : List Entity} {ops : List Operation} {op : Operation} {f : OutputFile}
  {d : Dictionary}

/-- A name that takes in no value with a slash has none if its template has none. -/
theorem slash_not_mem {name : String} (h : Template.renderText f.nameTemplate d = .ok name)
    (hflat : '/' ∉ f.nameTemplate.toList)
    (hvalues : ∀ b, Template.TakesIn f.nameTemplate d b → '/' ∉ b.display.toList) :
    '/' ∉ name.toList := by
  intro hmem
  rcases Template.mem_of_renderText h hmem with htext | ⟨b, hb, hshown⟩
  · exact hflat htext
  · exact hvalues b hb hshown

/-- A planned file goes where its rendered name leads from the folder of its entry, which is inside
    of the output folder. It lies strictly inside of that folder if the name descends. If no value
    that the name takes in has a slash, it lies right in the folder under its name, unless that is
    made of one dot or two. -/
theorem targets_follow_names (hinward : c.bundle.Inward) (h : c.plan es = .ok ops)
    (hop : op ∈ ops) :
    ∃ f d name, f ∈ c.bundle.files ∧ c.Job es f d ∧
      Template.renderText f.nameTemplate d = .ok name ∧ name ≠ "" ∧
      op.target = (c.output / f.folder) / name ∧
      ∀ disk : Disk, disk.resolve c.output <+: disk.resolve (c.output / f.folder) ∧
        ((⟨name⟩ : Path).descends = true →
          Inside (disk.resolve (c.output / f.folder)) (disk.resolve op.target)) ∧
        ((∀ b, Template.TakesIn f.nameTemplate d b → '/' ∉ b.display.toList) → name ≠ "." →
          name ≠ ".." → disk.resolve op.target = disk.resolve (c.output / f.folder) ++ [name]) := by
  obtain ⟨f, d, hjob, hrender⟩ := exists_job h hop
  obtain ⟨name, hname, hne, htarget⟩ := renderFile_eq_ok hrender
  have hf := hjob.mem_files
  refine ⟨f, d, name, hf, hjob, hname, hne, htarget, ?_⟩
  intro disk
  have hfolder : disk.resolve (c.output / f.folder) =
      (⟨f.folder⟩ : Path).lead (disk.resolve c.output) := disk.resolve_join c.output ⟨f.folder⟩
  have hlead : disk.resolve op.target =
      (⟨name⟩ : Path).lead (disk.resolve (c.output / f.folder)) := by
    rw [htarget]
    exact disk.resolve_join (c.output / f.folder) ⟨name⟩
  refine ⟨?_, ?_, ?_⟩
  · rw [hfolder]
    exact Path.prefix_lead (hinward.relative f hf) (hinward.level f hf) _
  · intro hdescends
    rw [hlead]
    exact Path.descends_iff.1 hdescends _
  · intro hvalues hdot hdots
    rw [hlead]
    exact Path.lead_name (slash_not_mem hname (hinward.flat f hf) hvalues) hne hdot hdots _

namespace Sample

def headerFile : OutputFile := ⟨"whole", "gen", "\x7bname\x7d.h", [], .none⟩

def headers : Context := context [headerFile]

theorem inward_headers : headers.bundle.Inward := by
  constructor <;> decide

theorem dictionary_of_job {f : OutputFile} {d : Dictionary} (h : headers.Job [apple] f d) :
    d = apple.dictionary := by
  cases h with
  | own he hd hjob =>
    obtain rfl := List.mem_singleton.1 he
    obtain rfl := Except.ok.inj hd
    have honly : headers.entityJobs apple apple.dictionary =
        [(headerFile, apple.dictionary)] := by decide +kernel
    rw [honly, List.mem_singleton] at hjob
    exact congrArg Prod.snd hjob
  | list hds hd hf => cases hf
  | attributeList hds hd hf => cases hf

/-- An entity whose name leads two folders up. -/
def stray : Entity := entity "../../stray" [] []

end Sample

open Sample

theorem plan_header : ∃ ops, headers.plan [apple] = .ok ops ∧
    ops.map (·.target.text) = ["/out/gen/apple.h"] ∧ ∀ op ∈ ops, ∀ disk : Disk,
      Inside (disk.resolve (headers.output / headerFile.folder)) (disk.resolve op.target) := by
  obtain ⟨ops, hops⟩ := exists_of_isSome (x := headers.plan [apple]) (by decide +kernel)
  have htargets : (headers.plan [apple]).toOption.map (·.map (·.target.text)) =
      some ["/out/gen/apple.h"] := by decide +kernel
  rw [hops] at htargets
  refine ⟨ops, hops, Option.some.inj htargets, ?_⟩
  intro op hop disk
  obtain ⟨f, d, name, hf, hjob, hname, -, -, hplace⟩ :=
    targets_follow_names inward_headers hops hop
  obtain rfl := List.mem_singleton.1 hf
  obtain rfl := dictionary_of_job hjob
  have happle : Template.renderText headerFile.nameTemplate apple.dictionary = .ok "apple.h" :=
    eq_ok_of_toOption (by decide +kernel)
  obtain rfl : "apple.h" = name := Except.ok.inj (happle.symm.trans hname)
  obtain ⟨-, hinside, -⟩ := hplace disk
  exact hinside (by decide)

/-- A name that is taken from an entity may lead out of the folder. -/
theorem plan_stray : headers.bundle.Inward ∧
    (∀ f ∈ headers.bundle.files, ¬['.', '.'] <:+: f.nameTemplate.toList) ∧
    ∃ op, headers.plan [stray] = .ok [op] ∧ ∀ disk : Disk,
      ¬Inside (disk.resolve (headers.output / headerFile.folder)) (disk.resolve op.target) := by
  have hplan : headers.plan [stray] =
      .ok [⟨"whole", ⟨"/out/gen/../../stray.h"⟩, "../../stray"⟩] :=
    eq_ok_of_toOption (by decide +kernel)
  refine ⟨inward_headers, by decide +kernel, _, hplan, ?_⟩
  intro disk
  have hfolder : disk.resolve (headers.output / headerFile.folder) = ["out", "gen"] := by
    have hcomponents : (headers.output / headerFile.folder).components =
        [.root, .name "out", .name "gen"] := by decide +kernel
    rw [Disk.resolve, hcomponents]
    rfl
  have htarget : disk.resolve ⟨"/out/gen/../../stray.h"⟩ = ["stray.h"] := by
    have hcomponents : (⟨"/out/gen/../../stray.h"⟩ : Path).components =
        [.root, .name "out", .name "gen", .above, .above, .name "stray.h"] := by decide +kernel
    rw [Disk.resolve, hcomponents]
    rfl
  dsimp only
  rw [hfolder, htarget]
  rintro ⟨hbegin, -⟩
  revert hbegin
  decide

end Plan.Context

end CodeStencil
