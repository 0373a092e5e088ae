/-
  CodeStencil/Proofs/Run/Endings.lean
  ===================================
  **How written files end** — the line feeds at the end of a template are cut off when it is read,
  and one is added when the file is written. So the file ends in a line feed, and it is the only one
  unless what the template shows ends in one too: a value does, or a line of the template with
  nothing but empty values after it (`emitted_file_ends`).
-/
import CodeStencil.Proofs.Run.Emission
import CodeStencil.Proofs.Template.Substitution
import CodeStencil.Proofs.Text.LineFeeds
import CodeStencil.Template.Store

namespace CodeStencil

open Text

/-! ### Templates that were read -/

namespace TemplateStore

variable {s : TemplateStore} {disk : Disk} {name : String} {t : Template}

theorem not_endsInFeed_of_readText {text : String} (h : s.readText disk name = .ok text) :
    ¬EndsInFeed text := by
  unfold readText at h
  split at h
  · obtain ⟨raw, -, rfl⟩ := map_eq_ok.1 h
    intro hfeed
    rw [EndsInFeed, withoutFeeds, String.toList_ofList] at hfeed
    simpa using getLast?_dropEndWhile hfeed
  · cases h

theorem readText_of_read (h : s.read disk name = .ok t) :
    s.readText disk name = .ok (Template.written t.segments) ∧ Template.Tidy t.segments := by
  obtain ⟨text, htext, hparse⟩ := bind_eq_ok.1 h
  obtain ⟨-, hsegments⟩ := Template.parse_eq_ok.1 hparse
  obtain ⟨htidy, rfl⟩ := Template.readSegments_eq_ok.1 hsegments
  exact ⟨htext, htidy⟩

/-- A literal at the end of a template does not end in a line feed. -/
theorem not_endsInFeed_of_read (h : s.read disk name = .ok t) {front : List Template.Segment}
    {text : List Char} (hsegments : t.segments = front ++ [.literal text]) :
    ¬EndsInFeed (String.ofList text) := by
  intro hfeed
  rw [EndsInFeed, String.toList_ofList, List.getLast?_eq_some_iff] at hfeed
  obtain ⟨line, rfl⟩ := hfeed
  apply not_endsInFeed_of_readText (readText_of_read h).1
  simp [hsegments, EndsInFeed, Template.written, Template.spellAll, Template.Segment.spell,
    Template.spellChar]

end TemplateStore

/-! ### What templates show at their end -/

namespace Template

variable {t : Template} {d : Dictionary} {text : String}

/-- Some segment shows a text that ends in a line feed, and all behind it are placeholders that show
    nothing. If it is a literal then there are such placeholders. -/
def ShowsFeedAtEnd (t : Template) (d : Dictionary) : Prop :=
  ∃ before s after, t.segments = before ++ s :: after ∧ EndsInFeed (s.shown d) ∧
    (∀ s' ∈ after, ¬s'.IsLiteral ∧ s'.shown d = "") ∧ (s.IsLiteral → after ≠ [])

theorem not_isLiteral_of_shown {s : Segment} (hs : s.Valid) (h : s.shown d = "") :
    ¬s.IsLiteral := by
  cases s with
  | literal text => exact absurd (String.ofList_eq_empty_iff.1 h) hs
  | placeholder name => exact id

theorem endsInFeed_render_iff {store : TemplateStore} {disk : Disk} {name : String}
    (hread : store.read disk name = .ok t) (h : t.render d = .ok text) :
    EndsInFeed text ↔ t.ShowsFeedAtEnd d := by
  rw [eq_of_render h, endsInFeed_join]
  constructor
  · rintro ⟨before, shown, after, hsegments, hfeed, hafter⟩
    obtain ⟨front, rest, hfront, rfl, hrest⟩ := List.map_eq_append_iff.1 hsegments
    obtain ⟨s, back, rfl, rfl, rfl⟩ := List.map_eq_cons_iff.1 hrest
    refine ⟨front, s, back, hfront, hfeed, ?_, ?_⟩
    · intro s' hs'
      have hempty := hafter _ (List.mem_map_of_mem hs')
      have hmem : s' ∈ t.segments := by
        rw [hfront]
        simp [hs']
      have htidy := (TemplateStore.readText_of_read hread).2
      exact ⟨not_isLiteral_of_shown (htidy.valid s' hmem) hempty, hempty⟩
    -- nothing comes after the segment, so a literal would end the text of the template
    · rintro hliteral rfl
      cases s with
      | literal text => exact TemplateStore.not_endsInFeed_of_read hread hfront hfeed
      | placeholder name => exact hliteral
  · rintro ⟨before, s, after, hsegments, hfeed, hafter, -⟩
    refine ⟨before.map (Segment.shown d), s.shown d, after.map (Segment.shown d), ?_, hfeed, ?_⟩
    · rw [hsegments]
      simp
    · intro shown hshown
      obtain ⟨s', hs', rfl⟩ := List.mem_map.1 hshown
      exact (hafter s' hs').2

end Template

/-! ### Files -/

namespace Operation

theorem Done.read_eq {op : Operation} {d : Disk} (h : op.Done d) :
    d.read op.target = .ok op.bytes := by
  unfold Disk.read
  rw [h.leads, Option.bind_some, h.holds]

/-- What is left at the target ends in a line feed. There are two exactly if what the template shows
    ends in one. -/
theorem emitted_file_ends {s : TemplateStore} {disk : Disk} {name : String} {t : Template}
    {d : Dictionary} {op : Operation} {before after : Disk} {outcome : Outcome}
    (hread : s.read disk name = .ok t) (hrender : t.render d = .ok op.content)
    (hemit : (op.emit false).run.run before = (.ok outcome, after)) :
    ∃ bytes, after.read op.target = .ok bytes ∧ [10] <:+ bytes.data.toList ∧
      ([10, 10] <:+ bytes.data.toList ↔ t.ShowsFeedAtEnd d) := by
  have hemitted := op.emitted before
  rw [hemit] at hemitted
  refine ⟨op.bytes, hemitted.done.read_eq, ?_, ?_⟩
  · change [10] <:+ bytesOf (op.content ++ "\n")
    rw [bytesOf_append_feed]
    exact List.suffix_append _ _
  · change [10, 10] <:+ bytesOf (op.content ++ "\n") ↔ _
    rw [two_feeds_iff]
    exact Template.endsInFeed_render_iff hread hrender

namespace Sample

/-- The folder of a template for a struct with a description below it. -/
def disk : Disk where
  files := [(["t", "struct.template"], "struct \x7bname\x7d;\n\x7bdescription\x7d\n\n".toUTF8)]
  folders := [["t"], ["out"]]
  current := []

def struct : Template :=
  ⟨"struct", [.literal "struct ".toList, .placeholder "name", .literal ";\n".toList,
    .placeholder "description"]⟩

def health (description : String) : Dictionary :=
  .ofList [("name", .text "Health"), ("description", .text description)]

/-- The struct in its file, with a description. -/
def file (description : String) : Operation :=
  ⟨"struct", ⟨"/out/Health.h"⟩, "struct Health;\n" ++ description⟩

def written (description : String) : Disk := (((file description).emit false).run.run disk).2

end Sample

open Sample

/-- If the description is empty then the line before it is followed by an empty line. -/
theorem struct_file_ends :
    (∃ bytes, (written "Hit points").read ⟨"/out/Health.h"⟩ = .ok bytes ∧
      [10] <:+ bytes.data.toList ∧ ¬[10, 10] <:+ bytes.data.toList) ∧
    ∃ bytes, (written "").read ⟨"/out/Health.h"⟩ = .ok bytes ∧ [10, 10] <:+ bytes.data.toList := by
  have hread : (TemplateStore.ofFolder ⟨"/t"⟩).read disk "struct" = .ok struct :=
    eq_ok_of_toOption (by decide +kernel)
  have hends : ∀ description,
      (struct.render (health description)).toOption = some (file description).content →
      (((file description).emit false).run.run disk).1.toOption = some .written →
      ∃ bytes, (written description).read ⟨"/out/Health.h"⟩ = .ok bytes ∧
        [10] <:+ bytes.data.toList ∧
        ([10, 10] <:+ bytes.data.toList ↔ EndsInFeed (file description).content) := by
    intro description hrender hemit
    have hrender := eq_ok_of_toOption hrender
    have hemit := eq_ok_of_toOption hemit
    rw [Template.endsInFeed_render_iff hread hrender]
    exact emitted_file_ends hread hrender (Prod.ext hemit rfl)
  obtain ⟨bytes, hbytes, hone, htwo⟩ := hends "Hit points" (by decide +kernel) (by decide +kernel)
  obtain ⟨bytes', hbytes', -, htwo'⟩ := hends "" (by decide +kernel) (by decide +kernel)
  refine ⟨⟨bytes, hbytes, hone, ?_⟩, bytes', hbytes', ?_⟩
  · rw [htwo]
    decide +kernel
  · rw [htwo']
    decide +kernel

end Operation

end CodeStencil
