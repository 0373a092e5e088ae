/-
  CodeStencil/Proofs/Aggregates/Lines.lean
  ========================================
  **Lines of aggregates** — what the switches make of lines is settled by the lines alone
  (`Processed.eq`), and to do it again changes nothing. If repetitions are dropped and lines are sorted
  then it matters only which lines there are, so an aggregate of items on lines of their own does not
  tell in which order they came, or how often (`aggregate_lines`).
-/
import CodeStencil.Proofs.Aggregates.Joining
import CodeStencil.Proofs.Lists.Distinct
import CodeStencil.Proofs.Text.ByteOrder
import CodeStencil.Proofs.Text.Splitting
import Mathlib.Data.List.Sort

namespace CodeStencil

open Aggregate Template Text

namespace AggregateTemplate

variable {t : AggregateTemplate} {lines out : List String} {content : String}

/-! ### Processed lines -/

/-- The lines `out` are what the switches ask for: all lines; each line once, where it came first; a
    sorted arrangement of the lines; or each line once, in strictly increasing order. -/
def Processed (t : AggregateTemplate) (lines out : List String) : Prop :=
  match t.hasParam .removeDuplicates, t.hasParam .sort with
  | false, false => out = lines
  | true, false =>
    (∀ line, line ∈ out ↔ line ∈ lines) ∧ out.Pairwise fun a b => lines.idxOf a < lines.idxOf b
  | false, true => out.Perm lines ∧ out.Pairwise fun a b => bytesOf a ≤ bytesOf b
  | true, true => (∀ line, line ∈ out ↔ line ∈ lines) ∧ out.Pairwise fun a b => bytesOf a < bytesOf b

theorem pairwise_mergeSort_bytes (lines : List String) :
    (lines.mergeSort (· ≤ ·)).Pairwise fun a b => bytesOf a ≤ bytesOf b := by
  refine (List.pairwise_mergeSort' (· ≤ ·) lines).imp fun {a b} hle => ?_
  exact bytesOf_le_iff.2 hle

theorem processed_processLines (t : AggregateTemplate) (lines : List String) :
    t.Processed lines (t.processLines lines) := by
  unfold Processed processLines
  cases t.hasParam .removeDuplicates with
  | false =>
    cases t.hasParam .sort with
    | false => rfl
    | true => exact ⟨List.mergeSort_perm lines _, pairwise_mergeSort_bytes lines⟩
  | true =>
    cases t.hasParam .sort with
    | false => exact ⟨fun line => List.mem_eraseDups, pairwise_idxOf_eraseDups lines⟩
    | true =>
      refine ⟨fun line => List.mem_mergeSort.trans List.mem_eraseDups, ?_⟩
      have hnodup : (lines.eraseDups.mergeSort (· ≤ ·)).Nodup :=
        (List.mergeSort_perm _ _).nodup_iff.2 (nodup_eraseDups lines)
      refine (pairwise_mergeSort_bytes _).imp₂ (fun a b hle hne => ?_) hnodup
      exact bytesOf_lt_iff.2 (lt_of_le_of_ne (bytesOf_le_iff.1 hle) hne)

/-- The switches leave no choice. -/
theorem Processed.eq (h : t.Processed lines out) {out' : List String}
    (h' : t.Processed lines out') : out = out' := by
  unfold Processed at h h'
  cases hdrop : t.hasParam .removeDuplicates with
  | false =>
    cases hsort : t.hasParam .sort with
    | false =>
      rw [hdrop, hsort] at h h'
      exact h.trans h'.symm
    | true =>
      rw [hdrop, hsort] at h h'
      refine (h.1.trans h'.1.symm).eq_of_pairwise (fun a b _ _ hab hba => ?_) h.2 h'.2
      exact le_antisymm (bytesOf_le_iff.1 hab) (bytesOf_le_iff.1 hba)
  | true =>
    cases hsort : t.hasParam .sort with
    | false =>
      rw [hdrop, hsort] at h h'
      have hasymm : Std.Asymm fun a b => lines.idxOf a < lines.idxOf b :=
        ⟨fun _ _ => Nat.lt_asymm⟩
      exact h.2.eq_of_mem_iff h'.2 fun line => (h.1 line).trans (h'.1 line).symm
    | true =>
      rw [hdrop, hsort] at h h'
      have hasymm : Std.Asymm fun a b => bytesOf a < bytesOf b := ⟨fun _ _ => List.lt_asymm⟩
      exact h.2.eq_of_mem_iff h'.2 fun line => (h.1 line).trans (h'.1 line).symm

/-- Processed lines are as the switches ask already. -/
theorem Processed.again (h : t.Processed lines out) : t.Processed out out := by
  unfold Processed at h ⊢
  cases hdrop : t.hasParam .removeDuplicates with
  | false =>
    cases hsort : t.hasParam .sort with
    | false => rfl
    | true =>
      rw [hdrop, hsort] at h
      exact ⟨.refl out, h.2⟩
  | true =>
    cases hsort : t.hasParam .sort with
    | false =>
      rw [hdrop, hsort] at h
      have hirrefl : Std.Irrefl fun a b => lines.idxOf a < lines.idxOf b :=
        ⟨fun a => Nat.lt_irrefl _⟩
      exact ⟨fun line => Iff.rfl, pairwise_idxOf_of_nodup h.2.nodup⟩
    | true =>
      rw [hdrop, hsort] at h
      exact ⟨fun line => Iff.rfl, h.2⟩

theorem processLines_processLines (t : AggregateTemplate) (lines : List String) :
    t.processLines (t.processLines lines) = t.processLines lines :=
  (processed_processLines t _).eq (processed_processLines t lines).again

theorem mem_processLines {line : String} : line ∈ t.processLines lines ↔ line ∈ lines := by
  unfold processLines
  cases t.hasParam .removeDuplicates <;> cases t.hasParam .sort <;> simp

theorem processLines_ne_nil (h : lines ≠ []) : t.processLines lines ≠ [] := by
  obtain ⟨line, hline⟩ := List.exists_mem_of_ne_nil lines h
  exact List.ne_nil_of_mem (mem_processLines.2 hline)

/-! ### Processed texts -/

theorem postProcess_eq (t : AggregateTemplate) (content : String) :
    t.postProcess content = "\n".intercalate (t.processLines (pieces content)) := by
  unfold postProcess
  split
  · rfl
  · next hnone =>
    rw [Bool.or_eq_true, not_or, Bool.not_eq_true, Bool.not_eq_true] at hnone
    have hsame : t.processLines (pieces content) = pieces content := by
      simp [processLines, hnone.1, hnone.2]
    rw [hsame, intercalate_pieces]

theorem pieces_postProcess : pieces (t.postProcess content) = t.processLines (pieces content) := by
  rw [postProcess_eq]
  refine pieces_intercalate_lines (processLines_ne_nil (pieces_ne_nil content)) ?_
  intro line hline
  exact not_mem_of_mem_pieces (mem_processLines.1 hline)

theorem postProcess_postProcess (t : AggregateTemplate) (content : String) :
    t.postProcess (t.postProcess content) = t.postProcess content := by
  rw [postProcess_eq, pieces_postProcess, processLines_processLines, ← postProcess_eq]

end AggregateTemplate

/-! ### Items on lines of their own -/

namespace Aggregate

variable {template : Template} {body : List Segment} {t : AggregateTemplate}
  {delimiters : Delimiters} {items items' : List Item} {text text' : String}

/-- The line stands in the rendered body of an item that takes part. -/
def HasLine (body : Template) (t : AggregateTemplate) (items : List Item) (line : String) : Prop :=
  ∃ item ∈ items, t.takes item = true ∧
    ∃ text, body.render item.dictionary = .ok text ∧ line ∈ pieces text

theorem hasLine_congr {body : Template} (h : ∀ item, item ∈ items ↔ item ∈ items')
    (line : String) : HasLine body t items line ↔ HasLine body t items' line := by
  unfold HasLine
  simp only [h]

/-- Without repetitions and sorted, the lines of an aggregate increase strictly. -/
theorem pairwise_pieces_aggregate (hdrop : t.hasParam .removeDuplicates = true)
    (hsort : t.hasParam .sort = true) (htext : aggregate template t delimiters items = .ok text) :
    (pieces text).Pairwise fun a b => bytesOf a < bytesOf b := by
  obtain ⟨-, content, -, rfl⟩ := aggregate_eq_ok.1 htext
  have hprocessed := t.processed_processLines (pieces content)
  unfold AggregateTemplate.Processed at hprocessed
  rw [hdrop, hsort] at hprocessed
  rw [AggregateTemplate.pieces_postProcess]
  exact hprocessed.2

section SameLines

variable (h : Delimited template delimiters body [.placeholder "newline"])
  (hfeed : delimiters.get? "newline" = some "\n")
include h hfeed

/-- Line feeds between the items keep the lines of all of them. Without items one empty line is
    left. -/
theorem mem_pieces_aggregate_iff (htext : aggregate template t delimiters items = .ok text)
    {line : String} : line ∈ pieces text ↔ HasLine ⟨template.name, body⟩ t items line ∨
      (items.filter t.takes = [] ∧ line = "") := by
  obtain ⟨-, bodies, hbodies, rfl⟩ := (aggregate_eq_ok_of_delimited h).1 htext
  have hseparator : delimiters.textOf [.placeholder "newline"] = "\n" := by
    simp [Delimiters.textOf, Segment.name?, hfeed]
  have hlines : HasLine ⟨template.name, body⟩ t items line ↔ ∃ b ∈ bodies, line ∈ pieces b := by
    unfold HasLine
    simp only [mem_mapM_iff (mapM_eq_ok.2 hbodies), List.mem_filter]
    constructor
    · rintro ⟨item, hitem, htakes, b, hb, hline⟩
      exact ⟨b, ⟨item, ⟨hitem, htakes⟩, hb⟩, hline⟩
    · rintro ⟨b, ⟨item, ⟨hitem, htakes⟩, hb⟩, hline⟩
      exact ⟨item, hitem, htakes, b, hb, hline⟩
  rw [hseparator, AggregateTemplate.pieces_postProcess, AggregateTemplate.mem_processLines, hlines]
  by_cases hnone : bodies = []
  · subst hnone
    have hempty : pieces "" = [""] := by decide +kernel
    have hfilter : items.filter t.takes = [] := List.forall₂_nil_right_iff.1 hbodies
    rw [hfilter, String.intercalate_nil, hempty, List.mem_singleton]
    simp
  · have hsome : items.filter t.takes ≠ [] := by
      intro hfilter
      rw [hfilter] at hbodies
      exact hnone (List.forall₂_nil_left_iff.1 hbodies)
    rw [pieces_intercalate hnone, List.mem_flatMap]
    exact ⟨Or.inl, fun hor => hor.resolve_right fun hempty => hsome hempty.1⟩

theorem pieces_subset_of_same_lines
    (htext : aggregate template t delimiters items = .ok text)
    (htext' : aggregate template t delimiters items' = .ok text')
    (hsame : ∀ line, HasLine ⟨template.name, body⟩ t items line ↔
      HasLine ⟨template.name, body⟩ t items' line) : pieces text ⊆ pieces text' := by
  intro line hline
  rcases (mem_pieces_aggregate_iff h hfeed htext).1 hline with hline | ⟨hnone, rfl⟩
  · exact (mem_pieces_aggregate_iff h hfeed htext').2 (Or.inl ((hsame line).1 hline))
  · -- no item of the first list takes part, so none of the second one can have a line
    obtain ⟨other, hother⟩ := List.exists_mem_of_ne_nil _ (pieces_ne_nil text')
    rcases (mem_pieces_aggregate_iff h hfeed htext').1 hother with hlines | ⟨hnone', rfl⟩
    · obtain ⟨item, hitem, htakes, -⟩ := (hsame other).2 hlines
      exact absurd htakes (List.filter_eq_nil_iff.1 hnone item hitem)
    · exact hother

variable (hdrop : t.hasParam .removeDuplicates = true) (hsort : t.hasParam .sort = true)
include hdrop hsort

theorem aggregate_eq_of_same_lines
    (htext : aggregate template t delimiters items = .ok text)
    (htext' : aggregate template t delimiters items' = .ok text')
    (hsame : ∀ line, HasLine ⟨template.name, body⟩ t items line ↔
      HasLine ⟨template.name, body⟩ t items' line) : text = text' := by
  have hincreasing := pairwise_pieces_aggregate hdrop hsort htext
  have hincreasing' := pairwise_pieces_aggregate hdrop hsort htext'
  have hasymm : Std.Asymm fun a b => bytesOf a < bytesOf b := ⟨fun _ _ => List.lt_asymm⟩
  have hlines : pieces text = pieces text' := by
    refine hincreasing.eq_of_mem_iff hincreasing' fun line => ⟨fun hline => ?_, fun hline => ?_⟩
    · exact pieces_subset_of_same_lines h hfeed htext htext' hsame hline
    · exact pieces_subset_of_same_lines h hfeed htext' htext (fun line => (hsame line).symm) hline
  rw [← intercalate_pieces text, hlines, intercalate_pieces]

/-- What takes part, and whether there is a text at all, does not depend on the order of the items or
    on how often they come. -/
theorem toOption_aggregate_of_same_items
    (hsame : ∀ item, item ∈ items ↔ item ∈ items') :
    (aggregate template t delimiters items).toOption =
      (aggregate template t delimiters items').toOption := by
  have hexists : (∃ text, aggregate template t delimiters items = .ok text) ↔
      ∃ text, aggregate template t delimiters items' = .ok text := by
    rw [exists_aggregate_iff, exists_aggregate_iff]
    simp only [hsame]
  cases htext : aggregate template t delimiters items with
  | error e =>
    cases htext' : aggregate template t delimiters items' with
    | error e' => rfl
    | ok text' =>
      obtain ⟨text, hok⟩ := hexists.2 ⟨text', htext'⟩
      rw [htext] at hok
      cases hok
  | ok text =>
    obtain ⟨text', htext'⟩ := hexists.1 ⟨text, htext⟩
    rw [htext', aggregate_eq_of_same_lines h hfeed hdrop hsort htext htext' (hasLine_congr hsame)]

end SameLines

end Aggregate

/-! ### A sorted list of names -/

namespace Aggregate.Sample

def ownLine : Template := ⟨"line", [.placeholder "name", .placeholder "newline"]⟩

/-- Different lines in increasing order, for items that are not hidden. -/
def tidy : AggregateTemplate := ⟨"line", [.removeDuplicates, .sort], ⟨none, some ["hidden"]⟩, none⟩

def feeds : Delimiters := .ofList [("newline", "\n")]

theorem delimited_ownLine : Delimited ownLine feeds [.placeholder "name"]
    [.placeholder "newline"] where
  segments := rfl
  notInBody := by
    intro name hname
    obtain rfl : name = "name" := by simpa using hname
    decide
  inTail := by
    intro s hs
    exact ⟨"newline", by simpa using hs, by decide⟩

/-- The first of three items has two lines, and the last one does not take part. -/
def named : List Item :=
  [item "e" [] [("name", "b\na")], item "e" [] [("name", "a")],
    item "e" ["hidden"] [("name", "c")]]

theorem aggregate_named : aggregate ownLine tidy feeds named = .ok "a\nb" := by
  refine (aggregate_eq_ok_of_delimited delimited_ownLine).2
    ⟨fun _ _ => nofun, ["b\na", "a"], ?_, ?_⟩
  · exact .cons (eq_ok_of_toOption (by decide +kernel))
      (.cons (eq_ok_of_toOption (by decide +kernel)) .nil)
  · have hprocessed : tidy.Processed ["b", "a", "a"] ["a", "b"] := by
      refine ⟨fun line => ?_, by decide +kernel⟩
      simp only [List.mem_cons, List.not_mem_nil, or_false]
      grind
    have hpieces : pieces ((feeds.textOf [.placeholder "newline"]).intercalate ["b\na", "a"]) =
        ["b", "a", "a"] := by decide +kernel
    rw [AggregateTemplate.postProcess_eq, hpieces,
      (tidy.processed_processLines ["b", "a", "a"]).eq hprocessed]
    decide +kernel

end Aggregate.Sample

/-- What the switches make of the lines of a text, and that to do it once more changes nothing. An
    aggregate of items on lines of their own, without repetitions and sorted, has strictly increasing
    lines: those of the rendered bodies of the items that take part. Which lines these are settles the
    text, and the items may as well come in another order, or more than once. -/
theorem aggregate_lines (t : AggregateTemplate) :
    (∀ content, t.postProcess (t.postProcess content) = t.postProcess content ∧
      t.Processed (pieces content) (pieces (t.postProcess content))) ∧
    ∀ template delimiters body, Delimited template delimiters body [.placeholder "newline"] →
      delimiters.get? "newline" = some "\n" →
      t.hasParam .removeDuplicates = true → t.hasParam .sort = true →
      (∀ items text, aggregate template t delimiters items = .ok text →
        (pieces text).Pairwise (fun a b => bytesOf a < bytesOf b) ∧
        ∀ line, line ∈ pieces text ↔ HasLine ⟨template.name, body⟩ t items line ∨
          (items.filter t.takes = [] ∧ line = "")) ∧
      (∀ items items' text text', aggregate template t delimiters items = .ok text →
        aggregate template t delimiters items' = .ok text' →
        (∀ line, HasLine ⟨template.name, body⟩ t items line ↔
          HasLine ⟨template.name, body⟩ t items' line) → text = text') ∧
      ∀ items items' : List Item, (∀ item, item ∈ items ↔ item ∈ items') →
        (aggregate template t delimiters items).toOption =
          (aggregate template t delimiters items').toOption := by
  constructor
  · intro content
    refine ⟨t.postProcess_postProcess content, ?_⟩
    rw [AggregateTemplate.pieces_postProcess]
    exact t.processed_processLines (pieces content)
  · intro template delimiters body h hfeed hdrop hsort
    refine ⟨?_, ?_, ?_⟩
    · intro items text htext
      exact ⟨pairwise_pieces_aggregate hdrop hsort htext,
        fun line => mem_pieces_aggregate_iff h hfeed htext⟩
    · intro items items' text text' htext htext' hsame
      exact aggregate_eq_of_same_lines h hfeed hdrop hsort htext htext' hsame
    · intro items items' hsame
      exact toOption_aggregate_of_same_items h hfeed hdrop hsort hsame

open Aggregate.Sample

/-- Two names in three lines, two of which are the same. The items in another order and more than
    once have the same aggregate, and so has one item with both names. -/
theorem aggregate_lines_sample :
    (pieces "a\nb").Pairwise (fun a b => bytesOf a < bytesOf b) ∧
      (aggregate ownLine tidy feeds (named.reverse ++ named)).toOption = some "a\nb" ∧
      ∀ text, aggregate ownLine tidy feeds [item "f" [] [("name", "a\nb")]] = .ok text →
        text = "a\nb" := by
  obtain ⟨-, hlines⟩ := aggregate_lines tidy
  obtain ⟨hincreasing, hsettled, hitems⟩ := hlines ownLine feeds _ delimited_ownLine rfl rfl rfl
  refine ⟨(hincreasing named _ aggregate_named).1, ?_, ?_⟩
  · rw [← hitems named (named.reverse ++ named) (by simp), aggregate_named]
    rfl
  · intro text htext
    have hpieces : pieces "a\nb" = ["a", "b"] := by decide +kernel
    have hrender : (Template.mk "line" [.placeholder "name"]).render
        (item "f" [] [("name", "a\nb")]).dictionary = .ok "a\nb" :=
      eq_ok_of_toOption (by decide +kernel)
    refine hsettled _ named text _ htext aggregate_named fun line => ?_
    have hnamed := (hincreasing named _ aggregate_named).2 line
    have hsome : named.filter tidy.takes ≠ [] := by decide +kernel
    constructor
    · rintro ⟨x, hx, -, b, hb, hline⟩
      obtain rfl := List.mem_singleton.1 hx
      obtain rfl : "a\nb" = b := Except.ok.inj (hrender.symm.trans hb)
      exact (hnamed.1 hline).resolve_right fun hnone => hsome hnone.1
    · intro hline
      exact ⟨_, List.mem_singleton_self _, rfl, "a\nb", hrender, hnamed.2 (Or.inl hline)⟩

end CodeStencil
