/-
  CodeStencil/Proofs/Template/Substitution.lean
  =============================================
  **Texts are rendered token by token** — that characters are kept together in literals does not show
  (`render_segmentsOf`). So a text that is made of two templates is rendered as one and then the
  other, and what is put in for a placeholder is never looked at again (`render_compositional`). If
  something is missing, it is the first of the placeholders that is not bound (`render_eq`).
-/
import CodeStencil.Proofs.Lists.Distinct
import CodeStencil.Proofs.Template.Parsing
import CodeStencil.Proofs.Template.Rendering

namespace CodeStencil.Template

variable {t : Template} {d : Dictionary} {name : String}

/-! ### What tokens show -/

namespace Token

/-- A token as a segment of its own. -/
def segment : Token → Segment
  | .char c => .literal [c]
  | .openBrace => .literal ['\x7b']
  | .closeBrace => .literal ['\x7d']
  | .placeholder name => .placeholder (String.ofList name)

/-- A character shows itself, a doubled brace a single one, and a placeholder what it is bound to. -/
def shown (d : Dictionary) : Token → String
  | .char c => String.ofList [c]
  | .openBrace => "\x7b"
  | .closeBrace => "\x7d"
  | .placeholder name => ((d.get? (String.ofList name)).map Binding.display).getD ""

end Token

/-- The text of a segment; none for a placeholder that is not bound. -/
def Segment.shown (d : Dictionary) : Segment → String
  | .literal text => String.ofList text
  | .placeholder name => ((d.get? name).map Binding.display).getD ""

theorem shown_map_segment (d : Dictionary) (ts : List Token) :
    (ts.map Token.segment).map (Segment.shown d) = ts.map (Token.shown d) := by
  rw [List.map_map]
  refine List.map_congr_left fun k _ => ?_
  cases k <;> rfl

/-! ### Segments one after the other -/

@[simp] theorem render_nil (name : String) (d : Dictionary) :
    (Template.mk name []).render d = .ok "" := rfl

theorem render_cons (name : String) (s : Segment) (segments : List Segment) (d : Dictionary) :
    (Template.mk name (s :: segments)).render d = do
      let text ← s.render name d
      let more ← (Template.mk name segments).render d
      return text ++ more := by
  have hfirst : (Template.mk name [s]).render d = s.render name d := by
    simp only [render, List.mapM_cons, List.mapM_nil]
    cases s.render name d with
    | error e => rfl
    | ok text => exact congrArg Except.ok (by simp)
  rw [← List.singleton_append, render_append, hfirst]

/-- A character is rendered alike in front of a literal and in it. -/
theorem render_consChar (name : String) (c : Char) (segments : List Segment) (d : Dictionary) :
    (Template.mk name (consChar c segments)).render d =
      (Template.mk name (.literal [c] :: segments)).render d := by
  cases segments with
  | nil => rfl
  | cons s rest =>
    cases s with
    | placeholder name => rfl
    | literal text =>
      have htext : String.ofList (c :: text) = String.ofList [c] ++ String.ofList text := by
        rw [← String.ofList_append, List.singleton_append]
      simp only [consChar, render_cons, Segment.render, htext]
      cases (Template.mk name rest).render d with
      | error e => rfl
      | ok more => exact congrArg Except.ok String.append_assoc

theorem render_segmentsOf (name : String) (ts : List Token) (d : Dictionary) :
    (Template.mk name (segmentsOf ts)).render d =
      (Template.mk name (ts.map Token.segment)).render d := by
  induction ts with
  | nil => rfl
  | cons k ts ih =>
    rw [List.map_cons, render_cons, ← ih]
    cases k with
    | char c => rw [segmentsOf, render_consChar, render_cons]; rfl
    | openBrace => rw [segmentsOf, render_consChar, render_cons]; rfl
    | closeBrace => rw [segmentsOf, render_consChar, render_cons]; rfl
    | placeholder name => rw [segmentsOf, render_cons]; rfl

/-! ### The first missing placeholder -/

/-- The first placeholder that is not bound is the error. If all are bound, all segments are shown. -/
theorem render_eq (t : Template) (d : Dictionary) :
    t.render d = match t.placeholders.find? (fun name => !d.contains name) with
      | some name => .error (.unboundPlaceholder t.name name)
      | none => .ok (String.join (t.segments.map (Segment.shown d))) := by
  obtain ⟨template, segments⟩ := t
  unfold placeholders
  rw [find?_eraseDups]
  dsimp only
  induction segments with
  | nil => rfl
  | cons s rest ih =>
    rw [render_cons, ih]
    cases s with
    | literal text =>
      rw [List.filterMap_cons_none rfl]
      cases (rest.filterMap Segment.name?).find? fun name => !d.contains name with
      | some missing => rfl
      | none => exact congrArg Except.ok (by simp [Segment.shown])
    | placeholder name =>
      have hplaceholder : Segment.name? (.placeholder name) = some name := rfl
      rw [List.filterMap_cons_some hplaceholder, List.find?_cons, Segment.render,
        Table.contains_eq_isSome]
      cases hname : d.get? name with
      | none => rfl
      | some b =>
        cases (rest.filterMap Segment.name?).find? fun name => !d.contains name with
        | some missing => rfl
        | none => exact congrArg Except.ok (by simp [Segment.shown, hname])

theorem render_eq_error_iff {e : Error} : t.render d = .error e ↔
    ∃ name, t.placeholders.find? (fun name => !d.contains name) = some name ∧
      e = .unboundPlaceholder t.name name := by
  rw [render_eq]
  cases t.placeholders.find? fun name => !d.contains name with
  | none => simp
  | some name => simp [eq_comm]

/-- What is rendered shows the segments, one after the other. -/
theorem eq_of_render {text : String} (h : t.render d = .ok text) :
    text = String.join (t.segments.map (Segment.shown d)) := by
  rw [render_eq] at h
  split at h
  · cases h
  · exact (Except.ok.inj h).symm

/-! ### Texts -/

/-- A text that is a template has the segments of its tokens. -/
theorem parse_eq_ok_iff {text : String} : parse name text = .ok t ↔
    ∃ ts, (∀ k ∈ ts, Token.Valid k) ∧ text.toList = spell ts ∧ t = ⟨name, segmentsOf ts⟩ := by
  unfold parse readSegments
  constructor
  · intro h
    cases hread : tokens 0 text.toList with
    | error problem =>
      rw [hread] at h
      cases h
    | ok ts =>
      rw [hread] at h
      obtain ⟨hts, htext⟩ := tokens_eq_ok_iff.1 hread
      exact ⟨ts, hts, htext, (Except.ok.inj h).symm⟩
  · rintro ⟨ts, hts, htext, rfl⟩
    rw [tokens_eq_ok_iff.2 ⟨hts, htext⟩]
    rfl

/-- A text that is made of two templates is one, and has the tokens of both. -/
theorem parse_append {a b : String} {ts us : List Token} (hts : ∀ k ∈ ts, Token.Valid k)
    (ha : a.toList = spell ts) (hus : ∀ k ∈ us, Token.Valid k) (hb : b.toList = spell us) :
    parse name (a ++ b) = .ok ⟨name, segmentsOf (ts ++ us)⟩ := by
  refine parse_eq_ok_iff.2 ⟨ts ++ us, ?_, ?_, rfl⟩
  · intro k hk
    rcases List.mem_append.1 hk with hk | hk
    · exact hts k hk
    · exact hus k hk
  · rw [String.toList_append, ha, hb, spell_append]

/-! ### What rendered texts are made of -/

/-- What a placeholder of a text that is a template is bound to. -/
def TakesIn (text : String) (d : Dictionary) (b : Binding) : Prop :=
  ∃ t, parse text text = .ok t ∧ ∃ n ∈ t.placeholders, d.get? n = some b

theorem mem_written {segments : List Segment} {cs : List Char} (h : .literal cs ∈ segments)
    {c : Char} (hc : c ∈ cs) : c ∈ (written segments).toList := by
  rw [written, String.toList_ofList]
  refine List.mem_flatMap.2 ⟨_, h, List.mem_flatMap.2 ⟨c, hc, ?_⟩⟩
  unfold spellChar
  split <;> simp

/-- A character that is shown stands in the text, or in what one of its placeholders is bound to. -/
theorem mem_of_renderText {text shown : String} (h : renderText text d = .ok shown) {c : Char}
    (hc : c ∈ shown.toList) : c ∈ text.toList ∨ ∃ b, TakesIn text d b ∧ c ∈ b.display.toList := by
  obtain ⟨t, ht, hrender⟩ := bind_eq_ok.1 h
  rw [eq_of_render hrender, String.toList_join, List.flatMap_map, List.mem_flatMap] at hc
  obtain ⟨s, hs, hc⟩ := hc
  cases s with
  | literal cs =>
    rw [Segment.shown, String.toList_ofList] at hc
    obtain ⟨-, hwritten⟩ := readSegments_eq_ok.1 (parse_eq_ok.1 ht).2
    rw [← hwritten]
    exact Or.inl (mem_written hs hc)
  | placeholder n =>
    rw [Segment.shown] at hc
    cases hn : d.get? n with
    | none => simp [hn] at hc
    | some b =>
      rw [hn] at hc
      exact Or.inr ⟨b, ⟨t, ht, n, mem_placeholders.2 hs, hn⟩, hc⟩

/-! ### Texts and their parts -/

/-- Templates may be put together as texts. The whole is rendered part by part, and each part token
    by token, with the value of a placeholder as it is. Rendering gives a text exactly if all
    placeholders are bound, and otherwise names the first one that is not; nothing else of a
    dictionary matters. -/
theorem render_compositional (name : String) :
    (∀ a b ta tb, parse name a = .ok ta → parse name b = .ok tb →
        ∃ t, parse name (a ++ b) = .ok t ∧ ∀ d, t.render d = do
          let text ← ta.render d
          let more ← tb.render d
          return text ++ more) ∧
      (∀ text t, parse name text = .ok t →
        ∃ ts, (∀ k ∈ ts, Token.Valid k) ∧ text.toList = spell ts ∧
          ∀ d shown, t.render d = .ok shown → shown = String.join (ts.map (Token.shown d))) ∧
      (∀ (t : Template) (d : Dictionary),
        ((∃ text, t.render d = .ok text) ↔ ∀ n ∈ t.placeholders, d.contains n = true) ∧
          ∀ e, t.render d = .error e ↔
            ∃ n, t.placeholders.find? (fun n => !d.contains n) = some n ∧
              e = .unboundPlaceholder t.name n) ∧
      ∀ (t : Template) (d d' : Dictionary),
        (∀ n ∈ t.placeholders, d.get? n = d'.get? n) → t.render d = t.render d' := by
  refine ⟨?_, ?_, ?_, ?_⟩
  · intro a b ta tb hta htb
    obtain ⟨ts, hts, ha, rfl⟩ := parse_eq_ok_iff.1 hta
    obtain ⟨us, hus, hb, rfl⟩ := parse_eq_ok_iff.1 htb
    refine ⟨_, parse_append hts ha hus hb, ?_⟩
    intro d
    rw [render_segmentsOf, List.map_append, render_append, ← render_segmentsOf,
      ← render_segmentsOf]
  · intro text t ht
    obtain ⟨ts, hts, htext, rfl⟩ := parse_eq_ok_iff.1 ht
    refine ⟨ts, hts, htext, ?_⟩
    intro d shown h
    rw [render_segmentsOf] at h
    have hshown := eq_of_render h
    rwa [shown_map_segment] at hshown
  · intro t d
    exact ⟨exists_render_iff, fun e => render_eq_error_iff⟩
  · intro t d d' h
    exact render_congr h

namespace Sample

/-- Values with braces. -/
def braces : Dictionary :=
  Table.ofList [("a", .text "\x7bb\x7d"), ("b", .list ["x", "\x7d\x7d"])]

/-- A doubled brace before a placeholder. -/
theorem parse_front : parse "t" "\x7b\x7b\x7ba\x7d" =
    .ok ⟨"t", segmentsOf [.openBrace, .placeholder ['a']]⟩ := by
  have hname : IsPlaceholderName ['a'] := isName_iff.1 (by decide)
  refine parse_eq_ok_iff.2 ⟨_, ?_, by decide, rfl⟩
  simp [Token.Valid, hname]

/-- A doubled brace where a part begins. -/
theorem parse_back : parse "t" "\x7d\x7d\x7bb\x7d" =
    .ok ⟨"t", segmentsOf [.closeBrace, .placeholder ['b']]⟩ := by
  have hname : IsPlaceholderName ['b'] := isName_iff.1 (by decide)
  refine parse_eq_ok_iff.2 ⟨_, ?_, by decide, rfl⟩
  simp [Token.Valid, hname]

end Sample

/-- The value that reads like a placeholder is put in as it is, and so is the one with braces. Of two
    placeholders that are missing, the first one is reported. -/
theorem braces_are_kept :
    (∃ t, parse "t" ("\x7b\x7b\x7ba\x7d" ++ "\x7d\x7d\x7bb\x7d") = .ok t ∧
        t.render Sample.braces = .ok "\x7b\x7bb\x7d\x7dx, \x7d\x7d") ∧
      (Template.mk "t" [.placeholder "a", .placeholder "d", .placeholder "c"]).render
          Sample.braces = .error (.unboundPlaceholder "t" "d") ∧
      (Template.mk "t" [.placeholder "a"]).render Sample.braces =
        (Template.mk "t" [.placeholder "a"]).render (Sample.braces.insert "b" (.text "")) := by
  obtain ⟨happend, -, hmissing, hagree⟩ := render_compositional "t"
  refine ⟨?_, ?_, ?_⟩
  · obtain ⟨t, ht, hrender⟩ := happend _ _ _ _ Sample.parse_front Sample.parse_back
    refine ⟨t, ht, ?_⟩
    rw [hrender]
    exact eq_ok_of_toOption (by decide +kernel)
  · exact ((hmissing _ _).2 _).2 ⟨"d", by decide +kernel, rfl⟩
  · exact hagree _ _ _ (by decide +kernel)

end CodeStencil.Template
