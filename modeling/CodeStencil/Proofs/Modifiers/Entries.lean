/-
  CodeStencil/Proofs/Modifiers/Entries.lean
  =========================================
  **Entries of modifier chains** — an entry is either malformed or has a name with or without
  parentheses behind it (`malformed_or_shaped`), and this decides what it is read as
  (`parse_of_shaped`). So the entries that are read are those of the grammar, each other one has the
  fault that comes first, and chains are read entry by entry (`entries_follow_grammar`).
-/
import CodeStencil.Modifier
import CodeStencil.Proofs.Lists.Results
import CodeStencil.Proofs.Text.Splitting
import CodeStencil.Proofs.Text.Trimming
import Mathlib.Data.List.TakeWhile

namespace CodeStencil.Modifier

/-! ### The grammar -/

/-- The modifiers without arguments, by their names. -/
def plainNames : List (String × Modifier) :=
  [("to_lower", .toLower), ("to_upper", .toUpper), ("lower_first", .lowerFirst),
    ("snake_case", .snakeCase), ("pascal_case", .pascalCase)]

/-- How modifiers are written. The suffix to remove may hold parentheses. -/
inductive Written : String → Modifier → Prop
  | bare {name m} (known : (name, m) ∈ plainNames) : Written ("modifier:" ++ name) m
  | closed {name m w} (known : (name, m) ∈ plainNames) (blank : Text.Blank w.toList) :
      Written ("modifier:" ++ name ++ "(" ++ w ++ ")") m
  | removeSuffix {w s w'} (front : Text.Blank w.toList) (back : Text.Blank w'.toList)
      (nonempty : s ≠ "") (trimmed : Text.Trimmed s.toList) (single : ',' ∉ s.toList) :
      Written ("modifier:remove_suffix(" ++ w ++ s ++ w' ++ ")") (.removeSuffix s)

/-- The entry does not begin as entries do, or a parenthesis has no partner: an opening one that
    nothing closes at the end, or one at the end that closes nothing. -/
inductive Malformed : String → Prop
  | noLead {entry} (other : ∀ body, entry ≠ "modifier:" ++ body) : Malformed entry
  | notClosed {body} (opened : '(' ∈ body.toList) (last : body.toList.getLast? ≠ some ')') :
      Malformed ("modifier:" ++ body)
  | notOpened {body} (plain : '(' ∉ body.toList) : Malformed ("modifier:" ++ body ++ ")")

/-- The entry has this name, and this text between parentheses if there are any. The first opening
    parenthesis is the one that counts. -/
inductive Shaped : String → String → Option String → Prop
  | bare {name} (plain : '(' ∉ name.toList) (last : name.toList.getLast? ≠ some ')') :
      Shaped ("modifier:" ++ name) name none
  | closed {name inner} (plain : '(' ∉ name.toList) :
      Shaped ("modifier:" ++ name ++ "(" ++ inner ++ ")") name (some inner)

/-- The number of arguments, where there are not too many. -/
inductive Arity : Option String → Nat → Prop
  | bare : Arity none 0
  | blank {inner} (blank : Text.Blank inner.toList) : Arity (some inner) 0
  | one {inner} (filled : ¬Text.Blank inner.toList) (single : ',' ∉ inner.toList) :
      Arity (some inner) 1

/-- There is a modifier of this name with so many arguments. -/
def Known (name : String) (arity : Nat) : Prop :=
  arity = 0 ∧ name ∈ plainNames.map Prod.fst ∨ arity = 1 ∧ name = "remove_suffix"

instance (name : String) (arity : Nat) : Decidable (Known name arity) :=
  inferInstanceAs (Decidable (_ ∨ _))

variable {entry name : String} {inner? : Option String} {m : Modifier} {n : Nat}

/-! ### Forms of entries -/

theorem malformed_or_shaped (entry : String) :
    Malformed entry ∨ ∃ name inner?, Shaped entry name inner? := by
  by_cases hlead : ∃ body : String, entry = "modifier:" ++ body
  · obtain ⟨body, rfl⟩ := hlead
    by_cases hlast : body.toList.getLast? = some ')'
    · obtain ⟨front, hfront⟩ := List.getLast?_eq_some_iff.1 hlast
      by_cases hopen : '(' ∈ front
      · -- the first opening parenthesis ends the name, and the last character closes it
        obtain ⟨name, inner, rfl, hname⟩ := List.eq_append_cons_of_mem hopen
        have hentry : "modifier:" ++ body =
            "modifier:" ++ String.ofList name ++ "(" ++ String.ofList inner ++ ")" := by
          rw [← String.toList_inj]
          simp [hfront]
        rw [hentry]
        exact Or.inr ⟨_, _, .closed (by simpa using hname)⟩
      · have hentry : "modifier:" ++ body = "modifier:" ++ String.ofList front ++ ")" := by
          rw [← String.toList_inj]
          simp [hfront]
        rw [hentry]
        exact Or.inl (.notOpened (by simpa using hopen))
    · by_cases hopen : '(' ∈ body.toList
      · exact Or.inl (.notClosed hopen hlast)
      · exact Or.inr ⟨body, none, .bare hopen hlast⟩
  · exact Or.inl (.noLead fun body h => hlead ⟨body, h⟩)

theorem toList_lead (body : String) : ("modifier:" ++ body).toList = lead ++ body.toList :=
  String.toList_append

theorem afterWord?_lead (body : String) :
    Text.afterWord? lead ("modifier:" ++ body).toList = some body.toList :=
  Text.afterWord?_eq_some_iff.2 (toList_lead body)

theorem nameAndArguments?_of_plain {body : List Char} (h : '(' ∉ body) :
    nameAndArguments? body = if body.getLast? = some ')' then none else some (body, []) := by
  have hdrop : body.dropWhile (· != '(') = [] := by
    rw [List.dropWhile_eq_nil_iff]
    intro c hc
    rw [bne_iff_ne]
    rintro rfl
    exact h hc
  unfold nameAndArguments?
  rw [hdrop]

theorem nameAndArguments?_of_opened {name : List Char} (h : '(' ∉ name) (rest : List Char) :
    nameAndArguments? (name ++ '(' :: rest) =
      (Text.beforeWord? [')'] rest).map fun inner => (name, arguments inner) := by
  unfold nameAndArguments?
  rw [Text.dropWhile_append_mark h, Text.takeWhile_append_mark h]

theorem parse_of_malformed (h : Malformed entry) : parse entry = .error (.malformed entry) := by
  unfold parse
  cases h with
  | noLead other =>
    have hnone : Text.afterWord? lead entry.toList = none := by
      rw [Option.eq_none_iff_forall_ne_some]
      intro body hbody
      apply other (String.ofList body)
      rw [← String.toList_inj, Text.afterWord?_eq_some_iff.1 hbody, toList_lead,
        String.toList_ofList]
    rw [hnone]
  | @notClosed body opened last =>
    obtain ⟨name, rest, hbody, hname⟩ := List.eq_append_cons_of_mem opened
    have hnone : Text.beforeWord? [')'] rest = none := by
      rw [Option.eq_none_iff_forall_ne_some]
      intro inner hinner
      rw [hbody, Text.beforeWord?_eq_some_iff.1 hinner] at last
      simp [List.getLast?_cons] at last
    rw [afterWord?_lead, hbody]
    dsimp only
    rw [nameAndArguments?_of_opened hname, hnone]
    rfl
  | @notOpened body plain =>
    rw [String.append_assoc, afterWord?_lead]
    dsimp only
    rw [nameAndArguments?_of_plain (by simpa using plain), if_pos (by simp)]

/-- What the arguments are read from, if there are parentheses. -/
def argumentsOf : Option String → List (List Char)
  | none => []
  | some inner => arguments inner.toList

theorem parse_of_shaped (h : Shaped entry name inner?) :
    parse entry =
      if 1 < (argumentsOf inner?).length then .error (.tooManyArguments entry)
      else match ofName? name.toList (argumentsOf inner?) with
        | some m => .ok m
        | none => .error (.unknown name (argumentsOf inner?).length) := by
  have hname : ∃ body : String, entry = "modifier:" ++ body ∧
      nameAndArguments? body.toList = some (name.toList, argumentsOf inner?) := by
    cases h with
    | bare plain last => exact ⟨name, rfl, by rw [nameAndArguments?_of_plain plain, if_neg last]; rfl⟩
    | @closed _ inner plain =>
      refine ⟨name ++ "(" ++ inner ++ ")", by simp only [String.append_assoc], ?_⟩
      have hbody : (name ++ "(" ++ inner ++ ")").toList =
          name.toList ++ '(' :: (inner.toList ++ [')']) := by simp
      rw [hbody, nameAndArguments?_of_opened plain, Text.beforeWord?_eq_some_iff.2 rfl]
      rfl
  obtain ⟨body, rfl, hbody⟩ := hname
  unfold parse
  rw [afterWord?_lead]
  dsimp only
  rw [hbody]
  dsimp only
  by_cases hmany : 1 < (argumentsOf inner?).length
  · simp only [if_pos hmany]
  · simp only [if_neg hmany]
    cases ofName? name.toList (argumentsOf inner?) with
    | none =>
      exact congrArg (fun n => Except.error (Fault.unknown n (argumentsOf inner?).length))
        String.ofList_toList
    | some m => rfl

/-! ### Arguments -/

theorem arguments_of_blank {inner : List Char} (h : Text.Blank inner) : arguments inner = [] := by
  unfold arguments
  rw [if_pos (by simpa using Text.trimBlank_eq_nil_iff.2 h)]

theorem arguments_of_filled {inner : List Char} (h : ¬Text.Blank inner) :
    arguments inner = (Text.splitAt ',' inner).map Text.trimBlank := by
  unfold arguments
  rw [if_neg (by simpa using mt Text.trimBlank_eq_nil_iff.1 h)]

theorem not_blank_of_comma {inner : List Char} (h : ',' ∈ inner) : ¬Text.Blank inner := by
  intro hblank
  exact absurd (hblank ',' h) (by decide)

/-- A comma parts two arguments, even if one of them is empty. -/
theorem one_lt_length_arguments {inner : List Char} (h : ',' ∈ inner) :
    1 < (arguments inner).length := by
  rw [arguments_of_filled (not_blank_of_comma h), List.length_map]
  obtain ⟨xs, ys, rfl⟩ := List.append_of_mem h
  rw [Text.splitAt_append_mark, List.length_append]
  have hxs := List.length_pos_iff.2 (Text.splitAt_ne_nil ',' xs)
  have hys := List.length_pos_iff.2 (Text.splitAt_ne_nil ',' ys)
  omega

theorem arguments_of_single {inner : List Char} (hfilled : ¬Text.Blank inner) (h : ',' ∉ inner) :
    arguments inner = [Text.trimBlank inner] := by
  rw [arguments_of_filled hfilled, Text.splitAt_of_not_mem h, List.map_singleton]

theorem one_lt_length_argumentsOf_iff :
    1 < (argumentsOf inner?).length ↔ ∃ inner, inner? = some inner ∧ ',' ∈ inner.toList := by
  constructor
  · intro h
    cases inner? with
    | none => exact absurd h (by simp [argumentsOf])
    | some inner =>
      refine ⟨inner, rfl, ?_⟩
      by_contra hsingle
      by_cases hblank : Text.Blank inner.toList
      · simp [argumentsOf, arguments_of_blank hblank] at h
      · simp [argumentsOf, arguments_of_single hblank hsingle] at h
  · rintro ⟨inner, rfl, h⟩
    exact one_lt_length_arguments h

theorem arity_iff : Arity inner? n ↔ (argumentsOf inner?).length = n ∧ n ≤ 1 := by
  constructor
  · intro h
    cases h with
    | bare => exact ⟨rfl, Nat.zero_le 1⟩
    | blank blank => exact ⟨by rw [argumentsOf, arguments_of_blank blank]; rfl, Nat.zero_le 1⟩
    | one filled single =>
      exact ⟨by rw [argumentsOf, arguments_of_single filled single]; rfl, Nat.le_refl 1⟩
  · rintro ⟨rfl, hle⟩
    cases inner? with
    | none => exact .bare
    | some inner =>
      by_cases hblank : Text.Blank inner.toList
      · rw [argumentsOf, arguments_of_blank hblank]
        exact .blank hblank
      · have hsingle : ',' ∉ inner.toList := fun hcomma =>
          absurd (one_lt_length_arguments hcomma) (Nat.not_lt.2 hle)
        rw [argumentsOf, arguments_of_single hblank hsingle]
        exact .one hblank hsingle

/-! ### Names -/

theorem ofName?_nil_eq_some : ofName? name.toList [] = some m ↔ (name, m) ∈ plainNames := by
  unfold ofName?
  rw [String.ofList_toList]
  split <;> simp_all [plainNames, eq_comm]

theorem ofName?_singleton_eq_some {s : List Char} :
    ofName? name.toList [s] = some m ↔ name = "remove_suffix" ∧ m = .removeSuffix (String.ofList s) := by
  unfold ofName?
  rw [String.ofList_toList]
  split <;> simp_all [eq_comm]

theorem ofName?_eq_none_iff {args : List (List Char)} :
    ofName? name.toList args = none ↔ ¬Known name args.length := by
  rw [← Option.not_isSome_iff_eq_none, not_iff_not, Option.isSome_iff_exists]
  unfold Known
  match args with
  | [] => simp [ofName?_nil_eq_some]
  | [s] => simp [ofName?_singleton_eq_some]
  | s :: s' :: more =>
    have hnone : ofName? name.toList (s :: s' :: more) = none := by
      unfold ofName?
      split <;> simp_all
    simp [hnone]

/-- Names of modifiers have no parentheses. -/
theorem name_of_plainNames (h : (name, m) ∈ plainNames) :
    '(' ∉ name.toList ∧ name.toList.getLast? ≠ some ')' := by
  have hall : ∀ p ∈ plainNames, '(' ∉ p.1.toList ∧ p.1.toList.getLast? ≠ some ')' := by decide
  exact hall _ h

/-- No modifier has more than one argument. -/
theorem length_of_ofName? {args : List (List Char)} (h : ofName? name.toList args = some m) :
    args.length ≤ 1 := by
  have hknown : Known name args.length := by
    by_contra hunknown
    rw [ofName?_eq_none_iff.2 hunknown] at h
    cases h
  rcases hknown with ⟨hzero, -⟩ | ⟨hone, -⟩
  · omega
  · omega

/-! ### The argument of a suffix -/

/-- An argument is what is left without the white space around it. -/
theorem arguments_around {w s w' : List Char} (hw : Text.Blank w) (hw' : Text.Blank w')
    (hne : s ≠ []) (htrimmed : Text.Trimmed s) (hsingle : ',' ∉ s) :
    arguments (w ++ s ++ w') = [s] := by
  have htrim : Text.trimBlank (w ++ s ++ w') = s := Text.trimBlank_around hw htrimmed hw'
  have hfilled : ¬Text.Blank (w ++ s ++ w') := by
    rw [← Text.trimBlank_eq_nil_iff, htrim]
    exact hne
  have hcomma : ',' ∉ w ++ s ++ w' := by
    simp only [List.mem_append]
    rintro ((hc | hc) | hc)
    · exact not_blank_of_comma hc hw
    · exact hsingle hc
    · exact not_blank_of_comma hc hw'
  rw [arguments_of_single hfilled hcomma, htrim]

theorem written_removeSuffix {inner : String} (hfilled : ¬Text.Blank inner.toList)
    (hsingle : ',' ∉ inner.toList) :
    Written ("modifier:" ++ "remove_suffix" ++ "(" ++ inner ++ ")")
      (.removeSuffix (String.ofList (Text.trimBlank inner.toList))) := by
  obtain ⟨w, w', hw, hw', htrimmed, hinner⟩ := Text.exists_around_trimBlank inner.toList
  generalize hs : Text.trimBlank inner.toList = s at htrimmed hinner
  have hentry : "modifier:" ++ "remove_suffix" ++ "(" ++ inner ++ ")" =
      "modifier:remove_suffix(" ++ String.ofList w ++ String.ofList s ++ String.ofList w' ++ ")" := by
    rw [← String.toList_inj]
    simp [hinner]
  have hne : String.ofList s ≠ "" := by
    rw [ne_eq, String.ofList_eq_empty_iff, ← hs, Text.trimBlank_eq_nil_iff]
    exact hfilled
  have hcomma : ',' ∉ (String.ofList s).toList := by
    rw [String.toList_ofList]
    intro hmem
    apply hsingle
    rw [hinner]
    simp [hmem]
  rw [hentry]
  exact .removeSuffix (by simpa using hw) (by simpa using hw') hne (by simpa using htrimmed) hcomma

/-! ### What is read -/

/-- An entry has a bad form, or too many arguments, or it is read, or no modifier has its name and
    so many arguments. -/
theorem parse_cases (entry : String) :
    (Malformed entry ∧ parse entry = .error (.malformed entry)) ∨
      ∃ name inner?, Shaped entry name inner? ∧
        ((1 < (argumentsOf inner?).length ∧ parse entry = .error (.tooManyArguments entry)) ∨
          (∃ m, ofName? name.toList (argumentsOf inner?) = some m ∧ parse entry = .ok m) ∨
          ((argumentsOf inner?).length ≤ 1 ∧ ofName? name.toList (argumentsOf inner?) = none ∧
            parse entry = .error (.unknown name (argumentsOf inner?).length))) := by
  rcases malformed_or_shaped entry with hbad | ⟨name, inner?, hshape⟩
  · exact Or.inl ⟨hbad, parse_of_malformed hbad⟩
  · refine Or.inr ⟨name, inner?, hshape, ?_⟩
    rw [parse_of_shaped hshape]
    by_cases hmany : 1 < (argumentsOf inner?).length
    · rw [if_pos hmany]
      exact Or.inl ⟨hmany, rfl⟩
    · rw [if_neg hmany]
      cases hname : ofName? name.toList (argumentsOf inner?) with
      | some m => exact Or.inr (Or.inl ⟨m, rfl, rfl⟩)
      | none => exact Or.inr (Or.inr ⟨Nat.le_of_not_lt hmany, rfl, rfl⟩)

theorem parse_eq_ok_of_shaped (h : Shaped entry name inner?)
    (hm : ofName? name.toList (argumentsOf inner?) = some m) : parse entry = .ok m := by
  rw [parse_of_shaped h, if_neg (Nat.not_lt.2 (length_of_ofName? hm)), hm]

theorem written_of_shaped (h : Shaped entry name inner?)
    (hm : ofName? name.toList (argumentsOf inner?) = some m) : Written entry m := by
  cases h with
  | bare plain last => exact .bare (ofName?_nil_eq_some.1 hm)
  | @closed _ inner plain =>
    by_cases hblank : Text.Blank inner.toList
    · rw [argumentsOf, arguments_of_blank hblank, ofName?_nil_eq_some] at hm
      exact .closed hm hblank
    · have hsingle : ',' ∉ inner.toList := fun hcomma =>
        absurd (one_lt_length_arguments hcomma) (Nat.not_lt.2 (length_of_ofName? hm))
      rw [argumentsOf, arguments_of_single hblank hsingle, ofName?_singleton_eq_some] at hm
      obtain ⟨rfl, rfl⟩ := hm
      exact written_removeSuffix hblank hsingle

theorem parse_of_written (h : Written entry m) : parse entry = .ok m := by
  cases h with
  | bare known =>
    obtain ⟨hopen, hlast⟩ := name_of_plainNames known
    exact parse_eq_ok_of_shaped (.bare hopen hlast) (ofName?_nil_eq_some.2 known)
  | @closed name m w known blank =>
    refine parse_eq_ok_of_shaped (.closed (name_of_plainNames known).1) ?_
    rw [argumentsOf, arguments_of_blank blank]
    exact ofName?_nil_eq_some.2 known
  | @removeSuffix w s w' front back nonempty trimmed single =>
    have hentry : "modifier:remove_suffix(" ++ w ++ s ++ w' ++ ")" =
        "modifier:" ++ "remove_suffix" ++ "(" ++ (w ++ s ++ w') ++ ")" := by
      rw [← String.toList_inj]
      simp
    rw [hentry]
    refine parse_eq_ok_of_shaped (.closed (by decide)) ?_
    rw [argumentsOf, String.toList_append, String.toList_append,
      arguments_around front back (by simpa using nonempty) trimmed single]
    exact ofName?_singleton_eq_some.2 ⟨rfl, by rw [String.ofList_toList]⟩

theorem parse_eq_ok_iff : parse entry = .ok m ↔ Written entry m := by
  constructor
  · intro h
    rcases parse_cases entry with ⟨-, hparse⟩ |
      ⟨name, inner?, hshape, ⟨-, hparse⟩ | ⟨m', hm, hparse⟩ | ⟨-, -, hparse⟩⟩ <;>
      rw [hparse] at h <;> cases h
    exact written_of_shaped hshape hm
  · exact parse_of_written

/-! ### Which fault is reported -/

variable {shown : String}

theorem parse_eq_malformed_iff :
    parse entry = .error (.malformed shown) ↔ shown = entry ∧ Malformed entry := by
  constructor
  · intro h
    rcases parse_cases entry with ⟨hbad, hparse⟩ |
      ⟨name, inner?, hshape, ⟨-, hparse⟩ | ⟨m', hm, hparse⟩ | ⟨-, -, hparse⟩⟩ <;>
      rw [hparse] at h <;> cases h
    exact ⟨rfl, hbad⟩
  · rintro ⟨rfl, hbad⟩
    exact parse_of_malformed hbad

theorem parse_eq_tooManyArguments_iff :
    parse entry = .error (.tooManyArguments shown) ↔
      shown = entry ∧ ∃ name inner, Shaped entry name (some inner) ∧ ',' ∈ inner.toList := by
  constructor
  · intro h
    rcases parse_cases entry with ⟨-, hparse⟩ |
      ⟨name, inner?, hshape, ⟨hmany, hparse⟩ | ⟨m', hm, hparse⟩ | ⟨-, -, hparse⟩⟩ <;>
      rw [hparse] at h <;> cases h
    obtain ⟨inner, rfl, hcomma⟩ := one_lt_length_argumentsOf_iff.1 hmany
    exact ⟨rfl, name, inner, hshape, hcomma⟩
  · rintro ⟨rfl, name, inner, hshape, hcomma⟩
    rw [parse_of_shaped hshape, if_pos (one_lt_length_argumentsOf_iff.2 ⟨inner, rfl, hcomma⟩)]

theorem parse_eq_unknown_iff :
    parse entry = .error (.unknown name n) ↔
      ∃ inner?, Shaped entry name inner? ∧ Arity inner? n ∧ ¬Known name n := by
  constructor
  · intro h
    rcases parse_cases entry with ⟨-, hparse⟩ |
      ⟨name', inner?, hshape, ⟨-, hparse⟩ | ⟨m', hm, hparse⟩ | ⟨hle, hnone, hparse⟩⟩ <;>
      rw [hparse] at h <;> cases h
    exact ⟨inner?, hshape, arity_iff.2 ⟨rfl, hle⟩, ofName?_eq_none_iff.1 hnone⟩
  · rintro ⟨inner?, hshape, harity, hunknown⟩
    obtain ⟨rfl, hle⟩ := arity_iff.1 harity
    rw [parse_of_shaped hshape, if_neg (by omega), ofName?_eq_none_iff.2 hunknown]

/-! ### Chains -/

namespace Chain

theorem apply_append (front back : Chain) (s : String) :
    apply (front ++ back) s = back.apply (front.apply s) := List.foldl_append

/-- A chain of entries one behind the other is applied in two goes. -/
theorem parse_append {xs ys : List String} {chain : Chain} : parse (xs ++ ys) = .ok chain ↔
    ∃ front back, parse xs = .ok front ∧ parse ys = .ok back ∧ chain = front ++ back ∧
      ∀ s, chain.apply s = back.apply (front.apply s) := by
  unfold parse
  rw [mapM_append_eq_ok]
  constructor
  · rintro ⟨front, back, hfront, hback, rfl⟩
    exact ⟨front, back, hfront, hback, rfl, apply_append front back⟩
  · rintro ⟨front, back, hfront, hback, rfl, -⟩
    exact ⟨front, back, hfront, hback, rfl⟩

end Chain

/-- The entries that are read are those of the grammar. Each other one has one fault: its form if that
    is bad, else a comma between its parentheses, else its name with the number of its arguments. A
    chain is read if all its entries are, and otherwise the first bad one is reported. -/
theorem entries_follow_grammar :
    (∀ entry : String,
      (∀ m, parse entry = .ok m ↔ Written entry m) ∧
      ((∀ m, ¬Written entry m) ↔ ∃ fault, parse entry = .error fault) ∧
      (∀ shown, parse entry = .error (.malformed shown) ↔ shown = entry ∧ Malformed entry) ∧
      (∀ shown, parse entry = .error (.tooManyArguments shown) ↔
        shown = entry ∧ ∃ name inner, Shaped entry name (some inner) ∧ ',' ∈ inner.toList) ∧
      ∀ name arity, parse entry = .error (.unknown name arity) ↔
        ∃ inner?, Shaped entry name inner? ∧ Arity inner? arity ∧ ¬Known name arity) ∧
    ∀ entries : List String,
      ((∃ chain, Chain.parse entries = .ok chain) ↔ ∀ entry ∈ entries, ∃ m, parse entry = .ok m) ∧
      (∀ chain, Chain.parse entries = .ok chain ↔
        List.Forall₂ (fun entry m => parse entry = .ok m) entries chain) ∧
      (∀ fault, Chain.parse entries = .error fault ↔
        ∃ before entry after, entries = before ++ entry :: after ∧
          (∀ e ∈ before, ∃ m, parse e = .ok m) ∧ parse entry = .error fault) ∧
      ∀ more chain, Chain.parse (entries ++ more) = .ok chain ↔
        ∃ front back, Chain.parse entries = .ok front ∧ Chain.parse more = .ok back ∧
          chain = front ++ back ∧ ∀ s, chain.apply s = back.apply (front.apply s) := by
  constructor
  · intro entry
    refine ⟨fun m => parse_eq_ok_iff, ?_, fun shown => parse_eq_malformed_iff,
      fun shown => parse_eq_tooManyArguments_iff, fun name arity => parse_eq_unknown_iff⟩
    simp only [← parse_eq_ok_iff]
    cases parse entry with
    | ok m => simp
    | error fault => simp
  · intro entries
    exact ⟨exists_mapM_iff, fun chain => mapM_eq_ok, fun fault => mapM_eq_error,
      fun more chain => Chain.parse_append⟩

/-- A suffix with parentheses; a comma with nothing around it; parentheses that are closed only; white
    space as the only argument; and a chain with two bad entries. -/
theorem entries_are_told_apart :
    parse "modifier:remove_suffix( f(x) )" = .ok (.removeSuffix "f(x)") ∧
      parse "modifier:to_upper(,)" = .error (.tooManyArguments "modifier:to_upper(,)") ∧
      parse "modifier:to_lower)" = .error (.malformed "modifier:to_lower)") ∧
      parse "modifier:remove_suffix( )" = .error (.unknown "remove_suffix" 0) ∧
      Chain.parse ["modifier:to_lower", "to_upper", "modifier:trim"] =
        .error (.malformed "to_upper") := by
  obtain ⟨hentry, hchain⟩ := entries_follow_grammar
  have htrimmed : Text.Trimmed "f(x)".toList := by
    constructor
    · intro c hc
      obtain rfl := Option.some.inj hc
      decide
    · intro c hc
      obtain rfl := Option.some.inj hc
      decide
  have hblank : Text.Blank " ".toList := by decide
  have hnoLead : ∀ body : String, "to_upper" ≠ "modifier:" ++ body := by
    intro body h
    have hchars := congrArg String.toList h
    rw [toList_lead] at hchars
    cases hchars
  refine ⟨?_, ?_, ?_, ?_, ?_⟩
  · exact ((hentry _).1 _).2
      (@Written.removeSuffix " " "f(x)" " " hblank hblank (by decide) htrimmed (by decide))
  · exact ((hentry _).2.2.2.1 _).2
      ⟨rfl, "to_upper", ",", @Shaped.closed "to_upper" "," (by decide), by decide⟩
  · exact ((hentry _).2.2.1 _).2 ⟨rfl, @Malformed.notOpened "to_lower" (by decide)⟩
  · exact ((hentry _).2.2.2.2 _ _).2 ⟨some " ",
      @Shaped.closed "remove_suffix" " " (by decide), .blank hblank, by decide⟩
  · refine ((hchain _).2.2.1 _).2 ⟨["modifier:to_lower"], "to_upper", ["modifier:trim"], rfl, ?_,
      ((hentry _).2.2.1 _).2 ⟨rfl, .noLead hnoLead⟩⟩
    intro e he
    rw [List.mem_singleton.1 he]
    exact ⟨.toLower, ((hentry _).1 _).2 (@Written.bare "to_lower" _ (by decide))⟩

end CodeStencil.Modifier
