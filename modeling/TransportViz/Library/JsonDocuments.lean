import TransportViz.Library.JsonText

/-!
# Whole JSON documents

What was read of a text is read of every longer text, too. So an object that was cut off is no document,
and one that is followed by more is none either. Written compactly, it takes one line.
-/

namespace JsonText

open Script (Value)

/-! ## Longer texts -/

section Extension

variable (N : Numerals)

theorem skip_append_of_cons {text rest : List Char} {c : Char} (h : skip text = c :: rest)
    (more : List Char) : skip (text ++ more) = c :: (rest ++ more) := by
  rw [skip] at h
  rw [skip, List.dropWhile_append, h]
  rfl

theorem expect_eq_some {c : Char} {text rest : List Char} (h : expect c text = some rest) :
    skip text = c :: rest := by
  unfold expect at h
  split at h
  · rename_i a behind hskip
    split_ifs at h with ha
    rw [hskip, ha, Option.some.inj h]
  · exact absurd h nofun

theorem expect_of_skip {a c : Char} {text rest : List Char} (h : skip text = a :: rest) :
    expect c text = if a = c then some rest else none := by
  rw [expect, h]

theorem readCodes_append {text : List Char} {found : List ℕ × List Char}
    (h : readCodes text = some found) (more : List Char) :
    readCodes (text ++ more) = some (found.1, found.2 ++ more) := by
  fun_induction readCodes text generalizing found with
  | case1 => exact absurd h (Option.some_ne_none _).symm
  | case2 rest =>
    rw [← Option.some.inj h]
    rfl
  | case3 a b c d rest ih =>
    obtain ⟨unit, hunit, h⟩ := Option.bind_eq_some_iff.mp h
    obtain ⟨found', hfound, h⟩ := Option.bind_eq_some_iff.mp h
    rw [← Option.some.inj h]
    simp only [List.cons_append, readCodes, hunit, ih hfound]
    rfl
  | case4 c rest hu ih =>
    obtain ⟨code, hcode, h⟩ := Option.bind_eq_some_iff.mp h
    obtain ⟨found', hfound, h⟩ := Option.bind_eq_some_iff.mp h
    have hplain : c ≠ 'u' := by
      rintro rfl
      have hnone : unescape 'u' = none := by decide
      rw [hnone] at hcode
      exact absurd hcode (Option.some_ne_none _).symm
    rw [← Option.some.inj h, List.cons_append, List.cons_append, readCodes]
    · simp only [hcode, ih hfound]
      rfl
    · exact fun _ _ _ _ _ hu _ ↦ hplain hu
  | case5 => exact absurd h (Option.some_ne_none _).symm
  | case6 c rest hquote _ _ hplain ih =>
    rw [not_or] at hplain
    obtain ⟨found', hfound, hmap⟩ := Option.map_eq_some_iff.mp h
    rw [← hmap, List.cons_append, readCodes_plain (fun hc ↦ hquote hc) hplain.1 hplain.2, ih hfound]
    rfl

theorem readString_append {text : List Char} {found : String × List Char}
    (h : readString text = some found) (more : List Char) :
    readString (text ++ more) = some (found.1, found.2 ++ more) := by
  obtain ⟨codes, hcodes, h⟩ := Option.bind_eq_some_iff.mp h
  obtain ⟨characters, hcharacters, h⟩ := Option.bind_eq_some_iff.mp h
  rw [← Option.some.inj h, readString, readCodes_append hcodes more]
  simp [hcharacters]

theorem expect_append_of_eq_some {c : Char} {text rest : List Char} (h : expect c text = some rest)
    (more : List Char) : expect c (text ++ more) = some (rest ++ more) := by
  rw [expect_of_skip (skip_append_of_cons (expect_eq_some h) more), if_pos rfl]

theorem readKey_append_of_eq_some {text : List Char} {found : String × List Char}
    (h : readKey text = some found) (more : List Char) :
    readKey (text ++ more) = some (found.1, found.2 ++ more) := by
  obtain ⟨behind, hquote, h⟩ := Option.bind_eq_some_iff.mp h
  obtain ⟨key, hkey, h⟩ := Option.bind_eq_some_iff.mp h
  obtain ⟨rest, hcolon, h⟩ := Option.bind_eq_some_iff.mp h
  rw [← Option.some.inj h, readKey, expect_append_of_eq_some hquote]
  simp [readString_append hkey, expect_append_of_eq_some hcolon]

/-- Only a number could go on. -/
def Closed (found : Value × List Char) : Prop := found.2 ≠ [] ∨ ∀ x, found.1 ≠ .number x

theorem readNumber_append {text : List Char} {found : Value × List Char}
    (h : readNumber N text = some found) (hclosed : Closed found) (more : List Char) :
    readNumber N (text ++ more) = some (found.1, found.2 ++ more) := by
  obtain ⟨x, hx, h⟩ := Option.bind_eq_some_iff.mp h
  have hfound : (Value.number x, text.dropWhile numeral) = found := Option.some.inj h
  rw [← hfound] at hclosed ⊢
  have hrest : text.dropWhile numeral ≠ [] := hclosed.resolve_right fun hnumber ↦ hnumber x rfl
  have hdrop : (text ++ more).dropWhile numeral = text.dropWhile numeral ++ more := by
    rw [List.dropWhile_append, if_neg (by simpa using hrest)]
  have htake : (text ++ more).takeWhile numeral = text.takeWhile numeral := by
    rw [List.takeWhile_append, if_neg]
    intro hlength
    have hparts := congrArg List.length (List.takeWhile_append_dropWhile (p := numeral) (l := text))
    rw [List.length_append, hlength, Nat.add_eq_left, List.length_eq_zero_iff] at hparts
    exact hrest hparts
  rw [readNumber, htake, hx, hdrop]
  rfl

theorem readScalar_append {text : List Char} {found : Value × List Char}
    (h : readScalar N text = some found) (hclosed : Closed found) (more : List Char) :
    readScalar N (text ++ more) = some (found.1, found.2 ++ more) := by
  unfold readScalar at h
  split at h
  · rw [← Option.some.inj h]
    rfl
  · rw [← Option.some.inj h]
    rfl
  · rw [← Option.some.inj h]
    rfl
  · have happend := readNumber_append N h hclosed more
    cases text with
    | nil =>
      obtain ⟨x, hx, -⟩ := Option.bind_eq_some_iff.mp h
      rw [List.takeWhile_nil, N.value_nil] at hx
      exact absurd hx nofun
    | cons c rest =>
      by_cases hc : numeral c = true
      · rwa [List.cons_append, readScalar_of_numeral N hc]
      · obtain ⟨x, hx, -⟩ := Option.bind_eq_some_iff.mp h
        rw [List.takeWhile_cons_of_neg hc, N.value_nil] at hx
        exact absurd hx nofun

/-- What was read of a text is read of every longer text, too. -/
structure GoesOn (steps : ℕ) : Prop where
  value : ∀ text found, readValue N steps text = some found → Closed found →
    ∀ more further, readValue N (steps + more) (text ++ further) = some (found.1, found.2 ++ further)
  elements : ∀ text found, readElements N steps text = some found →
    ∀ more further, readElements N (steps + more) (text ++ further) = some (found.1, found.2 ++ further)
  members : ∀ text found, readMembers N steps text = some found →
    ∀ more further, readMembers N (steps + more) (text ++ further) = some (found.1, found.2 ++ further)

theorem skip_of_readValue {steps : ℕ} {text : List Char} {found : Value × List Char}
    (h : readValue N steps text = some found) : ∃ c rest, skip text = c :: rest := by
  cases steps with
  | zero => exact absurd h nofun
  | succ steps =>
    rw [readValue] at h
    cases hskip : skip text with
    | nil =>
      rw [hskip] at h
      exact absurd h nofun
    | cons c rest => exact ⟨c, rest, rfl⟩

theorem readElements_nil (steps : ℕ) : readElements N steps [] = none := by
  cases steps <;> rfl

theorem readMembers_nil (steps : ℕ) : readMembers N steps [] = none := by
  cases steps <;> rfl

/-- Another character is there already. -/
theorem expect_append_of_eq_none {a c : Char} {text rest : List Char} (h : expect c text = none)
    (hskip : skip text = a :: rest) (more : List Char) : expect c (text ++ more) = none := by
  rw [expect_of_skip hskip] at h
  rw [expect_of_skip (skip_append_of_cons hskip more)]
  split_ifs at h ⊢
  rfl

section Extension

variable {N} {steps : ℕ} (ih : GoesOn N steps)
include ih

theorem GoesOn.first_elements {text : List Char} {first : Value × List Char}
    {others : List Value × List Char} (hfirst : readValue N steps text = some first)
    (hothers : readElements N steps first.2 = some others) (more : ℕ) (further : List Char) :
    readValue N (steps + more) (text ++ further) = some (first.1, first.2 ++ further) ∧
      readElements N (steps + more) (first.2 ++ further) = some (others.1, others.2 ++ further) := by
  have hclosed : Closed first := Or.inl fun hnil ↦ by
    rw [hnil, readElements_nil] at hothers
    exact absurd hothers nofun
  exact ⟨ih.value text first hfirst hclosed more further, ih.elements _ _ hothers more further⟩

theorem GoesOn.first_members {text : List Char} {first : Value × List Char}
    {others : List (String × Value) × List Char} (hfirst : readValue N steps text = some first)
    (hothers : readMembers N steps first.2 = some others) (more : ℕ) (further : List Char) :
    readValue N (steps + more) (text ++ further) = some (first.1, first.2 ++ further) ∧
      readMembers N (steps + more) (first.2 ++ further) = some (others.1, others.2 ++ further) := by
  have hclosed : Closed first := Or.inl fun hnil ↦ by
    rw [hnil, readMembers_nil] at hothers
    exact absurd hothers nofun
  exact ⟨ih.value text first hfirst hclosed more further, ih.members _ _ hothers more further⟩

theorem GoesOn.value_succ (text : List Char) (found : Value × List Char)
    (h : readValue N (steps + 1) text = some found) (hclosed : Closed found) (more : ℕ)
    (further : List Char) :
    readValue N (steps + 1 + more) (text ++ further) = some (found.1, found.2 ++ further) := by
  obtain ⟨c, rest, hskip⟩ := skip_of_readValue N h
  rw [readValue, hskip] at h
  rw [Nat.add_right_comm, readValue, skip_append_of_cons hskip]
  dsimp only at h ⊢
  split_ifs at h ⊢ with hquote hbracket hbrace
  · obtain ⟨s, hs, h⟩ := Option.bind_eq_some_iff.mp h
    rw [← Option.some.inj h]
    simp [readString_append hs]
  · cases hend : expect ']' rest with
    | some behind =>
      rw [hend] at h
      rw [← Option.some.inj h, expect_append_of_eq_some hend]
    | none =>
      rw [hend] at h
      obtain ⟨first, hfirst, h⟩ := Option.bind_eq_some_iff.mp h
      obtain ⟨others, hothers, h⟩ := Option.bind_eq_some_iff.mp h
      obtain ⟨a, behind, hsolid⟩ := skip_of_readValue N hfirst
      obtain ⟨hvalue, helements⟩ := ih.first_elements hfirst hothers more further
      rw [← Option.some.inj h, expect_append_of_eq_none hend hsolid]
      simp [hvalue, helements]
  · cases hend : expect '}' rest with
    | some behind =>
      rw [hend] at h
      rw [← Option.some.inj h, expect_append_of_eq_some hend]
    | none =>
      rw [hend] at h
      obtain ⟨key, hkey, h⟩ := Option.bind_eq_some_iff.mp h
      obtain ⟨first, hfirst, h⟩ := Option.bind_eq_some_iff.mp h
      obtain ⟨others, hothers, h⟩ := Option.bind_eq_some_iff.mp h
      obtain ⟨behind, hquoted, -⟩ := Option.bind_eq_some_iff.mp hkey
      obtain ⟨hvalue, hmembers⟩ := ih.first_members hfirst hothers more further
      rw [← Option.some.inj h, expect_append_of_eq_none hend (expect_eq_some hquoted)]
      simp [readKey_append_of_eq_some hkey, hvalue, hmembers]
  · rw [← List.cons_append]
    exact readScalar_append N h hclosed further

theorem GoesOn.elements_succ (text : List Char) (found : List Value × List Char)
    (h : readElements N (steps + 1) text = some found) (more : ℕ) (further : List Char) :
    readElements N (steps + 1 + more) (text ++ further) = some (found.1, found.2 ++ further) := by
  rw [readElements] at h
  rw [Nat.add_right_comm, readElements]
  cases hend : expect ']' text with
  | some behind =>
    rw [hend] at h
    rw [← Option.some.inj h, expect_append_of_eq_some hend]
  | none =>
    rw [hend] at h
    obtain ⟨behind, hcomma, h⟩ := Option.bind_eq_some_iff.mp h
    obtain ⟨next, hnext, h⟩ := Option.bind_eq_some_iff.mp h
    obtain ⟨others, hothers, h⟩ := Option.bind_eq_some_iff.mp h
    obtain ⟨hvalue, helements⟩ := ih.first_elements hnext hothers more further
    rw [← Option.some.inj h, expect_append_of_eq_none hend (expect_eq_some hcomma)]
    simp [expect_append_of_eq_some hcomma, hvalue, helements]

theorem GoesOn.members_succ (text : List Char) (found : List (String × Value) × List Char)
    (h : readMembers N (steps + 1) text = some found) (more : ℕ) (further : List Char) :
    readMembers N (steps + 1 + more) (text ++ further) = some (found.1, found.2 ++ further) := by
  rw [readMembers] at h
  rw [Nat.add_right_comm, readMembers]
  cases hend : expect '}' text with
  | some behind =>
    rw [hend] at h
    rw [← Option.some.inj h, expect_append_of_eq_some hend]
  | none =>
    rw [hend] at h
    obtain ⟨behind, hcomma, h⟩ := Option.bind_eq_some_iff.mp h
    obtain ⟨key, hkey, h⟩ := Option.bind_eq_some_iff.mp h
    obtain ⟨next, hnext, h⟩ := Option.bind_eq_some_iff.mp h
    obtain ⟨others, hothers, h⟩ := Option.bind_eq_some_iff.mp h
    obtain ⟨hvalue, hmembers⟩ := ih.first_members hnext hothers more further
    rw [← Option.some.inj h, expect_append_of_eq_none hend (expect_eq_some hcomma)]
    simp [expect_append_of_eq_some hcomma, readKey_append_of_eq_some hkey, hvalue, hmembers]

end Extension

theorem goesOn (steps : ℕ) : GoesOn N steps := by
  induction steps with
  | zero => exact ⟨fun _ _ h ↦ absurd h nofun, fun _ _ h ↦ absurd h nofun, fun _ _ h ↦ absurd h nofun⟩
  | succ steps ih => exact ⟨ih.value_succ, ih.elements_succ, ih.members_succ⟩

end Extension

/-! ## Documents -/

section Documents

variable (N : Numerals) (L : Layout)

theorem closed_of_brace {steps : ℕ} {text : List Char} {found : Value × List Char}
    (h : readValue N steps ('{' :: text) = some found) : Closed found := by
  cases steps with
  | zero => exact absurd h (Option.some_ne_none _).symm
  | succ steps =>
    rw [readValue, skip_cons (by decide)] at h
    simp only [Char.reduceEq, if_false, if_true] at h
    cases hend : expect '}' text with
    | some behind =>
      rw [hend] at h
      rw [← Option.some.inj h]
      exact Or.inr fun x ↦ Value.noConfusion
    | none =>
      rw [hend] at h
      obtain ⟨key, -, h⟩ := Option.bind_eq_some_iff.mp h
      obtain ⟨first, -, h⟩ := Option.bind_eq_some_iff.mp h
      obtain ⟨others, -, h⟩ := Option.bind_eq_some_iff.mp h
      rw [← Option.some.inj h]
      exact Or.inr fun x ↦ Value.noConfusion

theorem exists_write_object (depth : ℕ) (members : List (String × Value)) :
    ∃ text, write N L depth (.object members) = '{' :: text := by
  cases members with
  | nil => exact ⟨_, by rw [write]⟩
  | cons m rest => exact ⟨_, by rw [write]⟩

/-- An object that was cut off is no document. -/
theorem parse_of_append_eq_write {members : List (String × Value)}
    (h : defined (.object members) = true) {depth : ℕ} {text more : List Char}
    (hwrite : text ++ more = write N L depth (.object members)) (hmore : more ≠ []) :
    parse N text = none := by
  cases hread : readValue N text.length text with
  | none => rw [parse, hread]; rfl
  | some found =>
    have hclosed : Closed found := by
      cases text with
      | nil => exact absurd hread (Option.some_ne_none _).symm
      | cons c rest =>
        obtain ⟨behind, hbrace⟩ := exists_write_object N L depth members
        rw [hbrace, List.cons_append] at hwrite
        rw [(List.cons.inj hwrite).1] at hread
        exact closed_of_brace N hread
    have hlong := (goesOn N text.length).value text found hread hclosed more.length more
    have hwhole := readValue_write N L depth (.object members) (text.length + more.length) [] h
      (fun c hc ↦ absurd hc (Option.some_ne_none c).symm) (by rw [← hwrite, List.length_append])
    rw [List.append_nil, ← hwrite, hlong, Option.some.injEq, Prod.mk.injEq,
      List.append_eq_nil_iff] at hwhole
    exact absurd hwhole.2.2 hmore

@[simp]
theorem newline_compact (depth : ℕ) : compact.newline depth = [] := rfl

@[simp]
theorem colon_compact : compact.colon = [] := rfl

theorem exists_writeMembers (depth : ℕ) (members : List (String × Value)) :
    ∃ text, writeMembers N L depth members = text ++ ['}'] := by
  induction members with
  | nil => exact ⟨_, by rw [writeMembers]⟩
  | cons m rest ih =>
    obtain ⟨text, htext⟩ := ih
    rw [writeMembers, htext]
    exact ⟨',' :: (L.newline (depth + 1) ++
      (quoted m.1 ++ ':' :: (L.colon ++ (write N L (depth + 1) m.2 ++ text)))), by simp⟩

/-- An object stands between its braces. -/
theorem write_object (depth : ℕ) (members : List (String × Value)) :
    ∃ text, write N L depth (.object members) = '{' :: (text ++ ['}']) := by
  cases members with
  | nil => exact ⟨[], by rw [write]; rfl⟩
  | cons m rest =>
    obtain ⟨text, htext⟩ := exists_writeMembers N L depth rest
    rw [write, htext]
    exact ⟨L.newline (depth + 1) ++
      (quoted m.1 ++ ':' :: (L.colon ++ (write N L (depth + 1) m.2 ++ text))), by simp⟩

end Documents

/-! ## One line -/

section OneLine

variable (N : Numerals)

theorem newline_notMem_quoted (s : String) : '\n' ∉ quoted s := by
  rw [quoted, List.mem_cons, List.mem_append, List.mem_flatMap]
  rintro (h | ⟨c, -, hc⟩ | h)
  · exact absurd h (by decide)
  · unfold escape at hc
    split_ifs at hc with h1 h2 h3 h4 h5 h6 h7 h8
    all_goals simp at hc
    exact h5 hc.symm
  · exact absurd h (by decide)

mutual

theorem newline_notMem_write (depth : ℕ) : ∀ v : Value, '\n' ∉ write N compact depth v
  | .undefined => by simp [write]
  | .null => by simp [write]
  | .bool true => by simp [write]
  | .bool false => by simp [write]
  | .number x => by
    rw [write]
    intro h
    exact absurd (N.numeral_spell x _ h) (by decide)
  | .string s => by
    rw [write]
    exact newline_notMem_quoted s
  | .array [] => by simp [write]
  | .array (v :: rest) => by
    have hv := newline_notMem_write (depth + 1) v
    have hrest := newline_notMem_writeElements depth rest
    simp [write, hv, hrest]
  | .object [] => by simp [write]
  | .object ((key, v) :: rest) => by
    have hkey := newline_notMem_quoted key
    have hv := newline_notMem_write (depth + 1) v
    have hrest := newline_notMem_writeMembers depth rest
    simp [write, hkey, hv, hrest]

theorem newline_notMem_writeElements (depth : ℕ) : ∀ elements : List Value,
    '\n' ∉ writeElements N compact depth elements
  | [] => by simp [writeElements]
  | v :: rest => by
    have hv := newline_notMem_write (depth + 1) v
    have hrest := newline_notMem_writeElements depth rest
    simp [writeElements, hv, hrest]

theorem newline_notMem_writeMembers (depth : ℕ) : ∀ members : List (String × Value),
    '\n' ∉ writeMembers N compact depth members
  | [] => by simp [writeMembers]
  | (key, v) :: rest => by
    have hkey := newline_notMem_quoted key
    have hv := newline_notMem_write (depth + 1) v
    have hrest := newline_notMem_writeMembers depth rest
    simp [writeMembers, hkey, hv, hrest]

end

end OneLine

end JsonText
