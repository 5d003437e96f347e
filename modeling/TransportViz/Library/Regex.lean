import Mathlib.Data.List.Basic

/-!
# Regular expressions with groups

A backtracking matcher in the order of ECMAScript: the left side of an alternative first, and every
repetition as often as it can be. `mem_outcomes_iff` says that the matcher finds exactly the matches
of the expression, `matchWhole` takes the first one that uses up the input.
-/

universe u

namespace Regex

inductive Expr (α : Type u)
  | empty
  /-- One character of a class. -/
  | one (p : α → Bool)
  | seq (r s : Expr α)
  | alt (r s : Expr α)
  /-- `min` times and, greedily, up to `more` further times. -/
  | repeated (r : Expr α) (min : ℕ) (more : Option ℕ)
  | group (number : ℕ) (r : Expr α)

namespace Expr

variable {α : Type u}

def literal [DecidableEq α] : List α → Expr α
  | [] => .empty
  | c :: rest => .seq (.one (· = c)) (literal rest)

def between (r : Expr α) (low high : ℕ) : Expr α := .repeated r low (some (high - low))

def optional (r : Expr α) : Expr α := .repeated r 0 (some 1)

def plus (r : Expr α) : Expr α := .repeated r 1 none

end Expr

variable {α : Type u}

/-- The texts of the groups, in the order in which they end. -/
abbrev Groups (α : Type u) := List (ℕ × List α)

/-- The text a group took last. -/
def groupText (groups : Groups α) (number : ℕ) : Option (List α) :=
  ((groups.filter fun group ↦ group.1 = number).getLast?).map Prod.snd

/-! ## What an expression matches -/

/-- `min` times, and `more` further times of which none is empty. -/
inductive Repeats (matched : List α → Groups α → Prop) : ℕ → ℕ → List α → Groups α → Prop where
  | nil : Repeats matched 0 0 [] []
  | must {min more : ℕ} {text rest : List α} {groups groups' : Groups α} : matched text groups →
      Repeats matched min more rest groups' →
        Repeats matched (min + 1) more (text ++ rest) (groups ++ groups')
  | may {more : ℕ} {text rest : List α} {groups groups' : Groups α} : matched text groups → text ≠ [] →
      Repeats matched 0 more rest groups' →
        Repeats matched 0 (more + 1) (text ++ rest) (groups ++ groups')

def Matches : Expr α → List α → Groups α → Prop
  | .empty, text, groups => text = [] ∧ groups = []
  | .one p, text, groups => ∃ c, p c = true ∧ text = [c] ∧ groups = []
  | .seq r s, text, groups => ∃ first second groups₁ groups₂, Matches r first groups₁ ∧
      Matches s second groups₂ ∧ text = first ++ second ∧ groups = groups₁ ++ groups₂
  | .alt r s, text, groups => Matches r text groups ∨ Matches s text groups
  | .repeated r min more, text, groups =>
      ∃ times, (∀ bound ∈ more, times ≤ bound) ∧ Repeats (Matches r) min times text groups
  | .group number r, text, groups => ∃ inner, Matches r text inner ∧ groups = inner ++ [(number, text)]

namespace Expr

/-- Every class of the expression satisfies `P`. -/
def Over (P : α → Prop) : Expr α → Prop
  | .empty => True
  | .one p => ∀ c, p c = true → P c
  | .seq r s => Over P r ∧ Over P s
  | .alt r s => Over P r ∧ Over P s
  | .repeated r _ _ => Over P r
  | .group _ r => Over P r

/-- The numbers of the groups. -/
def numbers : Expr α → List ℕ
  | .empty => []
  | .one _ => []
  | .seq r s => numbers r ++ numbers s
  | .alt r s => numbers r ++ numbers s
  | .repeated r _ _ => numbers r
  | .group number r => number :: numbers r

end Expr

theorem Repeats.forall_mem {matched : List α → Groups α → Prop} {P : α → Prop}
    (hmatched : ∀ text groups, matched text groups → ∀ c ∈ text, P c) {min more : ℕ} {text : List α}
    {groups : Groups α} (h : Repeats matched min more text groups) : ∀ c ∈ text, P c := by
  induction h with
  | nil => exact fun _ hc ↦ absurd hc List.not_mem_nil
  | must hfirst _ ih => exact List.forall_mem_append.mpr ⟨hmatched _ _ hfirst, ih⟩
  | may hfirst _ _ ih => exact List.forall_mem_append.mpr ⟨hmatched _ _ hfirst, ih⟩

/-- What matches consists of characters of the classes. -/
theorem Matches.forall_mem {P : α → Prop} {r : Expr α} (hover : r.Over P) {text : List α}
    {groups : Groups α} (h : Matches r text groups) : ∀ c ∈ text, P c := by
  induction r generalizing text groups with
  | empty =>
    rw [h.1]
    exact fun _ hc ↦ absurd hc List.not_mem_nil
  | one p =>
    obtain ⟨c, hc, rfl, _⟩ := h
    exact List.forall_mem_singleton.mpr (hover c hc)
  | seq r s ihr ihs =>
    obtain ⟨first, second, _, _, hfirst, hsecond, rfl, _⟩ := h
    exact List.forall_mem_append.mpr ⟨ihr hover.1 hfirst, ihs hover.2 hsecond⟩
  | alt r s ihr ihs =>
    rcases h with h | h
    · exact ihr hover.1 h
    · exact ihs hover.2 h
  | repeated r min more ih =>
    obtain ⟨times, _, hrepeats⟩ := h
    exact hrepeats.forall_mem fun _ _ hmatched ↦ ih hover hmatched
  | group number r ih =>
    obtain ⟨inner, hmatched, _⟩ := h
    exact ih hover hmatched

theorem Repeats.numbers {matched : List α → Groups α → Prop} {numbers : List ℕ}
    (hmatched : ∀ text groups, matched text groups → ∀ group ∈ groups, group.1 ∈ numbers) {min more : ℕ}
    {text : List α} {groups : Groups α} (h : Repeats matched min more text groups) :
    ∀ group ∈ groups, group.1 ∈ numbers := by
  induction h with
  | nil => exact fun _ hgroup ↦ absurd hgroup List.not_mem_nil
  | must hfirst _ ih => exact List.forall_mem_append.mpr ⟨hmatched _ _ hfirst, ih⟩
  | may hfirst _ _ ih => exact List.forall_mem_append.mpr ⟨hmatched _ _ hfirst, ih⟩

/-- A match sets groups of the expression only. -/
theorem Matches.numbers {r : Expr α} {text : List α} {groups : Groups α} (h : Matches r text groups) :
    ∀ group ∈ groups, group.1 ∈ r.numbers := by
  induction r generalizing text groups with
  | empty =>
    rw [h.2]
    exact fun _ hgroup ↦ absurd hgroup List.not_mem_nil
  | one p =>
    obtain ⟨c, _, _, rfl⟩ := h
    exact fun _ hgroup ↦ absurd hgroup List.not_mem_nil
  | seq r s ihr ihs =>
    obtain ⟨_, _, _, _, hfirst, hsecond, _, rfl⟩ := h
    exact List.forall_mem_append.mpr ⟨fun group hgroup ↦ List.mem_append_left _ (ihr hfirst group hgroup),
      fun group hgroup ↦ List.mem_append_right _ (ihs hsecond group hgroup)⟩
  | alt r s ihr ihs =>
    rcases h with h | h
    · exact fun group hgroup ↦ List.mem_append_left _ (ihr h group hgroup)
    · exact fun group hgroup ↦ List.mem_append_right _ (ihs h group hgroup)
  | repeated r min more ih =>
    obtain ⟨times, _, hrepeats⟩ := h
    exact hrepeats.numbers fun _ _ hmatched ↦ ih hmatched
  | group number r ih =>
    obtain ⟨inner, hmatched, rfl⟩ := h
    refine List.forall_mem_append.mpr
      ⟨fun group hgroup ↦ List.mem_cons_of_mem _ (ih hmatched group hgroup), ?_⟩
    exact List.forall_mem_singleton.mpr List.mem_cons_self

/-- A group keeps its text where the expression goes on without it. -/
theorem groupText_append {before after : Groups α} {number : ℕ} {text : List α}
    (h : ∀ group ∈ after, group.1 ≠ number) :
    groupText (before ++ [(number, text)] ++ after) number = some text := by
  have hafter : after.filter (fun group ↦ group.1 = number) = [] := by
    rw [List.filter_eq_nil_iff]
    intro group hgroup
    rw [decide_eq_true_eq]
    exact h group hgroup
  simp [groupText, List.filter_append, hafter]

theorem matches_literal [DecidableEq α] {pattern text : List α} {groups : Groups α}
    (h : Matches (.literal pattern) text groups) : text = pattern := by
  induction pattern generalizing text groups with
  | nil => exact h.1
  | cons c rest ih =>
    obtain ⟨_, _, _, _, ⟨d, hd, rfl, _⟩, hrest, rfl, _⟩ := h
    rw [of_decide_eq_true hd, ih hrest, List.singleton_append]

/-- An optional part is absent or there once. -/
theorem matches_optional {r : Expr α} {text : List α} {groups : Groups α}
    (h : Matches r.optional text groups) : text = [] ∧ groups = [] ∨ Matches r text groups := by
  obtain ⟨times, hle, hrepeats⟩ := h
  cases hrepeats with
  | nil => exact Or.inl ⟨rfl, rfl⟩
  | may hfirst _ hrest =>
    cases hrest with
    | nil =>
      rw [List.append_nil, List.append_nil]
      exact Or.inr hfirst
    | may => exact absurd (hle 1 rfl) (by omega)

/-! ## The matcher -/

structure Outcome (α : Type u) where
  taken : List α := []
  groups : Groups α := []
  rest : List α

/-- An outcome after another one. -/
def Outcome.after (second first : Outcome α) : Outcome α where
  taken := first.taken ++ second.taken
  groups := first.groups ++ second.groups
  rest := second.rest

/-- Up to `more` times, each of which takes something. -/
def further (outcomes : List α → List (Outcome α)) : ℕ → List α → List (Outcome α)
  | 0, input => [{ rest := input }]
  | more + 1, input =>
    ((outcomes input).filter fun o ↦ o.taken ≠ []).flatMap (fun o ↦
      (further outcomes more o.rest).map (·.after o)) ++ [{ rest := input }]

def iterate (outcomes : List α → List (Outcome α)) (more : ℕ) : ℕ → List α → List (Outcome α)
  | 0, input => further outcomes more input
  | min + 1, input =>
    (outcomes input).flatMap fun o ↦ (iterate outcomes more min o.rest).map (·.after o)

def outcomes : Expr α → List α → List (Outcome α)
  | .empty, input => [{ rest := input }]
  | .one _, [] => []
  | .one p, c :: rest => if p c then [{ taken := [c], rest := rest }] else []
  | .seq r s, input => (outcomes r input).flatMap fun o ↦ (outcomes s o.rest).map (·.after o)
  | .alt r s, input => outcomes r input ++ outcomes s input
  | .repeated r min more, input => iterate (outcomes r) (more.getD input.length) min input
  | .group number r, input =>
    (outcomes r input).map fun o ↦ { o with groups := o.groups ++ [(number, o.taken)] }

/-- The groups of the first match of the whole input. -/
def matchWhole (r : Expr α) (input : List α) : Option (Groups α) :=
  ((outcomes r input).find? fun o ↦ o.rest = []).map Outcome.groups

/-! ## The matcher finds the matches -/

/-- A search tells every match of a prefix of its input. -/
def Finds (search : List α → List (Outcome α)) (matched : List α → Groups α → Prop) : Prop :=
  ∀ input o, o ∈ search input ↔ input = o.taken ++ o.rest ∧ matched o.taken o.groups

section Finding

variable {search other : List α → List (Outcome α)} {matched matched' : List α → Groups α → Prop}

theorem Finds.seq (h : Finds search matched) (h' : Finds other matched') :
    Finds (fun input ↦ (search input).flatMap fun o ↦ (other o.rest).map (·.after o))
      fun text groups ↦ ∃ first second groups₁ groups₂, matched first groups₁ ∧
        matched' second groups₂ ∧ text = first ++ second ∧ groups = groups₁ ++ groups₂ := by
  intro input o
  simp only [List.mem_flatMap, List.mem_map]
  constructor
  · rintro ⟨first, hfirst, second, hsecond, rfl⟩
    obtain ⟨rfl, hmatched⟩ := (h _ _).mp hfirst
    obtain ⟨hrest, hmatched'⟩ := (h' _ _).mp hsecond
    refine ⟨?_, _, _, _, _, hmatched, hmatched', rfl, rfl⟩
    rw [hrest, Outcome.after, List.append_assoc]
  · obtain ⟨taken, groups, rest⟩ := o
    rintro ⟨rfl, first, second, groups₁, groups₂, hmatched, hmatched', rfl, rfl⟩
    refine ⟨⟨first, groups₁, second ++ rest⟩, (h _ _).mpr ⟨List.append_assoc .., hmatched⟩,
      ⟨second, groups₂, rest⟩, (h' _ _).mpr ⟨rfl, hmatched'⟩, rfl⟩

theorem Finds.nonempty (h : Finds search matched) :
    Finds (fun input ↦ (search input).filter fun o ↦ o.taken ≠ [])
      fun text groups ↦ matched text groups ∧ text ≠ [] := by
  intro input o
  rw [List.mem_filter, h, decide_eq_true_eq, and_assoc]

/-- There are no more further times than characters. -/
theorem Repeats.le_length {min more : ℕ} {text : List α} {groups : Groups α}
    (h : Repeats matched min more text groups) : more ≤ text.length := by
  induction h with
  | nil => exact Nat.le_refl _
  | must _ _ ih =>
    rw [List.length_append]
    omega
  | may _ hne _ ih =>
    have hpos := List.length_pos_iff.mpr hne
    rw [List.length_append]
    omega

theorem Finds.further (h : Finds search matched) (bound : ℕ) :
    Finds (Regex.further search bound) fun text groups ↦
      ∃ more ≤ bound, Repeats matched 0 more text groups := by
  induction bound with
  | zero =>
    rintro input ⟨taken, groups, rest⟩
    simp only [Regex.further, List.mem_singleton, Outcome.mk.injEq, Nat.le_zero, exists_eq_left]
    constructor
    · rintro ⟨rfl, rfl, rfl⟩
      exact ⟨rfl, .nil⟩
    · rintro ⟨rfl, hrepeats⟩
      cases hrepeats with
      | nil => exact ⟨rfl, rfl, rfl⟩
  | succ bound ih =>
    intro input o
    have hmore := (h.nonempty.seq ih) input o
    rw [Regex.further, List.mem_append, hmore, List.mem_singleton]
    constructor
    · rintro
        (⟨hinput, first, second, groups₁, groups₂, ⟨hfirst, hne⟩, ⟨more, hle, hsecond⟩, htaken, hgroups⟩
        | rfl)
      · refine ⟨hinput, more + 1, Nat.succ_le_succ hle, ?_⟩
        rw [htaken, hgroups]
        exact .may hfirst hne hsecond
      · exact ⟨rfl, 0, Nat.zero_le _, .nil⟩
    · obtain ⟨taken, groups, rest⟩ := o
      rintro ⟨rfl, more, hle, hrepeats⟩
      cases hrepeats with
      | nil => exact Or.inr rfl
      | may hfirst hne hsecond =>
        exact Or.inl ⟨rfl, _, _, _, _, ⟨hfirst, hne⟩, ⟨_, Nat.le_of_succ_le_succ hle, hsecond⟩, rfl, rfl⟩

theorem Finds.iterate (h : Finds search matched) (min bound : ℕ) :
    Finds (Regex.iterate search bound min) fun text groups ↦
      ∃ more ≤ bound, Repeats matched min more text groups := by
  induction min with
  | zero => exact h.further bound
  | succ min ih =>
    intro input o
    rw [Regex.iterate, (h.seq ih) input o]
    refine and_congr_right fun _ ↦ ?_
    constructor
    · rintro ⟨first, second, groups₁, groups₂, hfirst, ⟨more, hle, hsecond⟩, htaken, hgroups⟩
      rw [htaken, hgroups]
      exact ⟨more, hle, .must hfirst hsecond⟩
    · obtain ⟨taken, groups, rest⟩ := o
      rintro ⟨more, hle, hrepeats⟩
      cases hrepeats with
      | must hfirst hsecond => exact ⟨_, _, _, _, hfirst, ⟨more, hle, hsecond⟩, rfl, rfl⟩

end Finding

/-- The matcher finds exactly the matches of the expression. -/
theorem finds_outcomes (r : Expr α) : Finds (outcomes r) (Matches r) := by
  induction r with
  | empty =>
    rintro input ⟨taken, groups, rest⟩
    simp only [outcomes, Matches, List.mem_singleton, Outcome.mk.injEq]
    grind
  | one p =>
    rintro input ⟨taken, groups, rest⟩
    cases input with
    | nil => simp only [outcomes, Matches]; grind
    | cons c tail =>
      simp only [outcomes, Matches]
      split_ifs with hp <;> grind
  | seq r s ihr ihs => exact ihr.seq ihs
  | alt r s ihr ihs =>
    intro input o
    rw [outcomes, List.mem_append, ihr, ihs, Matches, and_or_left]
  | repeated r min more ih =>
    intro input o
    rw [outcomes, (ih.iterate min (more.getD input.length)) input o, Matches]
    refine and_congr_right fun hinput ↦ exists_congr fun times ↦ and_congr_left fun hrepeats ↦ ?_
    cases more with
    | none =>
      have hle := hrepeats.le_length
      simp [hinput]
      omega
    | some bound => simp
  | group number r ih =>
    rintro input ⟨taken, groups, rest⟩
    simp only [outcomes, List.mem_map, Matches]
    constructor
    · rintro ⟨o, ho, heq⟩
      obtain ⟨hinput, hmatched⟩ := (ih _ _).mp ho
      obtain ⟨rfl, rfl, rfl⟩ := Outcome.mk.injEq .. ▸ heq
      exact ⟨hinput, _, hmatched, rfl⟩
    · rintro ⟨hinput, inner, hmatched, rfl⟩
      exact ⟨⟨taken, inner, rest⟩, (ih _ _).mpr ⟨hinput, hmatched⟩, rfl⟩

variable {r : Expr α} {input : List α} {groups : Groups α}

theorem matches_of_matchWhole (h : matchWhole r input = some groups) : Matches r input groups := by
  obtain ⟨o, hfind, rfl⟩ := Option.map_eq_some_iff.mp h
  obtain ⟨hinput, hmatches⟩ := (finds_outcomes r _ _).mp (List.mem_of_find?_eq_some hfind)
  have hrest := List.find?_some hfind
  rw [decide_eq_true_eq] at hrest
  rw [hinput, hrest, List.append_nil]
  exact hmatches

theorem matchWhole_eq_none_iff : matchWhole r input = none ↔ ∀ groups, ¬Matches r input groups := by
  rw [matchWhole, Option.map_eq_none_iff, List.find?_eq_none]
  constructor
  · intro hnone groups hmatches
    have hmem := (finds_outcomes r input ⟨input, groups, []⟩).mpr ⟨(List.append_nil _).symm, hmatches⟩
    exact hnone _ hmem (decide_eq_true rfl)
  · rintro hnone o ho hrest
    obtain ⟨hinput, hmatches⟩ := (finds_outcomes r _ _).mp ho
    rw [of_decide_eq_true hrest, List.append_nil] at hinput
    exact hnone o.groups (hinput ▸ hmatches)

end Regex
