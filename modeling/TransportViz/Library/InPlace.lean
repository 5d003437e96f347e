import Mathlib.Data.List.Basic
import Mathlib.Data.List.Induction
import Mathlib.Data.List.Perm.Basic

/-!
# Rewriting a list in place

A list is rewritten from left to right, and every element may look at the whole list as it is at that
moment: rewritten before its own place, original from there on. `rewriteAll` is that walk for a rule
that asks one question of the elements of its own group: is every one of them flagged?

An element that gives up its flag when the answer is yes is *contested*. `rewriteAll_eq_outcomes`
removes the walk: the answer is yes for an element exactly when its group is flagged in the original
list and no contested element of the group comes before it. So the result depends on the order only
through the contested elements, and not at all when no group has two of them
(`rewriteAll_eq_map`).
-/

universe u v

namespace InPlace

variable {α : Type u} {κ : Type v} [DecidableEq κ]

/-- Every element of the group is flagged. -/
def groupFlagged (key : α → κ) (flag : α → Bool) (k : κ) (list : List α) : Bool :=
  list.all fun a ↦ key a ≠ k || flag a

/-- The walk: `done` is rewritten, the rest is not. -/
def rewriteAll (key : α → κ) (flag : α → Bool) (rule : Bool → α → α) (done : List α) :
    List α → List α
  | [] => done
  | a :: rest =>
      rewriteAll key flag rule
        (done ++ [rule (groupFlagged key flag (key a) (done ++ a :: rest)) a]) rest

/-- No contested element of the group. -/
def groupQuiet (key : α → κ) (contested : α → Bool) (k : κ) (list : List α) : Bool :=
  list.all fun a ↦ key a ≠ k || !contested a

/-- The same result without the walk: `before` holds the original elements already passed. -/
def outcomes (key : α → κ) (flag contested : α → Bool) (rule : Bool → α → α) (whole before : List α) :
    List α → List α
  | [] => []
  | a :: rest =>
      rule (groupFlagged key flag (key a) whole && groupQuiet key contested (key a) before) a ::
        outcomes key flag contested rule whole (before ++ [a]) rest

/-- A rule that stays within its group, and drops a flag exactly for a contested element whose group
is flagged. -/
structure IsRule (key : α → κ) (flag contested : α → Bool) (rule : Bool → α → α) (a : α) : Prop where
  key_eq : ∀ ok, key (rule ok a) = key a
  flag_false : flag (rule false a) = flag a
  flag_true : flag (rule true a) = (flag a && !contested a)

section Walk

variable {key : α → κ} {flag contested : α → Bool} {rule : Bool → α → α}

@[simp]
theorem groupFlagged_append (k : κ) (first second : List α) :
    groupFlagged key flag k (first ++ second) =
      (groupFlagged key flag k first && groupFlagged key flag k second) := List.all_append

@[simp]
theorem groupQuiet_append (k : κ) (first second : List α) :
    groupQuiet key contested k (first ++ second) =
      (groupQuiet key contested k first && groupQuiet key contested k second) := List.all_append

theorem groupFlagged_perm {k : κ} {first second : List α} (h : first.Perm second) :
    groupFlagged key flag k first = groupFlagged key flag k second := h.all_eq

theorem groupFlagged_iff (k : κ) (list : List α) :
    groupFlagged key flag k list = true ↔ ∀ a ∈ list, key a = k → flag a = true := by
  simp only [groupFlagged, List.all_eq_true, Bool.or_eq_true, decide_eq_true_eq, ne_eq,
    or_iff_not_imp_left, not_not]

theorem outcomes_append_singleton (whole before list : List α) (a : α) :
    outcomes key flag contested rule whole before (list ++ [a]) =
      outcomes key flag contested rule whole before list ++
        [rule (groupFlagged key flag (key a) whole &&
          groupQuiet key contested (key a) (before ++ list)) a] := by
  induction list generalizing before with
  | nil => simp [outcomes]
  | cons head rest ih => simp [outcomes, ih]

/-- A rewritten group has lost its flags exactly when a contested element of it was passed. -/
theorem groupFlagged_outcomes (whole passed : List α)
    (hrule : ∀ a ∈ passed, IsRule key flag contested rule a) (k : κ) :
    groupFlagged key flag k (outcomes key flag contested rule whole [] passed) =
      (groupFlagged key flag k passed &&
        (!groupFlagged key flag k whole || groupQuiet key contested k passed)) := by
  induction passed using List.reverseRecOn with
  | nil => simp [outcomes, groupFlagged, groupQuiet]
  | append_singleton passed a ih =>
    have ha := hrule a (by simp)
    rw [outcomes_append_singleton, List.nil_append, groupFlagged_append, groupFlagged_append,
      groupQuiet_append, ih fun b hb ↦ hrule b (List.mem_append_left _ hb)]
    by_cases hkey : key a = k
    · subst hkey
      simp only [groupFlagged, groupQuiet, List.all_cons, List.all_nil, ha.key_eq, ne_eq,
        not_true_eq_false, decide_false, Bool.false_or, Bool.and_true]
      generalize whole.all (fun b ↦ (decide ¬key b = key a) || flag b) = whole
      generalize passed.all (fun b ↦ (decide ¬key b = key a) || !contested b) = quiet
      cases whole <;> cases quiet <;> cases hcontested : contested a <;>
        simp [ha.flag_false, ha.flag_true, hcontested]
    · simp [groupFlagged, groupQuiet, ha.key_eq, hkey]

theorem rewriteAll_append_eq (passed rest : List α)
    (hrule : ∀ a ∈ passed ++ rest, IsRule key flag contested rule a) :
    rewriteAll key flag rule (outcomes key flag contested rule (passed ++ rest) [] passed) rest =
      outcomes key flag contested rule (passed ++ rest) [] (passed ++ rest) := by
  induction rest generalizing passed with
  | nil => simp [rewriteAll]
  | cons a rest ih =>
    have hpassed := groupFlagged_outcomes (passed ++ a :: rest) passed
      (fun b hb ↦ hrule b (List.mem_append_left _ hb)) (key a)
    have hasked : groupFlagged key flag (key a)
          (outcomes key flag contested rule (passed ++ a :: rest) [] passed ++ a :: rest) =
        (groupFlagged key flag (key a) (passed ++ a :: rest) &&
          groupQuiet key contested (key a) passed) := by
      rw [groupFlagged_append, hpassed, groupFlagged_append]
      cases groupFlagged key flag (key a) passed <;>
        cases groupFlagged key flag (key a) (a :: rest) <;>
        cases groupQuiet key contested (key a) passed <;> rfl
    have hstep := ih (passed ++ [a]) (by simpa using hrule)
    rw [outcomes_append_singleton, List.nil_append] at hstep
    rw [rewriteAll, hasked]
    simpa using hstep

/-- The walk is gone: what an element is asked depends on the original list alone. -/
theorem rewriteAll_eq_outcomes (list : List α)
    (hrule : ∀ a ∈ list, IsRule key flag contested rule a) :
    rewriteAll key flag rule [] list = outcomes key flag contested rule list [] list :=
  rewriteAll_append_eq [] list hrule

end Walk

section Order

variable {key : α → κ} {flag contested : α → Bool} {rule : Bool → α → α}

/-- At every place stands the rule's answer to the group of the original list. -/
theorem outcomes_eq_append (whole before first second : List α) (a : α) :
    outcomes key flag contested rule whole before (first ++ a :: second) =
      outcomes key flag contested rule whole before first ++
        rule (groupFlagged key flag (key a) whole &&
          groupQuiet key contested (key a) (before ++ first)) a ::
          outcomes key flag contested rule whole (before ++ first ++ [a]) second := by
  induction first generalizing before with
  | nil => simp [outcomes]
  | cons head rest ih => simp [outcomes, ih]

/-- Every element is rewritten in its place, and was only told yes for a flagged group. -/
theorem forall₂_outcomes (whole before list : List α) :
    List.Forall₂
      (fun a b ↦ ∃ ok, b = rule ok a ∧ (ok = true → groupFlagged key flag (key a) whole = true))
      list (outcomes key flag contested rule whole before list) := by
  induction list generalizing before with
  | nil => exact .nil
  | cons a rest ih =>
    exact .cons ⟨_, rfl, fun hok ↦ (Bool.and_eq_true _ _ ▸ hok).1⟩ (ih _)

/-- A flagged group with a contested element has one that is told yes: its first. -/
theorem exists_told_contested (rule : Bool → α → α) (list : List α) (a : α) (ha : a ∈ list)
    (hflagged : groupFlagged key flag (key a) list = true) (hcontested : contested a = true) :
    ∃ b ∈ list, key b = key a ∧ contested b = true ∧
      rule true b ∈ outcomes key flag contested rule list [] list := by
  have hsome : (list.find? fun b ↦ key b = key a ∧ contested b = true).isSome = true :=
    List.find?_isSome.mpr ⟨a, ha, by simp [hcontested]⟩
  obtain ⟨b, hb⟩ := Option.isSome_iff_exists.mp hsome
  obtain ⟨hfound, before, after, hlist, hbefore⟩ := List.find?_eq_some_iff_append.mp hb
  simp only [decide_eq_true_eq] at hfound
  have hquiet : groupQuiet key contested (key b) before = true := by
    rw [groupQuiet, List.all_eq_true]
    intro c hc
    have hnot := hbefore c hc
    rw [← hfound.1] at hnot
    by_cases hkey : key c = key b <;> simp_all
  refine ⟨b, by simp [hlist], hfound.1, hfound.2, ?_⟩
  have hmem : rule true b ∈ outcomes key flag contested rule list [] (before ++ b :: after) := by
    rw [outcomes_eq_append, List.nil_append, hquiet, hfound.1, hflagged]
    simp
  rwa [← hlist] at hmem

/-- Two contested elements of one flagged group. -/
def Rivals (key : α → κ) (flag contested : α → Bool) (list : List α) (a b : α) : Prop :=
  key a = key b ∧ groupFlagged key flag (key a) list = true ∧ contested a = true ∧
    contested b = true

theorem outcomes_eq_map (whole before list : List α)
    (hquiet : ∀ a ∈ list, ∀ b ∈ before ++ list, key b = key a → contested b = true →
      contested a = false → rule true a = rule false a)
    (hbefore : ∀ a ∈ list, ∀ b ∈ before, ¬Rivals key flag contested whole b a)
    (hlist : list.Pairwise fun a b ↦ ¬Rivals key flag contested whole a b) :
    outcomes key flag contested rule whole before list =
      list.map fun a ↦ rule (groupFlagged key flag (key a) whole) a := by
  induction list generalizing before with
  | nil => rfl
  | cons a rest ih =>
    obtain ⟨hfirst, hrest⟩ := List.pairwise_cons.mp hlist
    have hhead : rule (groupFlagged key flag (key a) whole &&
        groupQuiet key contested (key a) before) a =
          rule (groupFlagged key flag (key a) whole) a := by
      cases hflagged : groupFlagged key flag (key a) whole with
      | false => rfl
      | true =>
        cases hpassed : groupQuiet key contested (key a) before with
        | true => rfl
        | false =>
          obtain ⟨b, hb, hcontested⟩ : ∃ b ∈ before, key b = key a ∧ contested b = true := by
            simpa [groupQuiet] using hpassed
          have hown : contested a = false := by
            by_contra hcontra
            exact hbefore a (List.mem_cons_self ..) b hb
              ⟨hcontested.1, hcontested.1 ▸ hflagged, hcontested.2, by simpa using hcontra⟩
          exact (hquiet a (List.mem_cons_self ..) b (List.mem_append_left _ hb) hcontested.1
            hcontested.2 hown).symm
    rw [outcomes, hhead, List.map_cons, ih (before ++ [a])]
    · intro c hc b hb
      exact hquiet c (List.mem_cons_of_mem _ hc) b (by simpa using hb)
    · intro c hc b hb
      rcases List.mem_append.mp hb with hb | hb
      · exact hbefore c (List.mem_cons_of_mem _ hc) b hb
      · rw [List.mem_singleton.mp hb]
        exact hfirst c hc
    · exact hrest

/-- Without rivals every element gets the answer of the original list, whatever the order. -/
theorem rewriteAll_eq_map (list : List α)
    (hrule : ∀ a ∈ list, IsRule key flag contested rule a)
    (hquiet : ∀ a ∈ list, ∀ b ∈ list, key b = key a → contested b = true →
      contested a = false → rule true a = rule false a)
    (hlist : list.Pairwise fun a b ↦ ¬Rivals key flag contested list a b) :
    rewriteAll key flag rule [] list =
      list.map fun a ↦ rule (groupFlagged key flag (key a) list) a := by
  rw [rewriteAll_eq_outcomes list hrule]
  exact outcomes_eq_map list [] list (by simpa using hquiet) (by simp) hlist

end Order

end InPlace
