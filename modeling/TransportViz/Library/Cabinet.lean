import Mathlib.Data.List.Basic
import Mathlib.Data.List.Dedup
import Mathlib.Data.List.Forall2
import Mathlib.Data.List.Induction
import Mathlib.Data.List.Pairwise
import TransportViz.Library.OrderedMap

/-!
# Rows opened through an index

Items are filed one by one. An item with a label goes into the row of that label, which the first
such item opens; an item without a label gets a row of its own. A program finds the rows through an
index from labels to places. `drawers` says what its rows stand for: every item lies in exactly one
drawer, a drawer with a label holds all the items of that label, in the order they came.
-/

universe u v w

/-- Rows and the places of the labelled ones. -/
structure Cabinet (κ : Type v) (ρ : Type w) [LinearOrder κ] where
  rows : List ρ := []
  index : OrderedMap κ ℕ := .empty

namespace Cabinet

variable {α : Type u} {κ : Type v} {ρ : Type w} [LinearOrder κ]

/-- The place of the row under `key`; a missing row is put at the end. -/
def rowFor (cabinet : Cabinet κ ρ) (key : κ) (fresh : ρ) : Cabinet κ ρ × ℕ :=
  match cabinet.index.find? key with
  | some place => (cabinet, place)
  | none =>
      ({ rows := cabinet.rows ++ [fresh], index := cabinet.index.set key cabinet.rows.length },
        cabinet.rows.length)

def edit (cabinet : Cabinet κ ρ) (place : ℕ) (f : ρ → ρ) : Cabinet κ ρ :=
  { cabinet with rows := cabinet.rows.modify place f }

def append (cabinet : Cabinet κ ρ) (row : ρ) : Cabinet κ ρ :=
  { cabinet with rows := cabinet.rows ++ [row] }

/-- An item is added to the row of its label, or to a new one. -/
def file (label : α → Option κ) (start : α → ρ) (add : ρ → α → ρ) (cabinet : Cabinet κ ρ) (a : α) :
    Cabinet κ ρ :=
  match label a with
  | none => cabinet.append (add (start a) a)
  | some key =>
      let found := cabinet.rowFor key (start a)
      found.1.edit found.2 (add · a)

/-! ## What the rows stand for -/

/-- The items of one row, in the order they came. -/
structure Drawer (α : Type u) where
  first : α
  rest : List α := []

namespace Drawer

def items (drawer : Drawer α) : List α := drawer.first :: drawer.rest

def push (drawer : Drawer α) (a : α) : Drawer α := { drawer with rest := drawer.rest ++ [a] }

def row (start : α → ρ) (add : ρ → α → ρ) (drawer : Drawer α) : ρ :=
  drawer.items.foldl add (start drawer.first)

@[simp]
theorem first_push (drawer : Drawer α) (a : α) : (drawer.push a).first = drawer.first := rfl

@[simp]
theorem items_push (drawer : Drawer α) (a : α) : (drawer.push a).items = drawer.items ++ [a] := rfl

@[simp]
theorem row_push (start : α → ρ) (add : ρ → α → ρ) (drawer : Drawer α) (a : α) :
    (drawer.push a).row start add = add (drawer.row start add) a := by
  simp [row]

theorem first_mem_items (drawer : Drawer α) : drawer.first ∈ drawer.items :=
  List.mem_cons_self ..

end Drawer

def put (label : α → Option κ) (drawers : List (Drawer α)) (a : α) : List (Drawer α) :=
  match drawers.findIdx? fun drawer ↦ (label a).isSome ∧ label drawer.first = label a with
  | some place => drawers.modify place (·.push a)
  | none => drawers ++ [{ first := a }]

def drawers (label : α → Option κ) (items : List α) : List (Drawer α) := items.foldl (put label) []

/-- An item opens a drawer when it has no label or a new one; else it joins the drawer of its
label. -/
theorem put_cases (label : α → Option κ) (drawers : List (Drawer α)) (a : α) :
    ((∀ drawer ∈ drawers, ∀ key, label a = some key → label drawer.first ≠ some key) ∧
        put label drawers a = drawers ++ [{ first := a }]) ∨
      ∃ before drawer after key, drawers = before ++ drawer :: after ∧ label a = some key ∧
        label drawer.first = some key ∧ put label drawers a = before ++ drawer.push a :: after := by
  cases hfound : drawers.findIdx? fun drawer ↦ (label a).isSome ∧ label drawer.first = label a with
  | none =>
    left
    constructor
    · intro drawer hdrawer key hkey hfirst
      have hnot := List.findIdx?_eq_none_iff.mp hfound drawer hdrawer
      simp [hkey, hfirst] at hnot
    · simp only [put, hfound]
  | some place =>
    right
    obtain ⟨hlt, hplace, -⟩ := List.findIdx?_eq_some_iff_getElem.mp hfound
    simp only [decide_eq_true_eq] at hplace
    obtain ⟨key, hkey⟩ := Option.isSome_iff_exists.mp hplace.1
    refine ⟨drawers.take place, drawers[place], drawers.drop (place + 1), key, ?_, hkey,
      hplace.2.trans hkey, ?_⟩
    · rw [List.getElem_cons_drop, List.take_append_drop]
    · simp only [put, hfound]
      rw [List.modify_eq_take_cons_drop hlt]

/-- The rows are those of the drawers, and the index finds them. -/
def Represents (label : α → Option κ) (start : α → ρ) (add : ρ → α → ρ) (cabinet : Cabinet κ ρ)
    (drawers : List (Drawer α)) : Prop :=
  cabinet.rows = drawers.map (·.row start add) ∧
    ∀ key, cabinet.index.find? key = drawers.findIdx? fun drawer ↦ label drawer.first = some key


variable {label : α → Option κ} {start : α → ρ} {add : ρ → α → ρ}

theorem put_none (drawers : List (Drawer α)) (a : α) (h : label a = none) :
    put label drawers a = drawers ++ [{ first := a }] := by
  have hnot : (drawers.findIdx? fun drawer ↦ (label a).isSome ∧ label drawer.first = label a) =
      none := by
    apply List.findIdx?_eq_none_iff.mpr
    intro drawer _
    simp [h]
  simp only [put, hnot]

theorem modify_length_append (rows : List ρ) (last : ρ) (f : ρ → ρ) :
    (rows ++ [last]).modify rows.length f = rows ++ [f last] := by
  induction rows with
  | nil => rfl
  | cons head rest ih => simp [ih]

theorem findIdx?_modify_push (drawers : List (Drawer α)) (place : ℕ) (a : α) (key : κ) :
    ((drawers.modify place (·.push a)).findIdx? fun drawer ↦ label drawer.first = some key) =
      drawers.findIdx? fun drawer ↦ label drawer.first = some key := by
  induction drawers generalizing place with
  | nil => simp
  | cons head rest ih =>
    cases place with
    | zero => by_cases h : label head.first = some key <;> simp [List.findIdx?_cons, h]
    | succ place => simp [List.findIdx?_cons, ih]

theorem Represents.file {cabinet : Cabinet κ ρ} {drawers : List (Drawer α)}
    (h : Represents label start add cabinet drawers) (a : α) :
    Represents label start add (cabinet.file label start add a) (put label drawers a) := by
  obtain ⟨hrows, hindex⟩ := h
  cases hkey : label a with
  | none =>
    rw [put_none drawers a hkey]
    constructor
    · simp [Cabinet.file, hkey, append, hrows, Drawer.row, Drawer.items]
    · intro key
      simp [Cabinet.file, hkey, append, hindex, List.findIdx?_append]
  | some key =>
    cases hfound : drawers.findIdx? fun drawer ↦ label drawer.first = some key with
    | some place =>
      have hput : put label drawers a = drawers.modify place (·.push a) := by
        simp [put, hkey, hfound]
      rw [hput]
      constructor
      · simp only [Cabinet.file, hkey, rowFor, hindex, hfound, edit, hrows]
        apply List.ext_getElem?
        intro i
        simp only [List.getElem?_modify, List.getElem?_map]
        cases drawers[i]? <;> by_cases hi : place = i <;> simp [hi]
      · intro other
        simp only [Cabinet.file, hkey, rowFor, hindex, hfound, edit]
        rw [findIdx?_modify_push]
    | none =>
      have hput : put label drawers a = drawers ++ [{ first := a }] := by
        simp [put, hkey, hfound]
      have hlength : cabinet.rows.length = drawers.length := by simp [hrows]
      rw [hput]
      constructor
      · simp only [Cabinet.file, hkey, rowFor, hindex, hfound, edit]
        rw [modify_length_append, hrows]
        simp [Drawer.row, Drawer.items]
      · intro other
        simp only [Cabinet.file, hkey, rowFor, hindex, hfound, edit, OrderedMap.find?_set,
          List.findIdx?_append, hlength]
        by_cases hother : other = key
        · simp [hother, hfound, hkey]
        · simp [hother, hkey, Ne.symm hother]

/-- The rows found through the index are the rows of the drawers. -/
theorem rows_foldl_file (items : List α) :
    (items.foldl (file label start add) {}).rows = (drawers label items).map (·.row start add) := by
  have hrun : ∀ (cabinet : Cabinet κ ρ) (ds : List (Drawer α)),
      Represents label start add cabinet ds →
        Represents label start add (items.foldl (file label start add) cabinet)
          (items.foldl (put label) ds) := by
    induction items with
    | nil => exact fun _ _ h ↦ h
    | cons a rest ih => exact fun cabinet ds h ↦ ih _ _ (h.file a)
  exact (hrun {} [] ⟨rfl, fun key ↦ rfl⟩).1

/-! ## Conservation -/

theorem drawers_append_singleton (items : List α) (a : α) :
    drawers label (items ++ [a]) = put label (drawers label items) a := by
  rw [drawers, List.foldl_append, List.foldl_cons, List.foldl_nil, drawers]

/-- Filing neither loses nor duplicates an item. -/
theorem perm_flatMap_drawers (items : List α) :
    ((drawers label items).flatMap Drawer.items).Perm items := by
  induction items using List.reverseRecOn with
  | nil => exact .nil
  | append_singleton items a ih =>
    rw [drawers_append_singleton]
    rcases put_cases label (drawers label items) a with
      ⟨-, hput⟩ | ⟨before, drawer, after, -, hsplit, -, -, hput⟩
    · rw [hput, List.flatMap_append]
      exact ih.append_right _
    · rw [hsplit] at ih
      rw [hput]
      simp only [List.flatMap_append, List.flatMap_cons, Drawer.items_push] at ih ⊢
      calc
        _ = before.flatMap Drawer.items ++ (drawer.items ++
              ([a] ++ after.flatMap Drawer.items)) := by simp
        _ |>.Perm (before.flatMap Drawer.items ++ (drawer.items ++
              (after.flatMap Drawer.items ++ [a]))) :=
          ((List.perm_append_comm.append_left _).append_left _)
        _ |>.Perm (items ++ [a]) := by simpa using ih.append_right [a]

/-- What holds of a drawer with one item, and stays true as items of its label come in, holds of
every drawer. -/
theorem mem_drawers_induction {P : Drawer α → Prop} (hfresh : ∀ a, P { first := a })
    (hpush : ∀ drawer a key, label a = some key → label drawer.first = some key → P drawer →
      P (drawer.push a)) {items : List α} : ∀ drawer ∈ drawers label items, P drawer := by
  induction items using List.reverseRecOn with
  | nil => exact fun _ hdrawer ↦ nomatch hdrawer
  | append_singleton items a ih =>
    rw [drawers_append_singleton]
    rcases put_cases label (drawers label items) a with
      ⟨-, hput⟩ | ⟨before, grown, after, key, hsplit, ha, hgrown, hput⟩
    · rw [hput]
      intro drawer hdrawer
      rcases List.mem_append.mp hdrawer with hdrawer | hdrawer
      · exact ih drawer hdrawer
      · rw [List.mem_singleton.mp hdrawer]
        exact hfresh a
    · rw [hsplit] at ih
      rw [hput]
      intro drawer hdrawer
      rw [List.mem_append, List.mem_cons] at hdrawer
      rcases hdrawer with hdrawer | rfl | hdrawer
      · exact ih drawer (by simp [hdrawer])
      · exact hpush grown a key ha hgrown (ih grown (by simp))
      · exact ih drawer (by simp [hdrawer])

/-- The items of a drawer carry its label. -/
theorem label_of_mem_drawers {items : List α} :
    ∀ drawer ∈ drawers label items, ∀ a ∈ drawer.items, label a = label drawer.first := by
  apply mem_drawers_induction
  · intro a b hb
    rw [List.mem_singleton.mp hb]
  · intro drawer a key ha hfirst ih b hb
    rw [Drawer.items_push, List.mem_append] at hb
    rcases hb with hb | hb
    · exact ih b hb
    · rw [List.mem_singleton.mp hb, ha, Drawer.first_push, hfirst]

/-- An item without a label is alone. -/
theorem rest_of_label_eq_none {items : List α} :
    ∀ drawer ∈ drawers label items, label drawer.first = none → drawer.rest = [] := by
  apply mem_drawers_induction
  · exact fun _ _ ↦ rfl
  · intro drawer a key _ hfirst _ hnone
    rw [Drawer.first_push, hfirst] at hnone
    cases hnone

/-- Two drawers never carry one label. -/
theorem nodup_labels (label : α → Option κ) (items : List α) :
    ((drawers label items).filterMap fun drawer ↦ label drawer.first).Nodup := by
  induction items using List.reverseRecOn with
  | nil => exact List.nodup_nil
  | append_singleton items a ih =>
    rw [drawers_append_singleton]
    rcases put_cases label (drawers label items) a with
      ⟨hnew, hput⟩ | ⟨before, drawer, after, key, hsplit, -, -, hput⟩
    · rw [hput, List.filterMap_append]
      refine ih.append ?_ ?_
      · cases hkey : label a <;> simp [hkey]
      · intro key hkey hlast
        obtain ⟨drawer, hdrawer, hfirst⟩ := List.mem_filterMap.mp hkey
        have ha : label a = some key := by simpa using hlast
        exact hnew drawer hdrawer key ha hfirst
    · rw [hsplit] at ih
      rw [hput]
      simp only [List.filterMap_append, List.filterMap_cons, Drawer.first_push] at ih ⊢
      exact ih

theorem eq_of_label_eq {items : List α} {first second : Drawer α}
    (hfirst : first ∈ drawers label items) (hsecond : second ∈ drawers label items) {key : κ}
    (hkey : label first.first = some key) (hsame : label second.first = some key) :
    first = second := by
  by_contra hne
  have hpairwise := List.pairwise_filterMap.mp (nodup_labels label items)
  have hsymm : Std.Symm fun d e : Drawer α ↦
      ∀ b, label d.first = some b → ∀ c, label e.first = some c → b ≠ c :=
    ⟨fun d e h b hb c hc ↦ (h c hc b hb).symm⟩
  exact hpairwise.forall hfirst hsecond hne key hkey key hsame rfl

theorem exists_drawer_of_mem (label : α → Option κ) {items : List α} {a : α} (ha : a ∈ items) :
    ∃ drawer ∈ drawers label items, a ∈ drawer.items :=
  List.mem_flatMap.mp ((perm_flatMap_drawers items).mem_iff.mpr ha)

theorem mem_of_mem_drawer {items : List α} {drawer : Drawer α}
    (hdrawer : drawer ∈ drawers label items) {a : α} (ha : a ∈ drawer.items) : a ∈ items :=
  (perm_flatMap_drawers items).mem_iff.mp (List.mem_flatMap.mpr ⟨drawer, hdrawer, ha⟩)

/-- The labels of the drawers are those of the items, each once. -/
theorem perm_labels (items : List α) :
    ((drawers label items).filterMap fun drawer ↦ label drawer.first).Perm
      (items.filterMap label).dedup := by
  apply (List.perm_ext_iff_of_nodup (nodup_labels label items) (List.nodup_dedup _)).mpr
  intro key
  rw [List.mem_dedup, List.mem_filterMap, List.mem_filterMap]
  constructor
  · rintro ⟨drawer, hdrawer, hkey⟩
    exact ⟨drawer.first, mem_of_mem_drawer hdrawer drawer.first_mem_items, hkey⟩
  · rintro ⟨a, ha, hkey⟩
    obtain ⟨drawer, hdrawer, hmem⟩ := exists_drawer_of_mem label ha
    exact ⟨drawer, hdrawer, (label_of_mem_drawers drawer hdrawer a hmem).symm.trans hkey⟩

/-- The items without a label, each in a drawer of its own. -/
theorem perm_unlabelled (items : List α) :
    (((drawers label items).filter fun drawer ↦ (label drawer.first).isNone).map Drawer.first).Perm
      (items.filter fun a ↦ (label a).isNone) := by
  have hflat : ∀ ds ⊆ drawers label items,
      (ds.flatMap Drawer.items).filter (fun a ↦ (label a).isNone) =
        (ds.filter fun drawer ↦ (label drawer.first).isNone).map Drawer.first := by
    intro ds hds
    induction ds with
    | nil => rfl
    | cons drawer rest ih =>
      obtain ⟨hdrawer, hrest⟩ := List.cons_subset.mp hds
      rw [List.flatMap_cons, List.filter_append, ih hrest]
      cases hkey : label drawer.first with
      | none => simp [Drawer.items, rest_of_label_eq_none drawer hdrawer hkey, hkey]
      | some key =>
        have hnone : drawer.items.filter (fun a ↦ (label a).isNone) = [] := by
          apply List.filter_eq_nil_iff.mpr
          intro a ha
          simp [label_of_mem_drawers drawer hdrawer a ha, hkey]
        simp [hnone, hkey]
  rw [← hflat _ (List.Subset.refl _)]
  exact (perm_flatMap_drawers items).filter _

/-- A drawer with a label holds all the items of that label, in the order they came. -/
theorem items_eq_filter {items : List α} {drawer : Drawer α} (hdrawer : drawer ∈ drawers label items)
    {key : κ} (hkey : label drawer.first = some key) :
    drawer.items = items.filter fun a ↦ label a = some key := by
  induction items using List.reverseRecOn generalizing drawer with
  | nil => cases hdrawer
  | append_singleton items a ih =>
    have hunique := fun other (hother : other ∈ drawers label (items ++ [a])) hsame ↦
      eq_of_label_eq hdrawer hother hkey hsame
    rw [drawers_append_singleton] at hdrawer hunique
    rw [List.filter_append]
    rcases put_cases label (drawers label items) a with
      ⟨hnew, hput⟩ | ⟨before, grown, after, other, hsplit, ha, hgrown, hput⟩
    · rw [hput, List.mem_append, List.mem_singleton] at hdrawer
      rcases hdrawer with hdrawer | rfl
      · have hne : label a ≠ some key := fun ha ↦ hnew drawer hdrawer key ha hkey
        rw [ih hdrawer hkey]
        simp [hne]
      · have hnone : (items.filter fun b ↦ label b = some key) = [] := by
          apply List.filter_eq_nil_iff.mpr
          intro b hb hsame
          obtain ⟨held, hheld, hmem⟩ := exists_drawer_of_mem label hb
          exact hnew held hheld key hkey ((label_of_mem_drawers held hheld b hmem).symm.trans
            (of_decide_eq_true hsame))
        have hlast : label a = some key := hkey
        rw [hnone]
        simp [Drawer.items, hlast]
    · rw [hput] at hdrawer hunique
      by_cases hsame : other = key
      · subst hsame
        rw [hunique (grown.push a) (by simp) hgrown, Drawer.items_push,
          ih (by rw [hsplit]; simp) hgrown]
        simp [ha]
      · have hne : label a ≠ some key := fun hlabel ↦ hsame (Option.some.inj (ha.symm.trans hlabel))
        have hold : drawer ∈ drawers label items := by
          rw [List.mem_append, List.mem_cons] at hdrawer
          rw [hsplit]
          rcases hdrawer with hdrawer | rfl | hdrawer
          · simp [hdrawer]
          · exact absurd (Option.some.inj (hgrown.symm.trans hkey)) hsame
          · simp [hdrawer]
        rw [ih hold hkey]
        simp [hne]

/-! ## Renamed items -/

/-- The drawer of the renamed items. -/
def Drawer.map {β : Type*} (g : α → β) (drawer : Drawer α) : Drawer β where
  first := g drawer.first
  rest := drawer.rest.map g

section Map

variable {β : Type*} (g : α → β)

@[simp]
theorem Drawer.items_map (drawer : Drawer α) : (drawer.map g).items = drawer.items.map g := rfl

@[simp]
theorem Drawer.first_map (drawer : Drawer α) : (drawer.map g).first = g drawer.first := rfl

theorem findIdx?_congr {γ : Type*} {p q : γ → Bool} {l : List γ} (h : ∀ a ∈ l, p a = q a) :
    l.findIdx? p = l.findIdx? q := by
  induction l with
  | nil => rfl
  | cons a rest ih =>
    rw [List.findIdx?_cons, List.findIdx?_cons, h a (List.mem_cons_self ..),
      ih fun b hb ↦ h b (List.mem_cons_of_mem a hb)]

theorem put_map (label : α → Option κ) (label' : β → Option κ) {drawers : List (Drawer α)} {a : α}
    (ha : label' (g a) = label a)
    (h : ∀ drawer ∈ drawers, label' (g drawer.first) = label drawer.first) :
    put label' (drawers.map (Drawer.map g)) (g a) = (put label drawers a).map (Drawer.map g) := by
  have hplace : ((drawers.map (Drawer.map g)).findIdx? fun drawer ↦
      (label' (g a)).isSome ∧ label' drawer.first = label' (g a)) =
        drawers.findIdx? fun drawer ↦ (label a).isSome ∧ label drawer.first = label a := by
    rw [List.findIdx?_map]
    apply findIdx?_congr
    intro drawer hdrawer
    simp only [Function.comp_apply, Drawer.first_map, ha, h drawer hdrawer]
  unfold put
  rw [hplace]
  cases drawers.findIdx? fun drawer ↦ (label a).isSome ∧ label drawer.first = label a with
  | none => simp [Drawer.map]
  | some place =>
    apply List.ext_getElem?
    intro other
    simp only [List.getElem?_modify, List.getElem?_map]
    cases drawers[other]? with
    | none => rfl
    | some drawer => by_cases hother : place = other <;> simp [hother, Drawer.map, Drawer.push]

/-- Items that keep their labels are filed as they were. -/
theorem drawers_map (label : α → Option κ) (label' : β → Option κ) {items : List α}
    (h : ∀ a ∈ items, label' (g a) = label a) :
    drawers label' (items.map g) = (drawers label items).map (Drawer.map g) := by
  induction items using List.reverseRecOn with
  | nil => rfl
  | append_singleton items a ih =>
    have hrest := fun b hb ↦ h b (List.mem_append_left [a] hb)
    rw [List.map_append, List.map_singleton, drawers_append_singleton, drawers_append_singleton,
      ih hrest]
    exact put_map g label label' (h a (by simp)) fun drawer hdrawer ↦
      hrest _ (mem_of_mem_drawer hdrawer drawer.first_mem_items)

end Map

end Cabinet
