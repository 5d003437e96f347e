import TransportViz.Library.Delimited
import TransportViz.Library.HiddenRuns

/-!
# Cutting to the terminal's width

`visibleWidth` measures a text and `truncateVisible` copies it up to a width; both pass over escape
sequences and count the lead bytes of UTF-8. The texts are bytes, valid or not.
-/

namespace TransportViz.Table

open HiddenRuns

/-! ## Model -/

/-- `\033`, which begins an escape sequence. -/
def kEscape : UInt8 := 0x1B

/-- `m`, which ends it. -/
def kFinal : UInt8 := 0x6D

def kNewline : UInt8 := 0x0A

/-- `\u2026` in UTF-8. -/
def kEllipsis : List UInt8 := [0xE2, 0x80, 0xA6]

/-- `\033[0m`. -/
def kReset : List UInt8 := [0x1B, 0x5B, 0x30, 0x6D]

/-- Not a continuation byte. -/
def isLead (b : UInt8) : Bool := b &&& 0xC0 != 0x80

/-- The width of what follows; in an escape sequence the inner loop runs up to its end. -/
def visibleWidthFrom : Bool → List UInt8 → ℕ
  | _, [] => 0
  | true, b :: rest => visibleWidthFrom (b != kFinal) rest
  | false, b :: rest =>
      if b = kEscape then visibleWidthFrom true rest
      else (if isLead b then 1 else 0) + visibleWidthFrom false rest

def visibleWidth (s : List UInt8) : ℕ := visibleWidthFrom false s

/-- The loop of `truncate_visible`, with `out`, `n` and `in_escape`. -/
def truncateLoop (width : ℕ) : List UInt8 → List UInt8 → ℕ → Bool → List UInt8
  | [], out, _, _ => out
  | b :: rest, out, n, inEscape =>
      if inEscape || b == kEscape then truncateLoop width rest (out ++ [b]) n (b != kFinal)
      else if isLead b && width ≤ n + 1 then out
      else truncateLoop width rest (out ++ [b]) (if isLead b then n + 1 else n) false

def truncateVisible (s : List UInt8) (width : ℕ) : List UInt8 :=
  if width = 0 ∨ visibleWidth s ≤ width then s
  else truncateLoop width s [] 0 false ++ (kEllipsis ++ kReset)

/-- The lines that `std::getline` reads; behind the last newline there is none. -/
def getlines (text : List UInt8) : List (List UInt8) :=
  let parts := text.splitOn kNewline
  if parts.getLast? = some [] then parts.dropLast else parts

/-- The end of `render_table`. -/
def finalCut (text : List UInt8) (maxWidth : ℕ) : List UInt8 :=
  if maxWidth = 0 then text
  else (getlines text).flatMap fun line ↦ truncateVisible line maxWidth ++ [kNewline]

/-! ## Specification -/

/-- Escape sequences end at `m`. -/
def csi : Markers UInt8 where
  opens b := b == kEscape
  closes b := b == kFinal
  lead := isLead

/-- The characters outside of escape sequences, in their bytes. -/
def visibleCharacters (s : List UInt8) : List (List UInt8) := csi.groups (csi.visible false s)

structure CutsToWidth (s : List UInt8) (w : ℕ) : Prop where
  width : visibleWidth (truncateVisible s w) = min (visibleWidth s) w
  fits : visibleWidth s ≤ w → truncateVisible s w = s
  /-- The text is kept up to the first byte of a character. -/
  cut : w < visibleWidth s → ∃ kept rest, csi.Cut false (w - 1) s kept rest ∧
    truncateVisible s w = kept ++ (kEllipsis ++ kReset)
  characters : w < visibleWidth s →
    visibleCharacters (truncateVisible s w) = (visibleCharacters s).take (w - 1) ++ [kEllipsis]
  idempotent : truncateVisible (truncateVisible s w) w = truncateVisible s w

structure CutsTable (w : ℕ) : Prop where
  text : ∀ s, CutsToWidth s w
  lines : ∀ body, getlines (finalCut body w) = (getlines body).map fun line ↦ truncateVisible line w
  narrow : ∀ body, ∀ line ∈ getlines (finalCut body w), visibleWidth line ≤ w
  idempotent : ∀ body, finalCut (finalCut body w) w = finalCut body w

/-! ## One text -/

section Text

variable {s : List UInt8} {w : ℕ}

theorem csi_step_of_hides {hidden : Bool} {b : UInt8} (h : (hidden || b == kEscape) = true) :
    csi.step hidden b = (b != kFinal) := by
  rw [Markers.step, show csi.opens b = (b == kEscape) from rfl, h, Bool.true_and]
  rfl

theorem csi_step_of_shows {hidden : Bool} {b : UInt8} (h : (hidden || b == kEscape) = false) :
    csi.step hidden b = false := by
  rw [Markers.step, show csi.opens b = (b == kEscape) from rfl, h, Bool.false_and]

theorem visibleWidthFrom_eq (hidden : Bool) (s : List UInt8) :
    visibleWidthFrom hidden s = csi.width hidden s := by
  induction s generalizing hidden with
  | nil => cases hidden <;> rfl
  | cons b rest ih =>
    rw [width_cons, show csi.opens b = (b == kEscape) from rfl]
    cases hhides : hidden || b == kEscape with
    | true =>
      rw [csi_step_of_hides hhides, Bool.not_true, Bool.false_and, if_neg Bool.false_ne_true,
        Nat.zero_add]
      cases hidden with
      | true => rw [visibleWidthFrom, ih]
      | false =>
        have hb : b = kEscape := by simpa using hhides
        rw [visibleWidthFrom, if_pos hb, ih, hb]
        rfl
    | false =>
      obtain ⟨rfl, hb⟩ := Bool.or_eq_false_iff.mp hhides
      rw [csi_step_of_shows hhides, visibleWidthFrom, if_neg (by simpa using hb), ih, Bool.not_false,
        Bool.true_and]
      rfl

/-- The loop copies up to the character before which the width is full. -/
theorem truncateLoop_cut {width : ℕ} (s out : List UInt8) {n : ℕ} {inEscape : Bool} (hn : n < width)
    (hwide : width ≤ n + csi.width inEscape s) :
    ∃ kept rest, csi.Cut inEscape (width - 1 - n) s kept rest ∧
      truncateLoop width s out n inEscape = out ++ kept := by
  induction s generalizing out n inEscape with
  | nil => exact absurd hwide (not_le.mpr hn)
  | cons b rest ih =>
    rw [width_cons, show csi.opens b = (b == kEscape) from rfl, show csi.lead = isLead from rfl] at hwide
    rw [truncateLoop]
    have hnext {n' : ℕ} (hn' : n' < width)
        (hcount : n' = n + if !(inEscape || b == kEscape) && isLead b then 1 else 0)  :
        ∃ kept tail, csi.Cut inEscape (width - 1 - n) (b :: rest) kept tail ∧
          truncateLoop width rest (out ++ [b]) n' (csi.step inEscape b) = out ++ kept := by
      obtain ⟨kept, tail, hcut, hloop⟩ := @ih (out ++ [b]) n' (csi.step inEscape b) hn' (by omega)
      refine ⟨b :: kept, tail, ?_, by rw [hloop, List.append_assoc, List.singleton_append]⟩
      have hcons := hcut.cons
      rwa [show csi.opens b = (b == kEscape) from rfl, show csi.lead = isLead from rfl,
        show (if !(inEscape || b == kEscape) && isLead b then 1 else 0) + (width - 1 - n') =
          width - 1 - n by omega] at hcons
    cases hhides : inEscape || b == kEscape with
    | true =>
      rw [if_pos rfl, ← csi_step_of_hides hhides]
      exact hnext hn (by simp [hhides])
    | false =>
      rw [if_neg Bool.false_ne_true]
      cases hlead : isLead b with
      | true =>
        by_cases hfull : width ≤ n + 1
        · obtain ⟨rfl, hb⟩ := Bool.or_eq_false_iff.mp hhides
          refine ⟨[], b :: rest, ⟨rfl, rfl, ⟨b, rest, rfl, hlead, hb⟩, ?_⟩, ?_⟩
          · rw [show width - 1 - n = 0 by omega]
            rfl
          · rw [if_pos (by simpa using hfull), List.append_nil]
        · rw [if_neg (by simpa using hfull), if_pos rfl, ← csi_step_of_shows hhides]
          exact hnext (not_le.mp hfull) (by rw [hhides, hlead]; rfl)
      | false =>
        rw [Bool.false_and, if_neg Bool.false_ne_true, if_neg Bool.false_ne_true,
          ← csi_step_of_shows hhides]
        exact hnext hn (by simp [hlead])

theorem exists_cut (hw : 0 < w) (hwide : w < visibleWidth s) :
    ∃ kept rest, csi.Cut false (w - 1) s kept rest ∧
      truncateVisible s w = kept ++ (kEllipsis ++ kReset) := by
  rw [visibleWidth, visibleWidthFrom_eq] at hwide
  obtain ⟨kept, rest, hcut, hloop⟩ := @truncateLoop_cut w s [] 0 false hw (by omega)
  refine ⟨kept, rest, hcut, ?_⟩
  rw [truncateVisible, visibleWidth, visibleWidthFrom_eq, if_neg (by omega), hloop, List.nil_append]

theorem visible_mark : csi.visible false (kEllipsis ++ kReset) = kEllipsis := by decide

theorem truncateVisible_of_le (h : visibleWidth s ≤ w) : truncateVisible s w = s := if_pos (.inr h)

theorem visibleWidth_truncateVisible (hw : 0 < w) :
    visibleWidth (truncateVisible s w) = min (visibleWidth s) w := by
  rcases Nat.lt_or_ge w (visibleWidth s) with hwide | hfits
  · obtain ⟨kept, rest, hcut, htext⟩ := exists_cut hw hwide
    rw [min_eq_right hwide.le, htext, visibleWidth, visibleWidthFrom_eq, Markers.width,
      hcut.visible_append, visible_mark, List.countP_append]
    have hkept : (csi.visible false kept).countP csi.lead = w - 1 := hcut.width
    have hmark : kEllipsis.countP csi.lead = 1 := by decide
    omega
  · rw [truncateVisible_of_le hfits, min_eq_left hfits]

theorem visibleCharacters_truncateVisible (hw : 0 < w) (hwide : w < visibleWidth s) :
    visibleCharacters (truncateVisible s w) =
      (visibleCharacters s).take (w - 1) ++ [kEllipsis] := by
  obtain ⟨kept, rest, hcut, htext⟩ := exists_cut hw hwide
  have hmark : csi.groups kEllipsis = [kEllipsis] := by decide
  rw [visibleCharacters, visibleCharacters, htext, hcut.visible_append, visible_mark,
    ← hcut.groups_eq, ← hmark]
  exact groups_append_cons _ _ (by decide)

theorem cutsToWidth (s : List UInt8) (hw : 0 < w) : CutsToWidth s w where
  width := visibleWidth_truncateVisible hw
  fits := truncateVisible_of_le
  cut := exists_cut hw
  characters := visibleCharacters_truncateVisible hw
  idempotent := truncateVisible_of_le
    ((visibleWidth_truncateVisible hw).trans_le (min_le_right _ _))

end Text

/-! ## The lines of the table -/

section Lines

variable {w : ℕ}

theorem getlines_flatMap {lines : List (List UInt8)} (h : ∀ line ∈ lines, kNewline ∉ line) :
    getlines (lines.flatMap fun line ↦ line ++ [kNewline]) = lines := by
  rw [getlines, Delimited.splitOn_flatMap_append h]
  simp

theorem newline_notMem_of_mem_getlines {text line : List UInt8} (h : line ∈ getlines text) :
    kNewline ∉ line := by
  have hpart : line ∈ text.splitOn kNewline := by
    unfold getlines at h
    simp only at h
    split_ifs at h
    · exact (List.dropLast_sublist _).subset h
    · exact h
  exact Delimited.notMem_of_mem_splitOn hpart

theorem newline_notMem_truncateVisible {line : List UInt8} (hw : 0 < w) (h : kNewline ∉ line) :
    kNewline ∉ truncateVisible line w := by
  rcases Nat.lt_or_ge w (visibleWidth line) with hwide | hfits
  · obtain ⟨kept, rest, hcut, htext⟩ := exists_cut hw hwide
    rw [hcut.append, List.mem_append, not_or] at h
    have hmark : kNewline ∉ kEllipsis ++ kReset := by decide
    rw [htext, List.mem_append, not_or]
    exact ⟨h.1, hmark⟩
  · rwa [truncateVisible_of_le hfits]

theorem getlines_finalCut (hw : 0 < w) (body : List UInt8) :
    getlines (finalCut body w) = (getlines body).map fun line ↦ truncateVisible line w := by
  have hnewline : ∀ line ∈ (getlines body).map fun line ↦ truncateVisible line w,
      kNewline ∉ line := by
    intro line hline
    obtain ⟨whole, hwhole, rfl⟩ := List.mem_map.mp hline
    exact newline_notMem_truncateVisible hw (newline_notMem_of_mem_getlines hwhole)
  rw [finalCut, if_neg hw.ne', ← getlines_flatMap hnewline, List.flatMap_map]

end Lines

/-- The table is cut to the width, and nothing else. -/
theorem cutsTable {w : ℕ} (hw : 0 < w) : CutsTable w where
  text s := cutsToWidth s hw
  lines body := getlines_finalCut hw body
  narrow body line hline := by
    rw [getlines_finalCut hw, List.mem_map] at hline
    obtain ⟨whole, -, rfl⟩ := hline
    rw [visibleWidth_truncateVisible hw]
    exact min_le_right _ _
  idempotent body := by
    have hlines := getlines_finalCut hw body
    conv_lhs => rw [finalCut, if_neg hw.ne', hlines, List.flatMap_map]
    rw [finalCut, if_neg hw.ne']
    simp only [(cutsToWidth _ hw).idempotent]

theorem cutsTable_three : 0 < 3 ∧ CutsTable 3 := ⟨by decide, cutsTable (by decide)⟩

end TransportViz.Table
