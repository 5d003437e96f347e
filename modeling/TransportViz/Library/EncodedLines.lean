import TransportViz.Library.Lines

/-!
# The lines of an encoded text

When the separator is encoded as one symbol that occurs in no other code, the encoded text has the
encoded lines. UTF-8 is such an encoding.
-/

namespace Lines

section Encoding

variable {α β : Type} [DecidableEq α] [DecidableEq β] {enc : α → List β} {sep : α} {mark : β}

theorem splitOn_append_of_notMem {part : List β} (h : mark ∉ part) (rest : List β) :
    (part ++ rest).splitOn mark = (rest.splitOn mark).modifyHead (part ++ ·) := by
  induction part with
  | nil => exact (congrFun List.modifyHead_id _).symm
  | cons b part ih =>
    rw [List.mem_cons, not_or] at h
    have hb : (b == mark) = false := beq_eq_false_iff_ne.mpr (Ne.symm h.1)
    rw [List.splitOn, List.cons_append, List.splitOnP_cons_eq_if_modifyHead, if_neg (by simp [hb]),
      ← List.splitOn, ih h.2, List.modifyHead_modifyHead]
    rfl

theorem splitOn_flatMap (hsep : enc sep = [mark]) (h : ∀ a, a ≠ sep → mark ∉ enc a) (text : List α) :
    (text.flatMap enc).splitOn mark = (text.splitOn sep).map (List.flatMap enc) := by
  induction text with
  | nil => rfl
  | cons a rest ih =>
    rw [List.flatMap_cons]
    by_cases ha : a = sep
    · have hfirst : ([] ++ sep :: rest).splitOn sep = [] :: rest.splitOn sep :=
        List.splitOn_append_cons_self_of_not_mem List.not_mem_nil _
      have hcode : ([] ++ mark :: rest.flatMap enc).splitOn mark =
          [] :: (rest.flatMap enc).splitOn mark :=
        List.splitOn_append_cons_self_of_not_mem List.not_mem_nil _
      rw [List.nil_append] at hfirst hcode
      rw [ha, hsep, List.singleton_append, hcode, hfirst, ih]
      rfl
    · have hfirst : ([a] ++ rest).splitOn sep = (rest.splitOn sep).modifyHead ([a] ++ ·) :=
        splitOn_append_of_notMem (by simpa using Ne.symm ha) rest
      rw [List.singleton_append] at hfirst
      rw [splitOn_append_of_notMem (h a ha), ih, hfirst]
      cases rest.splitOn sep with
      | nil => rfl
      | cons head more => simp

/-- The encoded lines one after the other, each behind the separator of the one before. -/
def placed (enc : α → List β) (start : ℕ) : List (List α) → List (Line β)
  | [] => []
  | line :: rest =>
      ⟨start, start + (line.flatMap enc).length, line.flatMap enc⟩ ::
        placed enc (start + (line.flatMap enc).length + 1) rest

omit [DecidableEq α] [DecidableEq β] in
theorem place_map (hne : ∀ a, enc a ≠ []) (start other : ℕ) (parts : List (List α)) :
    place start (parts.map (List.flatMap enc)) =
      placed enc start ((place other parts).map Line.bytes) := by
  induction parts generalizing start other with
  | nil => rfl
  | cons part rest ih =>
    have hempty : part.flatMap enc = [] ↔ part = [] := by
      cases part with
      | nil => simp
      | cons a more => simp [hne a]
    have hend : part.flatMap enc = [] ∧ rest.map (List.flatMap enc) = [] ↔ part = [] ∧ rest = [] :=
      and_congr hempty List.map_eq_nil_iff
    rw [List.map_cons, place, place]
    by_cases hlast : part = [] ∧ rest = []
    · rw [if_pos hlast, if_pos (hend.mpr hlast)]
      rfl
    · rw [if_neg hlast, if_neg (mt hend.mp hlast), ih _ (other + part.length + 1), List.map_cons, placed]

theorem linesOf_flatMap (hsep : enc sep = [mark]) (h : ∀ a, a ≠ sep → mark ∉ enc a)
    (hne : ∀ a, enc a ≠ []) (text : List α) :
    linesOf mark (text.flatMap enc) = placed enc 0 ((linesOf sep text).map Line.bytes) := by
  rw [linesOf, splitOn_flatMap hsep h, place_map hne 0 0]
  rfl

end Encoding

/-! ## UTF-8 -/

section Utf8

theorem newline_notMem_utf8 {c : Char} (h : c ≠ '\n') : 10 ∉ String.utf8EncodeChar c := by
  have hcode : c.val.toNat ≠ 10 := fun hcode ↦ h (Char.ext (UInt32.toNat_inj.mp hcode))
  have hvalid : c.val.toNat < 1114112 := by
    have := c.valid
    simp only [UInt32.isValidChar, Nat.isValidChar] at this
    omega
  have hbyte : ∀ n : ℕ, (10 : UInt8) = UInt8.ofNat n → n % 256 = 10 := fun n hn ↦ by
    have hnat := congrArg UInt8.toNat hn
    rw [UInt8.toNat_ofNat'] at hnat
    exact hnat.symm
  intro hmem
  unfold String.utf8EncodeChar at hmem
  simp only at hmem
  split_ifs at hmem <;> simp only [List.mem_cons, List.not_mem_nil, or_false] at hmem
  · have := hbyte _ hmem
    omega
  · rcases hmem with hmem | hmem <;> have := hbyte _ hmem <;> omega
  · rcases hmem with hmem | hmem | hmem <;> have := hbyte _ hmem <;> omega
  · rcases hmem with hmem | hmem | hmem | hmem <;> have := hbyte _ hmem <;> omega

def encode (text : List Char) : List UInt8 := text.flatMap String.utf8EncodeChar

theorem linesOf_encode (text : List Char) :
    linesOf 10 (encode text) = placed String.utf8EncodeChar 0 ((linesOf '\n' text).map Line.bytes) :=
  linesOf_flatMap (by rfl) (fun _ h ↦ newline_notMem_utf8 h) (fun _ ↦ String.utf8EncodeChar_ne_nil) text

end Utf8

end Lines
