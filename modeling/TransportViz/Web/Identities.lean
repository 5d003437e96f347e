import Mathlib.Order.Compare
import TransportViz.Diff.Identity
import TransportViz.Web.DiffDocuments

/-!
# The identities of the two comparisons

The viewer orders identities by code units and tells them apart by one text. On identities made of
plain names and GUID texts the order is that of the snapshots, and the text says which identity it is:
a GUID text has one bar, a numbered name none, and only the numbered name has a `#` before it.
-/

namespace TransportViz.Web

open Script

/-! ## Order -/

section Order

theorem byteOrder_eq_cmp {a b : String} (ha : CodeUnits.Basic a) (hb : CodeUnits.Basic b) :
    byteOrder a b = cmp a b := by
  unfold byteOrder cmp cmpUsing
  simp only [CodeUnits.units_lt_iff ha hb, CodeUnits.units_lt_iff hb ha]

theorem byteOrder_ne_gt_iff {a b : String} (ha : CodeUnits.Basic a) (hb : CodeUnits.Basic b) :
    byteOrder a b ≠ .gt ↔ a ≤ b := by
  rw [byteOrder_eq_cmp ha hb, Ne, cmp_eq_gt_iff, not_lt]

theorem sortGuids_eq {guids : List String} (h : ∀ guid ∈ guids, CodeUnits.Basic guid) :
    sortGuids guids = guids.insertionSort (· ≤ ·) := by
  have hmap := List.map_insertionSort (fun a b ↦ byteOrder a b ≠ .gt) (· ≤ ·) id guids
    fun a ha b hb ↦ byteOrder_ne_gt_iff (h a ha) (h b hb)
  rw [List.map_id, List.map_id] at hmap
  exact hmap

theorem basic_guidToString (bytes : GuidBytes) : CodeUnits.Basic (guidToString bytes) := by
  have hchars : (guidChars.all fun c ↦ c.toNat < 0xD800) = true := by decide
  exact fun c hc ↦ of_decide_eq_true (List.all_eq_true.mp hchars c (mem_guidToString bytes c hc))

theorem basic_toString (n : ℕ) : CodeUnits.Basic (toString n) := by
  intro c hc
  by_contra hlarge
  refine Diff.notMem_repr n c (Bool.eq_false_iff.mpr fun hdigit ↦ hlarge ?_) hc
  exact (Char.isDigit_iff_toNat.mp hdigit).2.trans_lt (by decide)

/-- The texts of an identity lie below the surrogates. -/
structure BasicKey (k : PairKey) : Prop where
  topic : CodeUnits.Basic k.topic
  writer : CodeUnits.Basic k.writerGuid
  reader : CodeUnits.Basic k.readerGuid

theorem then_ne_gt_iff (o p : Ordering) : o.then p ≠ .gt ↔ o = .lt ∨ o = .eq ∧ p ≠ .gt := by
  cases o <;> simp

/-- The viewer's order of keys is the order of the map. -/
theorem compareKeys_ne_gt_iff {a b : PairKey} (ha : BasicKey a) (hb : BasicKey b) :
    compareKeys a b ≠ .gt ↔ Diff.identOf a ≤ Diff.identOf b := by
  rw [compareKeys, byteOrder_eq_cmp ha.topic hb.topic, byteOrder_eq_cmp ha.writer hb.writer,
    byteOrder_eq_cmp ha.reader hb.reader, then_ne_gt_iff, then_ne_gt_iff, cmp_eq_lt_iff,
    cmp_eq_eq_iff, cmp_eq_lt_iff, cmp_eq_eq_iff, Ne, cmp_eq_gt_iff, not_lt]
  simp only [Diff.identOf, Prod.Lex.toLex_le_toLex]

end Order

/-! ## The text of an identity -/

section Text

/-- What stands for an end of a pair: a text without a bar but with a `#`, or one bar and no `#`
before it. -/
inductive EndText : List Char → Prop
  | numbered {chars : List Char} (bar : '|' ∉ chars) (hash : '#' ∈ chars) : EndText chars
  | guid {participant entity : List Char} (bar : '|' ∉ participant) (hash : '#' ∉ participant)
      (bar' : '|' ∉ entity) : EndText (participant ++ '|' :: entity)

/-- An end is read back from the front of a text. -/
theorem EndText.append_cons_inj {a b rest rest' : List Char} (ha : EndText a) (hb : EndText b)
    (h : a ++ '|' :: rest = b ++ '|' :: rest') : a = b ∧ rest = rest' := by
  -- a numbered end stops at the first bar, a GUID at the second
  have hmixed {numbered participant entity more more' : List Char} (hbar : '|' ∉ numbered)
      (hhash : '#' ∈ numbered) (hbar' : '|' ∉ participant) (hhash' : '#' ∉ participant) :
      numbered ++ '|' :: more ≠ participant ++ '|' :: entity ++ '|' :: more' := by
    intro heq
    rw [List.append_assoc, List.cons_append] at heq
    obtain ⟨rfl, -⟩ := Delimited.eq_of_append_cons_left hbar hbar' heq
    exact hhash' hhash
  cases ha with
  | numbered hbar hhash =>
    cases hb with
    | numbered hbar' hhash' => exact Delimited.eq_of_append_cons_left hbar hbar' h
    | guid hbar' hhash' _ => exact absurd h (hmixed hbar hhash hbar' hhash')
  | @guid participant entity hbar hhash hentity =>
    cases hb with
    | numbered hbar' hhash' => exact absurd h.symm (hmixed hbar' hhash' hbar hhash)
    | guid hbar' _ hentity' =>
      rw [List.append_assoc, List.append_assoc, List.cons_append, List.cons_append] at h
      obtain ⟨rfl, htail⟩ := Delimited.eq_of_append_cons_left hbar hbar' h
      obtain ⟨rfl, hrest⟩ := Delimited.eq_of_append_cons_left hentity hentity' htail
      exact ⟨rfl, hrest⟩

theorem endText_guid (tag : List Char) (hbar : '|' ∉ tag) (hhash : '#' ∉ tag) (guid : GuidBytes) :
    EndText (tag ++ (guidToString guid).toList) := by
  have hparticipant (c : Char) (hc : c ∉ "0123456789abcdef.".toList) :
      c ∉ dottedBytes (guid.toList.take 12) := fun hmem ↦ hc (mem_dottedBytes _ c hmem)
  rw [guidToString, String.toList_ofList, ← List.append_assoc]
  refine .guid ?_ ?_ (bar_notMem_dottedBytes _)
  · simp [hbar, bar_notMem_dottedBytes]
  · simp [hhash, hparticipant '#' (by decide)]

theorem endText_numbered {node : String} (hbar : '|' ∉ node.toList) (n : ℕ) :
    EndText (node ++ "#" ++ toString n).toList := by
  refine .numbered ?_ (Diff.hash_mem_numbered node n)
  have hdigits := Diff.notMem_repr n '|' (by decide)
  simp_all

/-- An identity that can be read back from its text. -/
structure ReadableKey (k : PairKey) : Prop where
  topic : '|' ∉ k.topic.toList
  writer : EndText k.writerGuid.toList
  reader : EndText k.readerGuid.toList

theorem keyId_inj {a b : PairKey} (ha : ReadableKey a) (hb : ReadableKey b)
    (h : keyId a = keyId b) : Diff.identOf a = Diff.identOf b := by
  have hchars : a.topic.toList ++ '|' :: (a.writerGuid.toList ++ '|' :: a.readerGuid.toList) =
      b.topic.toList ++ '|' :: (b.writerGuid.toList ++ '|' :: b.readerGuid.toList) := by
    simpa [keyId] using congrArg String.toList h
  obtain ⟨htopic, hends⟩ := Delimited.eq_of_append_cons_left ha.topic hb.topic hchars
  obtain ⟨hwriter, hreader⟩ := ha.writer.append_cons_inj hb.writer hends
  rw [Diff.identOf, Diff.identOf, String.toList_injective htopic, String.toList_injective hwriter,
    String.toList_injective hreader]

end Text

end TransportViz.Web
