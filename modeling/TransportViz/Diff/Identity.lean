import Std.Data.String.ToNat
import TransportViz.Diff.Snapshots
import TransportViz.Model.Text

/-!
# What an identity tells

An identity is read back at its last `#`: the digits after it are the place, and what stands before
it is the node. A GUID text has no `#`, so the identity of an endpoint without a node name is none of
those.
-/

namespace TransportViz.Diff

/-- The characters an endpoint's place is written with. -/
theorem notMem_repr (n : ℕ) (c : Char) (hc : c.isDigit = false) : c ∉ (toString n).toList := by
  intro hmem
  rw [show (toString n).toList = Nat.toDigits 10 n from Nat.toList_repr] at hmem
  rw [Nat.isDigit_of_mem_toDigits (by decide) (by decide) hmem] at hc
  cases hc

theorem numbered_inj {a b : String} {m n : ℕ}
    (h : a ++ "#" ++ toString m = b ++ "#" ++ toString n) : a = b ∧ m = n := by
  have hchars := congrArg String.toList h
  simp only [String.toList_append] at hchars
  have hsplit : a.toList ++ '#' :: (toString m).toList = b.toList ++ '#' :: (toString n).toList := by
    simpa using hchars
  obtain ⟨hnode, hplace⟩ := Delimited.eq_of_append_cons_right (notMem_repr m '#' (by decide))
    (notMem_repr n '#' (by decide)) hsplit
  exact ⟨String.toList_injective hnode, Nat.repr_injective (String.toList_injective hplace)⟩

theorem hash_notMem_guid (guid : GuidBytes) : '#' ∉ ("guid:" ++ guidToString guid).toList := by
  intro hmem
  rw [String.toList_append, List.mem_append] at hmem
  rcases hmem with hmem | hmem
  · exact absurd hmem (by decide)
  · exact absurd (mem_guidToString guid '#' hmem) (by decide)

theorem hash_mem_numbered (node : String) (n : ℕ) : '#' ∈ (node ++ "#" ++ toString n).toList := by
  simp

/-- An endpoint whose GUID text is that of its bytes. -/
def GuidWritten (e : Endpoint) : Prop := e.guid = guidToString e.guidBytes

/-- Two endpoints share an identity as the same unnamed endpoint, or at one place of one node. -/
theorem identity_eq_iff {t u : TopicSummary} {e f : Endpoint} (he : GuidWritten e)
    (hf : GuidWritten f) :
    identity t e = identity u f ↔
      e.nodeName = f.nodeName ∧ (e.nodeName = "" → e.guid = f.guid) ∧
        (e.nodeName ≠ "" → Ranking.place (nodeGuids t e.nodeName) e.guid =
          Ranking.place (nodeGuids u f.nodeName) f.guid) := by
  have hmixed {v w : TopicSummary} {a b : Endpoint} (ha : GuidWritten a) (hempty : a.nodeName = "")
      (hnamed : b.nodeName ≠ "") : identity v a ≠ identity w b := by
    intro heq
    rw [identity, if_pos hempty, ha, identity_of_named w b hnamed] at heq
    exact hash_notMem_guid a.guidBytes (heq ▸ hash_mem_numbered _ _)
  by_cases hempty : e.nodeName = ""
  · by_cases hempty' : f.nodeName = ""
    · rw [identity, identity, if_pos hempty, if_pos hempty', String.append_right_inj]
      simp [hempty, hempty']
    · refine iff_of_false (hmixed he hempty hempty') fun h ↦ hempty' (h.1.symm.trans hempty)
  · by_cases hempty' : f.nodeName = ""
    · exact iff_of_false (hmixed hf hempty' hempty).symm fun h ↦ hempty (h.1.trans hempty')
    · rw [identity_of_named t e hempty, identity_of_named u f hempty']
      constructor
      · intro h
        obtain ⟨hnode, hplace⟩ := numbered_inj h
        exact ⟨hnode, fun hnot ↦ absurd hnot hempty, fun _ ↦ hplace⟩
      · rintro ⟨hnode, -, hplace⟩
        rw [hplace hempty, hnode]

end TransportViz.Diff
