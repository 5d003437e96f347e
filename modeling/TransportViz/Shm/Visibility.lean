import Mathlib.Data.Finset.Sort
import TransportViz.Model.Types

/-!
# Where a participant listens

The ports of a participant are gone through once: a port that is missing decides at once, and what the
others say is gathered on the way. The verdict is the three-way rule of the documentation, in which the
order of the ports has no part.
-/

namespace TransportViz.Shm

/-! ## Model -/

section Model

variable (proofPorts : Finset ℕ) (info : ShmInfo) (participantsPerPort : OrderedMap ℕ ℕ)

/-- No participant beside this one announces the port. -/
def announcedAlone (port : ℕ) : Bool :=
  match participantsPerPort.find? port with
  | none => true
  | some count => count ≤ 1

def visibilityLoop : List ℕ → Bool → Bool → ShmVisibility
  | [], allHeld, proven => if allHeld && proven then .visible else .unprobed
  | port :: rest, allHeld, proven =>
      if port ∉ info.checkedPorts then visibilityLoop rest false proven
      else if port ∈ info.missingPorts then
        if port ∉ info.unknownPorts then .notVisible else visibilityLoop rest false proven
      else if port ∈ proofPorts then
        visibilityLoop rest allHeld (proven || announcedAlone participantsPerPort port)
      else visibilityLoop rest allHeld proven

def participantShmVisibility (ports : Finset ℕ) : ShmVisibility :=
  visibilityLoop proofPorts info participantsPerPort (ports.sort (· ≤ ·)) (decide (ports ≠ ∅)) false

end Model

/-! ## Specification -/

section Specification

variable (proofPorts : Finset ℕ) (info : ShmInfo) (participantsPerPort : OrderedMap ℕ ℕ)

/-- Nobody holds the port here, or it is one of the tool's own. -/
def Lost (port : ℕ) : Prop :=
  port ∈ info.checkedPorts ∧ port ∈ info.missingPorts ∧ port ∉ info.unknownPorts

def HeldHere (port : ℕ) : Prop := port ∈ info.checkedPorts ∧ port ∉ info.missingPorts

/-- The port belongs to this participant for certain. -/
def Proves (port : ℕ) : Prop :=
  port ∈ proofPorts ∧ (participantsPerPort.find? port).getD 0 ≤ 1

/-- The documented rule, and what follows from it. -/
structure ThreeWay (ports : Finset ℕ) : Prop where
  notVisible_iff : participantShmVisibility proofPorts info participantsPerPort ports = .notVisible ↔
    ∃ port ∈ ports, Lost info port
  visible_iff : participantShmVisibility proofPorts info participantsPerPort ports = .visible ↔
    (¬∃ port ∈ ports, Lost info port) ∧ ports.Nonempty ∧ (∀ port ∈ ports, HeldHere info port) ∧
      ∃ port ∈ ports, Proves proofPorts participantsPerPort port
  unprobed_iff : participantShmVisibility proofPorts info participantsPerPort ports = .unprobed ↔
    (¬∃ port ∈ ports, Lost info port) ∧ ¬(ports.Nonempty ∧ (∀ port ∈ ports, HeldHere info port) ∧
      ∃ port ∈ ports, Proves proofPorts participantsPerPort port)
  -- more ports, whatever is known of them
  grown : participantShmVisibility proofPorts info participantsPerPort ports = .notVisible →
    ∀ more proof counts, ports ⊆ more →
      participantShmVisibility proof info counts more = .notVisible
  -- a port that proves nothing is not needed, and such ports alone show nothing
  reason : participantShmVisibility proofPorts info participantsPerPort ports = .visible →
    ∀ port ∈ ports, ¬Proves proofPorts participantsPerPort port →
      participantShmVisibility proofPorts info participantsPerPort (ports.erase port) = .visible
  unproven : (∀ port ∈ ports, ¬Proves proofPorts participantsPerPort port) →
    participantShmVisibility proofPorts info participantsPerPort ports ≠ .visible

end Specification

/-! ## The loop -/

section Loop

variable {proofPorts : Finset ℕ} {info : ShmInfo} {participantsPerPort : OrderedMap ℕ ℕ}
  {ports : List ℕ} {allHeld proven : Bool}

theorem announcedAlone_iff {port : ℕ} : announcedAlone participantsPerPort port = true ↔
    (participantsPerPort.find? port).getD 0 ≤ 1 := by
  unfold announcedAlone
  cases participantsPerPort.find? port <;> simp

theorem visibilityLoop_notVisible_iff :
    visibilityLoop proofPorts info participantsPerPort ports allHeld proven = .notVisible ↔
      ∃ port ∈ ports, Lost info port := by
  induction ports generalizing allHeld proven with
  | nil =>
    rw [visibilityLoop]
    cases allHeld && proven <;> simp
  | cons port rest ih =>
    rw [visibilityLoop, List.exists_mem_cons_iff]
    by_cases hchecked : port ∈ info.checkedPorts
    · rw [if_neg (not_not.mpr hchecked)]
      by_cases hmissing : port ∈ info.missingPorts
      · rw [if_pos hmissing]
        by_cases hunknown : port ∈ info.unknownPorts
        · rw [if_neg (not_not.mpr hunknown), ih]
          exact (or_iff_right fun h ↦ h.2.2 hunknown).symm
        · rw [if_pos hunknown]
          exact iff_of_true rfl (Or.inl ⟨hchecked, hmissing, hunknown⟩)
      · rw [if_neg hmissing, or_iff_right fun h : Lost info port ↦ hmissing h.2.1]
        split_ifs
        · exact ih
        · exact ih
    · rw [if_pos hchecked, ih]
      exact (or_iff_right fun h ↦ hchecked h.1).symm

theorem visibilityLoop_visible_iff :
    visibilityLoop proofPorts info participantsPerPort ports allHeld proven = .visible ↔
      allHeld = true ∧ (∀ port ∈ ports, HeldHere info port) ∧
        (proven = true ∨ ∃ port ∈ ports, Proves proofPorts participantsPerPort port) := by
  induction ports generalizing allHeld proven with
  | nil =>
    rw [visibilityLoop]
    cases allHeld <;> cases proven <;> simp
  | cons port rest ih =>
    rw [visibilityLoop, List.forall_mem_cons, List.exists_mem_cons_iff]
    by_cases hchecked : port ∈ info.checkedPorts
    · rw [if_neg (not_not.mpr hchecked)]
      by_cases hmissing : port ∈ info.missingPorts
      · rw [if_pos hmissing]
        refine iff_of_false (fun hvisible ↦ ?_) fun h ↦ h.2.1.1.2 hmissing
        split_ifs at hvisible
        exact Bool.false_ne_true (ih.mp hvisible).1
      · rw [if_neg hmissing, and_iff_right (show HeldHere info port from ⟨hchecked, hmissing⟩)]
        by_cases hproof : port ∈ proofPorts
        · rw [if_pos hproof, ih, Bool.or_eq_true, announcedAlone_iff, Proves, or_assoc,
            and_iff_right hproof]
        · rw [if_neg hproof, ih, or_iff_right (fun h : Proves _ _ _ ↦ hproof h.1)]
    · rw [if_pos hchecked, ih]
      exact iff_of_false (fun h ↦ Bool.false_ne_true h.1) fun h ↦ hchecked h.2.1.1.1

end Loop

/-! ## The rule -/

section Rule

variable (proofPorts : Finset ℕ) (info : ShmInfo) (participantsPerPort : OrderedMap ℕ ℕ)
  (ports : Finset ℕ)

theorem notVisible_iff :
    participantShmVisibility proofPorts info participantsPerPort ports = .notVisible ↔
      ∃ port ∈ ports, Lost info port := by
  simp only [participantShmVisibility, visibilityLoop_notVisible_iff, Finset.mem_sort]

theorem visible_iff :
    participantShmVisibility proofPorts info participantsPerPort ports = .visible ↔
      ports.Nonempty ∧ (∀ port ∈ ports, HeldHere info port) ∧
        ∃ port ∈ ports, Proves proofPorts participantsPerPort port := by
  simp only [participantShmVisibility, visibilityLoop_visible_iff, Finset.mem_sort, decide_eq_true_eq,
    Finset.nonempty_iff_ne_empty, Bool.false_eq_true, false_or]

theorem not_lost_of_held (h : ∀ port ∈ ports, HeldHere info port) : ¬∃ port ∈ ports, Lost info port :=
  fun ⟨port, hmem, hlost⟩ ↦ (h port hmem).2 hlost.2.1

/-- The loop is the documented rule. -/
theorem threeWay : ThreeWay proofPorts info participantsPerPort ports where
  notVisible_iff := notVisible_iff proofPorts info participantsPerPort ports
  visible_iff := by
    rw [visible_iff]
    exact ⟨fun h ↦ ⟨not_lost_of_held info ports h.2.1, h⟩, fun h ↦ h.2⟩
  unprobed_iff := by
    rw [← notVisible_iff proofPorts info participantsPerPort, ← visible_iff]
    cases participantShmVisibility proofPorts info participantsPerPort ports <;> simp
  grown h more proof counts hsub := by
    rw [notVisible_iff] at h ⊢
    obtain ⟨port, hmem, hlost⟩ := h
    exact ⟨port, hsub hmem, hlost⟩
  reason h port hport hnot := by
    rw [visible_iff] at h ⊢
    obtain ⟨-, hheld, other, hother, hproves⟩ := h
    have hne : other ≠ port := fun heq ↦ hnot (heq ▸ hproves)
    have hmem : other ∈ ports.erase port := Finset.mem_erase.mpr ⟨hne, hother⟩
    exact ⟨⟨other, hmem⟩, fun p hp ↦ hheld p (Finset.mem_of_mem_erase hp), other, hmem, hproves⟩
  unproven h hvisible := by
    obtain ⟨-, -, port, hmem, hproves⟩ :=
      (visible_iff proofPorts info participantsPerPort ports).mp hvisible
    exact h port hmem hproves

end Rule

end TransportViz.Shm
