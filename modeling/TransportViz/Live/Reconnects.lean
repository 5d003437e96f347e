import TransportViz.Live.Tracker

/-!
# A viewer that reconnects

What the viewer read from the present server, followed by what waits in its connection, is in the order
of the numbers: the threads write rising numbers, and a thread that was started later does not start
behind. With the tracker's side this settles what a viewer of one server is told.
-/

namespace TransportViz.Live

variable {Doc : Type}

namespace Viewer

def receivedIds (v : Viewer Doc) : List ℕ := v.received.map Receipt.id

/-- The documents of the server the viewer connected to last: those read, then those still unread. -/
def timeline (v : Viewer Doc) : List (ℕ × Doc) :=
  ((v.received.filter (·.run = v.run)).map fun r ↦ (r.id, r.doc)) ++ documents v.unread

/-- The tracker and the names it gave come from the ids alone. -/
structure Told (v : Viewer Doc) : Prop where
  ids_eq : v.ids = tracked v.receivedIds
  kinds : ∀ before r after, v.received = before ++ r :: after →
    r.kind = kindAfter (before.map Receipt.id) r.id

theorem Told.read {v : Viewer Doc} (h : v.Told) : v.read.Told := by
  unfold Viewer.read
  split
  · exact h
  · rename_i id doc rest _
    constructor
    · simp only [receivedIds, List.map_append, List.map_cons, List.map_nil, tracked_append]
      rw [h.ids_eq, receivedIds]
    · intro before r after hsplit
      simp only at hsplit
      rcases List.eq_nil_or_concat' after with rfl | ⟨after', last, rfl⟩
      · obtain ⟨rfl, hr⟩ := List.append_inj' hsplit rfl
        obtain rfl := (List.cons.inj hr).1
        rw [kindAfter, ← receivedIds, ← h.ids_eq]
      · rw [← List.cons_append, ← List.append_assoc] at hsplit
        exact h.kinds before r after' (List.append_inj' hsplit rfl).1
  · exact ⟨h.ids_eq, h.kinds⟩

/-- A document that is read moves from one part of the timeline to the other. -/
theorem timeline_read (v : Viewer Doc) : v.read.timeline = v.timeline := by
  unfold Viewer.read
  split
  · rfl
  · rename_i id doc rest hunread
    simp [timeline, hunread, documents]
  · rename_i event rest hdocument hunread
    cases event with
    | document id doc => exact absurd rfl (hdocument id doc)
    | keepAlive => simp [timeline, hunread, documents]
    | status message => simp [timeline, hunread, documents]

end Viewer

namespace Connection

theorem phase_proceed_ne_woken (c : Connection Doc) (seq : ℕ) (latest : Option Doc)
    (ended : Option String) : c.proceed.phase ≠ .woken seq latest ended := by
  unfold Connection.proceed
  split <;> simp_all

/-- Only a thread that has just read the stream has a document to send. -/
theorem documents_output {s : Stream Doc} {pushed : List Doc} {c : Connection Doc}
    (h : Served s pushed c) : documents c.output = [] ∨
      ∃ seq latest ended doc, c.phase = .woken seq latest ended ∧ Numbered pushed seq doc ∧
        documents c.output = [(seq, doc)] := by
  cases hphase : c.phase with
  | waiting => simp [output, hphase]
  | gone => simp [output, hphase]
  | answered ended => cases ended <;> simp [output, hphase]
  | woken seq latest ended =>
    rcases h.woken_cases hphase with hnew | hseen
    · obtain ⟨doc, rfl, hlt, hnumbered⟩ := hnew
      exact Or.inr ⟨seq, some doc, ended, doc, rfl, hnumbered, by simp [output, hphase, hlt.ne']⟩
    · left
      simp only [output, hphase, hseen, ne_eq, not_true_eq_false, if_false]
      split <;> rfl

end Connection

namespace World

/-- The viewer's own thread writes to the viewer. -/
theorem proceed_connected {w : World Doc} {i : ℕ} (hi : w.viewer.connection = some i) :
    w.proceed i = { w with
      connections := w.connections.modify i Connection.proceed
      viewer := { w.viewer with
        unread := w.viewer.unread ++ ((w.connections[i]?).map Connection.output).getD [] } } := by
  rw [proceed, if_pos hi]

theorem timeline_proceed {w : World Doc} {i : ℕ} (hi : w.viewer.connection = some i) :
    (w.proceed i).viewer.timeline = w.viewer.timeline ++
      documents (((w.connections[i]?).map Connection.output).getD []) := by
  simp [proceed_connected hi, Viewer.timeline]

end World

/-- What a thread has in hand for the viewer is not behind the viewer. -/
def Ahead (w : World Doc) : Prop :=
  ∀ i c seq latest ended, w.viewer.connection = some i → w.connections[i]? = some c →
    c.phase = .woken seq latest ended → ∀ p ∈ w.viewer.timeline, p.1 ≤ seq

/-- The invariant of the viewer. -/
structure InOrder (w : World Doc) : Prop where
  rising : (w.viewer.timeline.map Prod.fst).Pairwise (· ≤ ·)
  numbered : w.viewer.run = w.run → ∀ p ∈ w.viewer.timeline, Numbered w.pushed p.1 p.2
  ahead : Ahead w
  connected : ∀ i, w.viewer.connection = some i → w.viewer.run = w.run
  runs : (w.viewer.received.map Receipt.run).Pairwise (· ≤ ·)
  runs_le : ∀ r ∈ w.viewer.received, r.run ≤ w.viewer.run
  run_le : w.viewer.run ≤ w.run
  told : w.viewer.Told

namespace InOrder

variable {w : World Doc}

theorem start : InOrder ({} : World Doc) where
  rising := List.Pairwise.nil
  numbered _ _ hp := absurd hp List.not_mem_nil
  ahead _ _ _ _ _ h := absurd h (by simp)
  connected _ h := absurd h (by simp)
  runs := List.Pairwise.nil
  runs_le _ hr := absurd hr List.not_mem_nil
  run_le := le_rfl
  told := ⟨rfl, fun before r after h ↦ absurd h (by simp)⟩

/-- The next server starts with no thread for the viewer. -/
theorem restart (h : InOrder w) : InOrder w.restart where
  rising := h.rising
  numbered heq := absurd h.run_le (by simpa [World.restart] using heq ▸ Nat.lt_succ_self w.run)
  ahead _ _ _ _ _ hnone := absurd hnone (by simp [World.restart])
  connected _ hnone := absurd hnone (by simp [World.restart])
  runs := h.runs
  runs_le := h.runs_le
  run_le := h.run_le.trans (Nat.le_succ _)
  told := ⟨h.told.ids_eq, h.told.kinds⟩

theorem push (h : InOrder w) (doc : Doc) : InOrder (w.push doc) := by
  unfold World.push
  split
  · exact h
  · exact { h with numbered := fun hrun p hp ↦ (h.numbered hrun p hp).append [doc] }

theorem ahead_connect (h : InOrder w) : Ahead { w with connections := w.connections ++ [{}] } := by
  intro i c seq latest ended hi hc hphase
  rcases lt_or_ge i w.connections.length with hlt | hge
  · rw [List.getElem?_append_left hlt] at hc
    exact h.ahead i c seq latest ended hi hc hphase
  · rw [List.getElem?_append_right hge] at hc
    rw [List.mem_singleton.mp (List.mem_of_getElem? hc)] at hphase
    cases hphase

/-- A thread that wakes reads the newest number, which nothing the viewer has exceeds. -/
theorem ahead_wake (h : InOrder w) (hsound : Sound w) (i : ℕ) (timedOut : Bool) :
    Ahead { w with connections := w.connections.modify i (Connection.wake w.stream timedOut) } := by
  intro j c seq latest ended hj hc hphase p hp
  obtain ⟨old, hold, rfl⟩ := exists_of_getElem?_modify hc
  have hkept := h.ahead j old seq latest ended hj hold
  split at hphase
  · unfold Connection.wake at hphase
    split at hphase
    · split at hphase
      · obtain ⟨rfl, -, -⟩ : w.stream.seq = seq ∧ _ ∧ _ := by simpa using hphase
        rw [hsound.seq_eq]
        exact (h.numbered (h.connected j hj) p hp).le_length
      · exact hkept hphase p hp
    · exact hkept hphase p hp
  · exact hkept hphase p hp

theorem ahead_lose (h : InOrder w) (i : ℕ) :
    Ahead { w with connections := w.connections.modify i Connection.lose } := by
  intro j c seq latest ended hj hc hphase
  obtain ⟨old, hold, rfl⟩ := exists_of_getElem?_modify hc
  split at hphase
  · cases hphase
  · exact h.ahead j old seq latest ended hj hold hphase

/-- The viewer's thread has nothing in hand once it has written it. -/
theorem ahead_proceed (h : InOrder w) (i : ℕ) : Ahead (w.proceed i) := by
  intro j c seq latest ended hj hc hphase
  obtain ⟨old, hold, rfl⟩ := exists_of_getElem?_modify hc
  split at hphase
  · exact absurd hphase (old.phase_proceed_ne_woken seq latest ended)
  · rename_i hne
    have hother : w.viewer.connection ≠ some i := by
      intro hi
      simp only [World.proceed, hi, if_true] at hj
      exact hne (Option.some.inj hj)
    simp only [World.proceed, if_neg hother] at hj ⊢
    exact h.ahead j old seq latest ended hj hold hphase

/-- What the thread writes to the viewer next. -/
theorem documents_next (h : InOrder w) (hsound : Sound w) {i : ℕ}
    (hi : w.viewer.connection = some i) :
    documents (((w.connections[i]?).map Connection.output).getD []) = [] ∨
      ∃ seq doc, Numbered w.pushed seq doc ∧ (∀ p ∈ w.viewer.timeline, p.1 ≤ seq) ∧
        documents (((w.connections[i]?).map Connection.output).getD []) = [(seq, doc)] := by
  cases hc : w.connections[i]? with
  | none => exact Or.inl rfl
  | some c =>
    rcases Connection.documents_output (hsound.served c (List.mem_of_getElem? hc)) with
      hquiet | ⟨seq, latest, ended, doc, hphase, hnumbered, hdocument⟩
    · exact Or.inl hquiet
    · exact Or.inr ⟨seq, doc, hnumbered, h.ahead i c seq latest ended hi hc hphase, hdocument⟩

theorem rising_proceed (h : InOrder w) (hsound : Sound w) {i : ℕ}
    (hi : w.viewer.connection = some i) :
    ((w.proceed i).viewer.timeline.map Prod.fst).Pairwise (· ≤ ·) := by
  rw [World.timeline_proceed hi]
  rcases h.documents_next hsound hi with hquiet | ⟨seq, doc, -, hle, hdocument⟩
  · rw [hquiet, List.append_nil]
    exact h.rising
  · rw [hdocument, List.map_append, List.pairwise_append]
    refine ⟨h.rising, List.pairwise_singleton .., ?_⟩
    simpa using fun id doc hp ↦ hle (id, doc) hp

theorem numbered_proceed (h : InOrder w) (hsound : Sound w) {i : ℕ}
    (hi : w.viewer.connection = some i) (hrun : w.viewer.run = w.run) :
    ∀ p ∈ (w.proceed i).viewer.timeline, Numbered w.pushed p.1 p.2 := by
  intro p hp
  rw [World.timeline_proceed hi, List.mem_append] at hp
  rcases hp with hold | hlast
  · exact h.numbered hrun p hold
  · rcases h.documents_next hsound hi with hquiet | ⟨seq, doc, hseq, -, hdocument⟩
    · exact absurd (hquiet ▸ hlast) List.not_mem_nil
    · rw [hdocument, List.mem_singleton] at hlast
      exact hlast ▸ hseq

theorem proceed (h : InOrder w) (hsound : Sound w) (i : ℕ) : InOrder (w.proceed i) := by
  have hahead := h.ahead_proceed i
  by_cases hi : w.viewer.connection = some i
  · have hrising := h.rising_proceed hsound hi
    have hnumbered := h.numbered_proceed hsound hi
    rw [World.proceed_connected hi] at hahead hrising hnumbered ⊢
    exact { h with
      rising := hrising
      numbered := hnumbered
      ahead := hahead
      told := ⟨h.told.ids_eq, h.told.kinds⟩ }
  · have hworld : w.proceed i =
        { w with connections := w.connections.modify i Connection.proceed } := by
      rw [World.proceed, if_neg hi]
    rw [hworld] at hahead ⊢
    exact { h with ahead := hahead }

/-- A new connection keeps of the timeline what was read of the present server. -/
theorem timeline_reconnect (h : InOrder w) :
    w.reconnect.viewer.timeline <+: w.viewer.timeline ∧
      (w.reconnect.viewer.timeline ≠ [] → w.viewer.run = w.run) := by
  rcases h.run_le.eq_or_lt with heq | hlt
  · refine ⟨?_, fun _ ↦ heq⟩
    simp only [World.reconnect, Viewer.timeline, heq, documents_nil, List.append_nil]
    exact List.prefix_append ..
  · have hnone : w.reconnect.viewer.received.filter (·.run = w.reconnect.viewer.run) = [] := by
      rw [List.filter_eq_nil_iff]
      intro r hr
      have hne : r.run ≠ w.reconnect.viewer.run := ((h.runs_le r hr).trans_lt hlt).ne
      simpa using hne
    have hempty : w.reconnect.viewer.timeline = [] := by
      rw [Viewer.timeline, hnone]
      rfl
    exact ⟨hempty ▸ List.nil_prefix, fun hne ↦ absurd hempty hne⟩

theorem reconnect (h : InOrder w) : InOrder w.reconnect where
  rising := h.rising.sublist (h.timeline_reconnect.1.sublist.map _)
  numbered _ p hp := h.numbered (h.timeline_reconnect.2 (List.ne_nil_of_mem hp)) p
    (h.timeline_reconnect.1.subset hp)
  ahead i c seq latest ended hi hc hphase := by
    have hlength : w.connections.length = i := Option.some.inj hi
    simp only [World.reconnect, ← hlength, List.getElem?_concat_length, Option.some.injEq] at hc
    rw [← hc] at hphase
    cases hphase
  connected _ _ := rfl
  runs := h.runs
  runs_le r hr := (h.runs_le r hr).trans h.run_le
  run_le := le_rfl
  told := ⟨h.told.ids_eq, h.told.kinds⟩

theorem read (h : InOrder w) : InOrder { w with viewer := w.viewer.read } := by
  have htimeline := w.viewer.timeline_read
  have hsame : w.viewer.read.connection = w.viewer.connection ∧
      w.viewer.read.run = w.viewer.run := by
    unfold Viewer.read
    split <;> exact ⟨rfl, rfl⟩
  have hreceived : w.viewer.read.received = w.viewer.received ∨
      ∃ r, r.run = w.viewer.run ∧ w.viewer.read.received = w.viewer.received ++ [r] := by
    unfold Viewer.read
    split
    · exact Or.inl rfl
    · exact Or.inr ⟨_, rfl, rfl⟩
    · exact Or.inl rfl
  have hruns_le : ∀ r ∈ w.viewer.read.received, r.run ≤ w.viewer.run := by
    intro r hr
    rcases hreceived with heq | ⟨last, hlast, heq⟩
    · exact h.runs_le r (heq ▸ hr)
    · rw [heq, List.mem_append, List.mem_singleton] at hr
      rcases hr with hold | rfl
      · exact h.runs_le r hold
      · exact hlast.le
  exact {
    rising := by rw [htimeline]; exact h.rising
    numbered := by rw [htimeline, hsame.2]; exact h.numbered
    ahead := by
      intro i c seq latest ended
      rw [htimeline, hsame.1]
      exact h.ahead i c seq latest ended
    connected := by rw [hsame.1, hsame.2]; exact h.connected
    runs := by
      rcases hreceived with heq | ⟨last, hlast, heq⟩
      · rw [heq]
        exact h.runs
      · rw [heq, List.map_append, List.pairwise_append]
        refine ⟨h.runs, List.pairwise_singleton .., ?_⟩
        simpa [hlast] using h.runs_le
    runs_le := by rw [hsame.2]; exact hruns_le
    run_le := by rw [hsame.2]; exact h.run_le
    told := h.told.read }

theorem perform (h : InOrder w) (hsound : Sound w) (step : Step Doc) : InOrder (w.perform step) := by
  cases step with
  | push doc => exact h.push doc
  | «end» message =>
    simp only [World.perform]
    split
    · exact h
    · exact { h with }
  | connect => exact { h with ahead := h.ahead_connect }
  | wake i timedOut => exact { h with ahead := h.ahead_wake hsound i timedOut }
  | proceed i => exact h.proceed hsound i
  | lose i => exact { h with ahead := h.ahead_lose i }
  | reconnect => exact h.reconnect
  | read => exact h.read

end InOrder

/-- The viewer is told apart what it has and what it missed. -/
structure Tracked (pushed : List Doc) (v : Viewer Doc) : Prop where
  numbered : ∀ r ∈ v.received, Numbered pushed r.id r.doc
  kinds : ∀ before r after, v.received = before ++ r :: after →
    r.kind = if r.id ∈ before.map Receipt.id then .duplicate else .new
  restarts : v.ids.restarts = 0
  skipped : v.ids.skipped = missed (v.received.map Receipt.id)

theorem run_perform (w : World Doc) (step : Step Doc) : (w.perform step).run = w.run := by
  cases step with
  | push doc =>
    simp only [World.perform, World.push]
    split <;> rfl
  | «end» message =>
    simp only [World.perform]
    split <;> rfl
  | _ => rfl

/-- What the steps of one server keep, beside the two invariants. -/
theorem foldl_perform {P : World Doc → Prop}
    (hstep : ∀ w step, Sound w → InOrder w → P w → P (w.perform step)) {w : World Doc}
    (hsound : Sound w) (horder : InOrder w) (hw : P w) (steps : List (Step Doc)) :
    Sound (steps.foldl World.perform w) ∧ InOrder (steps.foldl World.perform w) ∧
      P (steps.foldl World.perform w) := by
  apply List.foldlRecOn (motive := fun w ↦ Sound w ∧ InOrder w ∧ P w) steps World.perform
  · exact ⟨hsound, horder, hw⟩
  · intro w h step _
    exact ⟨h.1.perform step, h.2.1.perform h.1 step, hstep w step h.1 h.2.1 h.2.2⟩

/-- With one server everything received belongs to the timeline. -/
theorem InOrder.tracked {w : World Doc} (h : InOrder w) (hrun : w.run = 0) :
    Tracked w.pushed w.viewer := by
  have hviewer : w.viewer.run = 0 := by simpa [hrun] using h.run_le
  have hall : w.viewer.received.filter (·.run = w.viewer.run) = w.viewer.received := by
    rw [List.filter_eq_self]
    intro r hr
    have hle := h.runs_le r hr
    rw [hviewer, Nat.le_zero] at hle
    simp [hle, hviewer]
  have htimeline : w.viewer.timeline =
      (w.viewer.received.map fun r ↦ (r.id, r.doc)) ++ documents w.viewer.unread := by
    rw [Viewer.timeline, hall]
  have hrising : (w.viewer.received.map Receipt.id).Pairwise (· ≤ ·) := by
    have hboth := h.rising
    rw [htimeline, List.map_append, List.map_map] at hboth
    exact (List.pairwise_append.mp hboth).1
  constructor
  · intro r hr
    apply h.numbered (hviewer.trans hrun.symm) (r.id, r.doc)
    rw [htimeline]
    exact List.mem_append_left _ (List.mem_map_of_mem hr)
  · intro before r after hsplit
    rw [h.told.kinds before r after hsplit]
    apply kindAfter_of_rising
    rw [hsplit, List.append_cons, List.map_append, List.map_append] at hrising
    exact (List.pairwise_append.mp hrising).1
  · rw [h.told.ids_eq]
    exact restarts_of_rising hrising
  · rw [h.told.ids_eq]
    exact skipped_of_rising hrising

/-- Every connection delivers in order up to the end, and a viewer that reconnects knows what it has
seen and how much it missed. -/
theorem delivers_served (steps : List (Step Doc)) :
    (∀ c ∈ (served steps).connections, ∀ received, received <+: c.written →
      Delivered (served steps).pushed received) ∧
      Tracked (served steps).pushed (served steps).viewer := by
  obtain ⟨hsound, horder, hrun⟩ := foldl_perform (P := fun w ↦ w.run = 0)
    (fun w step _ _ hrun ↦ (run_perform w step).trans hrun) (Sound.start 0 {}) InOrder.start rfl steps
  constructor
  · intro c hc received hprefix
    exact (hsound.served c hc).toDelivered.of_prefix hprefix
  · exact horder.tracked hrun

/-- The document sent again, two documents left out while the viewer was away, and the end. -/
example : ((served [.push 'a', .reconnect, .wake 0 false, .proceed 0, .read, .reconnect,
    .wake 1 false, .proceed 1, .read, .push 'b', .push 'c', .reconnect, .push 'd', .end "exit",
    .wake 2 false, .proceed 2, .proceed 2, .read, .read]).viewer.received.map fun r ↦
      (r.id, r.doc, r.kind)) = [(1, 'a', .new), (1, 'a', .duplicate), (4, 'd', .new)] := by
  decide +kernel

end TransportViz.Live
