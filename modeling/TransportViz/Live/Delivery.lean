import TransportViz.Live.Stream

/-!
# What a connection delivers

Whatever the order of the steps, the documents of a connection carry rising numbers, each the number
under which the document was pushed, and the end of the stream is the last thing written, after the
last document. The invariant of a connection says what its thread may still write.
-/

namespace TransportViz.Live

variable {Doc : Type}

/-- The document was pushed as the `id`-th. -/
def Numbered (pushed : List Doc) (id : ℕ) (doc : Doc) : Prop :=
  ∃ n, id = n + 1 ∧ pushed[n]? = some doc

/-- The documents among the events, with their ids. -/
def documents (events : List (Sse Doc)) : List (ℕ × Doc) :=
  events.filterMap fun
    | .document id doc => some (id, doc)
    | _ => none

/-- What a client may have received once `pushed` was pushed. -/
structure Delivered (pushed : List Doc) (received : List (Sse Doc)) : Prop where
  increasing : ((documents received).map Prod.fst).Pairwise (· < ·)
  numbered : ∀ p ∈ documents received, Numbered pushed p.1 p.2
  ended : ∀ message, .status message ∈ received →
    ∃ before, received = before ++ [.status message] ∧ (∀ m, .status m ∉ before) ∧
      ∀ doc, pushed.getLast? = some doc → (pushed.length, doc) ∈ documents before

/-- What a thread has in hand agrees with the stream it read it from. -/
def PhaseSound (s : Stream Doc) (pushed : List Doc) (c : Connection Doc) : Prop :=
  match c.phase with
  | .waiting => True
  | .woken seq latest ended =>
    c.seen ≤ seq ∧ seq ≤ pushed.length ∧ latest = (pushed.take seq).getLast? ∧
      (ended.isSome → s.ended.isSome ∧ seq = pushed.length)
  | .answered ended => ended.isSome → s.ended.isSome ∧ c.seen = pushed.length
  | .gone => True

/-- The invariant of a connection. -/
structure Served (s : Stream Doc) (pushed : List Doc) (c : Connection Doc) : Prop
    extends Delivered pushed c.written where
  seen_le : c.seen ≤ pushed.length
  bound : ∀ p ∈ documents c.written, p.1 ≤ c.seen
  reached : c.seen ≠ 0 → ∃ doc, (c.seen, doc) ∈ documents c.written
  told : ∀ message, .status message ∈ c.written → c.phase = .gone ∧ s.ended.isSome
  phase : PhaseSound s pushed c

@[simp]
theorem documents_nil : documents ([] : List (Sse Doc)) = [] := rfl

@[simp]
theorem documents_append (first second : List (Sse Doc)) :
    documents (first ++ second) = documents first ++ documents second :=
  List.filterMap_append

@[simp]
theorem documents_document (id : ℕ) (doc : Doc) : documents [Sse.document id doc] = [(id, doc)] := rfl

@[simp]
theorem documents_keepAlive : documents [(Sse.keepAlive : Sse Doc)] = [] := rfl

@[simp]
theorem documents_status (message : String) : documents [(Sse.status message : Sse Doc)] = [] := rfl

theorem Numbered.le_length {pushed : List Doc} {id : ℕ} {doc : Doc} (h : Numbered pushed id doc) :
    id ≤ pushed.length := by
  obtain ⟨n, rfl, hn⟩ := h
  exact (List.getElem?_eq_some_iff.mp hn).1

theorem Numbered.append {pushed : List Doc} {id : ℕ} {doc : Doc} (h : Numbered pushed id doc)
    (more : List Doc) : Numbered (pushed ++ more) id doc := by
  obtain ⟨n, rfl, hn⟩ := h
  exact ⟨n, rfl, by rw [List.getElem?_append_left (List.getElem?_eq_some_iff.mp hn).1, hn]⟩

/-- The newest of the first `id` documents is the `id`-th. -/
theorem numbered_take {pushed : List Doc} {id : ℕ} {doc : Doc} (hid : id ≤ pushed.length)
    (h : (pushed.take id).getLast? = some doc) : Numbered pushed id doc := by
  cases id with
  | zero => simp at h
  | succ n =>
    refine ⟨n, rfl, ?_⟩
    rw [List.getLast?_eq_getElem?, List.length_take, min_eq_left hid, Nat.add_sub_cancel,
      List.getElem?_take_of_lt (Nat.lt_succ_self n)] at h
    exact h

theorem Numbered.eq_last {pushed : List Doc} {doc last : Doc}
    (h : Numbered pushed pushed.length doc) (hlast : pushed.getLast? = some last) : doc = last := by
  obtain ⟨n, hn, hdoc⟩ := h
  rw [List.getLast?_eq_getElem?, hn, Nat.add_sub_cancel, hdoc] at hlast
  exact Option.some.inj hlast

/-- A client that was cut off received the first part. -/
theorem Delivered.of_prefix {pushed : List Doc} {received written : List (Sse Doc)}
    (h : Delivered pushed written) (hread : received <+: written) : Delivered pushed received where
  increasing := h.increasing.sublist ((hread.sublist.filterMap _).map _)
  numbered p hp := h.numbered p ((hread.sublist.filterMap _).mem hp)
  ended message hmessage := by
    obtain ⟨before, hwritten, hbefore, hlast⟩ := h.ended message (hread.subset hmessage)
    rw [hwritten, List.prefix_concat_iff] at hread
    rcases hread with heq | hshort
    · exact ⟨before, heq, hbefore, hlast⟩
    · exact absurd (hshort.subset hmessage) (hbefore message)

namespace Served

variable {s : Stream Doc} {pushed : List Doc} {c : Connection Doc}

theorem start (s : Stream Doc) (pushed : List Doc) : Served s pushed {} where
  increasing := List.Pairwise.nil
  numbered _ hp := absurd hp List.not_mem_nil
  ended _ h := absurd h List.not_mem_nil
  seen_le := Nat.zero_le _
  bound _ hp := absurd hp List.not_mem_nil
  reached h := absurd rfl h
  told _ h := absurd h List.not_mem_nil
  phase := trivial

/-- Nothing was told of the end while the stream goes on. -/
theorem no_status (h : Served s pushed c) (hs : s.ended = none) (message : String) :
    .status message ∉ c.written := by
  intro hmessage
  simpa [hs] using (h.told message hmessage).2

theorem no_status_of_phase (h : Served s pushed c) (hphase : c.phase ≠ .gone) (message : String) :
    .status message ∉ c.written :=
  fun hmessage ↦ hphase (h.told message hmessage).1

theorem push (h : Served s pushed c) (hs : s.ended = none) (doc : Doc) :
    Served (s.push doc) (pushed ++ [doc]) c where
  increasing := h.increasing
  numbered p hp := (h.numbered p hp).append [doc]
  ended message hmessage := absurd hmessage (h.no_status hs message)
  seen_le := by
    have := h.seen_le
    simp only [List.length_append, List.length_singleton]
    omega
  bound := h.bound
  reached := h.reached
  told message hmessage := absurd hmessage (h.no_status hs message)
  phase := by
    have hphase := h.phase
    simp only [PhaseSound, hs] at hphase ⊢
    split at hphase
    · trivial
    · rename_i seq latest ended _
      obtain ⟨hseen, hseq, hlatest, hended⟩ := hphase
      refine ⟨hseen, hseq.trans (by simp), ?_, fun hsome ↦ by simpa using (hended hsome).1⟩
      rw [List.take_append_of_le_length hseq, hlatest]
    · intro hsome
      simpa using (hphase hsome).1
    · trivial

theorem «end» (h : Served s pushed c) (message : String) : Served (s.end message) pushed c where
  toDelivered := h.toDelivered
  seen_le := h.seen_le
  bound := h.bound
  reached := h.reached
  told m hm := ⟨(h.told m hm).1, rfl⟩
  phase := by
    have hphase := h.phase
    simp only [PhaseSound] at hphase ⊢
    split at hphase
    · trivial
    · exact ⟨hphase.1, hphase.2.1, hphase.2.2.1, fun hsome ↦ ⟨rfl, (hphase.2.2.2 hsome).2⟩⟩
    · exact fun hsome ↦ ⟨rfl, (hphase hsome).2⟩
    · trivial

/-- Where nothing but comment lines is written, only the phase is in question. -/
theorem append_quiet (h : Served s pushed c) (hphase : c.phase ≠ .gone) (phase : Phase Doc)
    (hsound : PhaseSound s pushed { c with phase := phase }) (items : List (Sse Doc))
    (hdocuments : documents items = []) (hstatus : ∀ m, .status m ∉ items) :
    Served s pushed { c with phase := phase, written := c.written ++ items } := by
  have hsame : documents (c.written ++ items) = documents c.written := by
    rw [documents_append, hdocuments, List.append_nil]
  have hquiet (m : String) : .status m ∉ c.written ++ items := by
    simpa [h.no_status_of_phase hphase m] using hstatus m
  exact {
    increasing := by simpa only [hsame] using h.increasing
    numbered := by simpa only [hsame] using h.numbered
    ended := fun m hm ↦ absurd hm (hquiet m)
    seen_le := h.seen_le
    bound := by simpa only [hsame] using h.bound
    reached := by simpa only [hsame] using h.reached
    told := fun m hm ↦ absurd hm (hquiet m)
    phase := hsound }

/-- The thread is past the seen documents, so the next one carries a higher number. -/
theorem append_document (h : Served s pushed c) (hphase : c.phase ≠ .gone) (id : ℕ) (doc : Doc)
    (hlt : c.seen < id) (hnumbered : Numbered pushed id doc) (phase : Phase Doc)
    (hsound : PhaseSound s pushed { c with seen := id, phase := phase }) :
    Served s pushed
      { seen := id, phase := phase, written := c.written ++ [.document id doc] } := by
  have hquiet (m : String) : .status m ∉ c.written ++ [Sse.document id doc] := by
    simpa using h.no_status_of_phase hphase m
  exact {
    increasing := by
      rw [documents_append, List.map_append, List.pairwise_append]
      refine ⟨h.increasing, List.pairwise_singleton .., ?_⟩
      simp only [List.mem_map, documents_document, List.map_cons, List.map_nil, List.mem_singleton]
      intro earlier hearlier last hlast
      obtain ⟨p, hp, rfl⟩ := hearlier
      exact hlast ▸ (h.bound p hp).trans_lt hlt
    numbered := by
      simp only [documents_append, documents_document, List.mem_append, List.mem_singleton]
      intro p hp
      rcases hp with hp | rfl
      · exact h.numbered p hp
      · exact hnumbered
    ended := fun m hm ↦ absurd hm (hquiet m)
    seen_le := hnumbered.le_length
    bound := by
      simp only [documents_append, documents_document, List.mem_append, List.mem_singleton]
      intro p hp
      rcases hp with hp | rfl
      · exact ((h.bound p hp).trans_lt hlt).le
      · exact le_rfl
    reached := fun _ ↦ ⟨doc, by simp⟩
    told := fun m hm ↦ absurd hm (hquiet m)
    phase := hsound }

/-- A thread told of the end has sent the last document. -/
theorem append_status (h : Served s pushed c) (message : String)
    (hphase : c.phase = .answered (some message)) :
    Served s pushed { c with phase := .gone, written := c.written ++ [.status message] } := by
  have hquiet := h.no_status_of_phase (by simp [hphase])
  have hsame : documents (c.written ++ [.status message]) = documents c.written := by simp
  obtain ⟨hended, hseen⟩ : s.ended.isSome ∧ c.seen = pushed.length := by
    simpa [PhaseSound, hphase] using h.phase
  have hlast (doc : Doc) (hdoc : pushed.getLast? = some doc) :
      (pushed.length, doc) ∈ documents c.written := by
    have hne : pushed ≠ [] := by
      rintro rfl
      cases hdoc
    obtain ⟨sent, hsent⟩ := h.reached (by rw [hseen]; exact mt List.length_eq_zero_iff.mp hne)
    rw [hseen] at hsent
    obtain rfl := (h.numbered _ hsent).eq_last hdoc
    exact hsent
  exact {
    increasing := by simpa only [hsame] using h.increasing
    numbered := by simpa only [hsame] using h.numbered
    ended := by
      intro m hm
      obtain rfl : m = message := by simpa [hquiet] using hm
      exact ⟨c.written, rfl, hquiet, hlast⟩
    seen_le := h.seen_le
    bound := by simpa only [hsame] using h.bound
    reached := by simpa only [hsame] using h.reached
    told := fun _ _ ↦ ⟨rfl, hended⟩
    phase := trivial }

theorem lose (h : Served s pushed c) : Served s pushed c.lose where
  toDelivered := h.toDelivered
  seen_le := h.seen_le
  bound := h.bound
  reached := h.reached
  told message hmessage := ⟨rfl, (h.told message hmessage).2⟩
  phase := trivial

theorem wake (h : Served s pushed c) (hseq : s.seq = pushed.length)
    (hlatest : s.latest = pushed.getLast?) (timedOut : Bool) :
    Served s pushed (c.wake s timedOut) := by
  unfold Connection.wake
  split
  · rename_i hphase
    split
    · have hsound : PhaseSound s pushed { c with phase := .woken s.seq s.latest s.ended } := by
        refine ⟨hseq ▸ h.seen_le, hseq.le, ?_, fun hsome ↦ ⟨hsome, hseq⟩⟩
        rw [hseq, List.take_length, hlatest]
      simpa using h.append_quiet (by simp [hphase]) _ hsound [] rfl (by simp)
    · exact h
  · exact h

/-- The thread has a new document in hand, or has seen all that `wait` told it of. -/
theorem woken_cases (h : Served s pushed c) {seq : ℕ} {latest : Option Doc} {ended : Option String}
    (hphase : c.phase = .woken seq latest ended) :
    (∃ doc, latest = some doc ∧ c.seen < seq ∧ Numbered pushed seq doc) ∨ c.seen = seq := by
  obtain ⟨hseen, hseq, hlatest, -⟩ : c.seen ≤ seq ∧ seq ≤ pushed.length ∧
      latest = (pushed.take seq).getLast? ∧ _ := by
    simpa only [PhaseSound, hphase] using h.phase
  rcases hseen.eq_or_lt with heq | hlt
  · exact Or.inr heq
  · cases latest with
    | none =>
      have := List.getLast?_eq_none_iff.mp hlatest.symm
      have hlength := congrArg List.length this
      rw [List.length_take, min_eq_left hseq, List.length_nil] at hlength
      omega
    | some doc => exact Or.inl ⟨doc, rfl, hlt, numbered_take hseq hlatest.symm⟩

theorem proceed (h : Served s pushed c) : Served s pushed c.proceed := by
  cases hphase : c.phase with
  | waiting => simpa only [Connection.proceed, hphase] using h
  | gone => simpa only [Connection.proceed, hphase] using h
  | answered ended =>
    cases ended with
    | none =>
      simpa [Connection.proceed, hphase] using
        h.append_quiet (by simp [hphase]) .waiting trivial [] rfl (by simp)
    | some message =>
      simpa [Connection.proceed, Connection.output, hphase] using h.append_status message hphase
  | woken seq latest ended =>
    have hlive : c.phase ≠ .gone := by simp [hphase]
    obtain ⟨-, -, -, hended⟩ : c.seen ≤ seq ∧ _ ∧ _ ∧
        (ended.isSome → s.ended.isSome ∧ seq = pushed.length) := by
      simpa only [PhaseSound, hphase] using h.phase
    rcases h.woken_cases hphase with hnew | hseen
    · obtain ⟨doc, rfl, hlt, hnumbered⟩ := hnew
      simpa [Connection.proceed, Connection.output, hphase, hlt.ne'] using
        h.append_document hlive seq doc hlt hnumbered (.answered ended) hended
    · subst hseen
      simpa [Connection.proceed, Connection.output, hphase] using
        h.append_quiet hlive (.answered ended) hended (if ended.isNone then [.keepAlive] else [])
          (by split <;> rfl) (by split <;> simp)

end Served

/-- What stands at a place after one element was changed. -/
theorem exists_of_getElem?_modify {α : Type} {l : List α} {f : α → α} {i j : ℕ} {a : α}
    (h : (l.modify i f)[j]? = some a) :
    ∃ old, l[j]? = some old ∧ a = if i = j then f old else old := by
  rw [List.getElem?_modify] at h
  obtain ⟨old, hold, rfl⟩ := Option.map_eq_some_iff.mp h
  exact ⟨old, hold, rfl⟩

theorem forall_mem_modify {α : Type} {P : α → Prop} {l : List α} {f : α → α} (i : ℕ)
    (hl : ∀ a ∈ l, P a) (hf : ∀ a ∈ l, P (f a)) : ∀ a ∈ l.modify i f, P a := by
  intro a ha
  obtain ⟨j, hj⟩ := List.mem_iff_getElem?.mp ha
  obtain ⟨old, hold, rfl⟩ := exists_of_getElem?_modify hj
  have hmem := List.mem_of_getElem? hold
  split
  · exact hf old hmem
  · exact hl old hmem

/-- The stream stands at the documents pushed, and every connection keeps its invariant. -/
structure Sound (w : World Doc) : Prop where
  seq_eq : w.stream.seq = w.pushed.length
  latest_eq : w.stream.latest = w.pushed.getLast?
  served : ∀ c ∈ w.connections, Served w.stream w.pushed c

namespace Sound

theorem start (run : ℕ) (viewer : Viewer Doc) : Sound { run := run, viewer := viewer } where
  seq_eq := rfl
  latest_eq := rfl
  served _ hc := absurd hc List.not_mem_nil

variable {w : World Doc}

/-- Steps of the threads leave the stream alone. -/
theorem modify (h : Sound w) (i : ℕ) (f : Connection Doc → Connection Doc)
    (hf : ∀ c ∈ w.connections, Served w.stream w.pushed (f c)) (viewer : Viewer Doc) :
    Sound { w with connections := w.connections.modify i f, viewer := viewer } where
  seq_eq := h.seq_eq
  latest_eq := h.latest_eq
  served := forall_mem_modify i h.served hf

theorem connect (h : Sound w) (viewer : Viewer Doc) :
    Sound { w with connections := w.connections ++ [{}], viewer := viewer } where
  seq_eq := h.seq_eq
  latest_eq := h.latest_eq
  served c hc := by
    rcases List.mem_append.mp hc with hold | hnew
    · exact h.served c hold
    · rw [List.mem_singleton.mp hnew]
      exact Served.start _ _

theorem push (h : Sound w) (doc : Doc) : Sound (w.push doc) := by
  unfold World.push
  split
  · exact h
  · rename_i hended
    have hnone : w.stream.ended = none := by simpa using hended
    exact {
      seq_eq := by simp [Stream.push, h.seq_eq]
      latest_eq := by simp [Stream.push]
      served := fun c hc ↦ (h.served c hc).push hnone doc }

theorem perform (h : Sound w) (step : Step Doc) : Sound (w.perform step) := by
  cases step with
  | push doc => exact h.push doc
  | «end» message =>
    simp only [World.perform]
    split
    · exact h
    · exact ⟨h.seq_eq, h.latest_eq, fun c hc ↦ (h.served c hc).end message⟩
  | connect => exact h.connect w.viewer
  | wake i timedOut =>
    exact h.modify i _ (fun c hc ↦ (h.served c hc).wake h.seq_eq h.latest_eq timedOut) w.viewer
  | proceed i => exact h.modify i _ (fun c hc ↦ (h.served c hc).proceed) _
  | lose i => exact h.modify i _ (fun c hc ↦ (h.served c hc).lose) w.viewer
  | reconnect => exact h.connect _
  | read => exact ⟨h.seq_eq, h.latest_eq, h.served⟩

end Sound

end TransportViz.Live
