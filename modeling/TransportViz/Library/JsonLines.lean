import Mathlib.Data.List.DropRight
import Mathlib.Data.List.Forall2
import TransportViz.Library.JsonDocuments
import TransportViz.Library.Lines

/-!
# A document per line

A program that writes one document per line can be stopped at any time, and what it has written is then
some whole lines and a part of the next one. Readers go through the lines from the first or from the
last.
-/

namespace JsonLines

variable {Doc : Type}

/-! ## Model -/

/-- The text of the documents. -/
def stream (write : Doc → List Char) (docs : List Doc) : List Char :=
  docs.flatMap fun doc ↦ write doc ++ ['\n']

/-- Every line; a last one without characters is none. -/
def lines (text : List Char) : List (List Char) := (Lines.linesOf '\n' text).map Lines.Line.bytes

/-- Every line with the newline that ends it. -/
def rawLines : List Char → List (List Char)
  | [] => []
  | c :: rest =>
      if c = '\n' then [c] :: rawLines rest
      else
        match rawLines rest with
        | [] => [[c]]
        | line :: further => (c :: line) :: further

/-- What is found in the first line, from the last one on, that has it. -/
def searchBack {α : Type} (find : List Char → Option α) : List Char → Option α
  | [] => none
  | c :: rest =>
      let line := (c :: rest).rtakeWhile (· ≠ '\n')
      match find line with
      | some a => some a
      | none => searchBack find ((c :: rest).take (rest.length - line.length))
  termination_by text => text.length
  decreasing_by
    rw [List.length_take, List.length_cons]
    omega

/-- The text without the spaces around it. -/
def trim (space : Char → Bool) (text : List Char) : List Char := (text.dropWhile space).rdropWhile space

/-! ## Specification -/

/-- What readers rely on: the document takes a line, and only as a whole it is read. -/
structure Reads (write : Doc → List Char) (parse : List Char → Option Doc) (doc : Doc) : Prop where
  framed : ∃ text, write doc = '{' :: (text ++ ['}'])
  newline_notMem : '\n' ∉ write doc
  parse_blanks : ∀ blanks, (∀ c ∈ blanks, JsonText.blank c = true) →
    parse (write doc ++ blanks) = some doc
  parse_more : ∀ c rest, JsonText.blank c = false → parse (write doc ++ '\n' :: c :: rest) = none
  parse_part : ∀ text more, text ++ more = write doc → more ≠ [] → parse text = none

/-- A part of the document, not all of it. -/
def Part (write : Doc → List Char) (doc : Doc) (text : List Char) : Prop :=
  ∃ more, text ++ more = write doc ∧ more ≠ []

/-- What was written of the documents when the program was stopped: the first `k`, and when it was not
between two lines, a part of the next one. -/
inductive Stopped (write : Doc → List Char) (docs : List Doc) : ℕ → Bool → List Char → Prop
  | between {k : ℕ} (h : k ≤ docs.length) : Stopped write docs k true (stream write (docs.take k))
  | unended {k : ℕ} {doc : Doc} (h : docs[k]? = some doc) :
      Stopped write docs (k + 1) true (stream write (docs.take k) ++ write doc)
  | inside {k : ℕ} {doc : Doc} {part : List Char} (h : docs[k]? = some doc) (hpart : Part write doc part)
      (hne : part ≠ []) : Stopped write docs k false (stream write (docs.take k) ++ part)

/-! ## Lines -/

section AllLines

theorem map_bytes_place (start : ℕ) (parts : List (List Char)) :
    (Lines.place start parts).map Lines.Line.bytes = (Lines.place 0 parts).map Lines.Line.bytes := by
  induction parts generalizing start with
  | nil => rfl
  | cons part rest ih =>
    rw [Lines.place, Lines.place]
    split_ifs
    · rfl
    · rw [List.map_cons, List.map_cons, ih, ih (0 + part.length + 1)]

@[simp]
theorem lines_nil : lines [] = [] := rfl

theorem lines_cons {line : List Char} (h : '\n' ∉ line) (rest : List Char) :
    lines (line ++ '\n' :: rest) = line :: lines rest := by
  rw [lines, Lines.linesOf, List.splitOn_append_cons_self_of_not_mem h, Lines.place,
    if_neg fun hempty ↦ List.splitOn_ne_nil _ _ hempty.2, List.map_cons, map_bytes_place]
  rfl

theorem lines_last {line : List Char} (h : '\n' ∉ line) (hne : line ≠ []) : lines line = [line] := by
  rw [lines, Lines.linesOf, List.splitOn_eq_singleton h, Lines.place, if_neg fun hempty ↦ hne hempty.1]
  rfl

theorem rawLines_cons {line : List Char} (h : '\n' ∉ line) (rest : List Char) :
    rawLines (line ++ '\n' :: rest) = (line ++ ['\n']) :: rawLines rest := by
  induction line with
  | nil => rfl
  | cons c line ih =>
    rw [List.mem_cons, not_or] at h
    rw [List.cons_append, rawLines, if_neg (Ne.symm h.1), ih h.2]
    rfl

theorem rawLines_last {line : List Char} (h : '\n' ∉ line) (hne : line ≠ []) :
    rawLines line = [line] := by
  induction line with
  | nil => exact absurd rfl hne
  | cons c line ih =>
    rw [List.mem_cons, not_or] at h
    rw [rawLines, if_neg (Ne.symm h.1)]
    by_cases hlast : line = []
    · rw [hlast]
      rfl
    · rw [ih h.2 hlast]

variable {α : Type} (find : List Char → Option α)

theorem rtakeWhile_line {line : List Char} (h : '\n' ∉ line) (before : List Char) :
    (before ++ '\n' :: line).rtakeWhile (· ≠ '\n') = line := by
  have hall : ∀ c ∈ line.reverse, decide (c ≠ '\n') = true := by
    intro c hc
    rw [decide_eq_true_eq]
    rintro rfl
    exact h (List.mem_reverse.mp hc)
  rw [List.rtakeWhile, List.reverse_append, List.reverse_cons, List.append_assoc,
    List.takeWhile_append_of_pos hall]
  simp

theorem searchBack_append {line : List Char} (h : '\n' ∉ line) (before : List Char) :
    searchBack find (before ++ '\n' :: line) = (find line <|> searchBack find before) := by
  obtain ⟨c, rest, htext⟩ : ∃ c rest, before ++ '\n' :: line = c :: rest :=
    List.exists_cons_of_ne_nil (by simp)
  have hlength := congrArg List.length htext
  rw [List.length_append, List.length_cons, List.length_cons] at hlength
  have htake : (c :: rest).take (rest.length - line.length) = before := by
    rw [← htext, show rest.length - line.length = before.length by omega, List.take_left]
  have hline : (c :: rest).rtakeWhile (· ≠ '\n') = line := by rw [← htext, rtakeWhile_line h]
  rw [htext, searchBack, hline, htake]
  cases find line <;> rfl

theorem searchBack_line {line : List Char} (h : '\n' ∉ line) (hne : line ≠ []) :
    searchBack find line = find line := by
  obtain ⟨c, rest, rfl⟩ := List.exists_cons_of_ne_nil hne
  have hline : (c :: rest).rtakeWhile (· ≠ '\n') = c :: rest := by
    rw [List.rtakeWhile_eq_self_iff]
    intro a ha
    rw [decide_eq_true_eq]
    rintro rfl
    exact h ha
  rw [searchBack, hline]
  cases hfind : find (c :: rest) with
  | none => simp [searchBack]
  | some a => rfl

end AllLines

/-! ## The lines of a stream -/

section Stream

variable (write : Doc → List Char) (docs : List Doc) {part : List Char}

theorem stream_cons (doc : Doc) :
    stream write (doc :: docs) = write doc ++ '\n' :: stream write docs := by
  rw [stream, List.flatMap_cons, List.append_assoc]
  rfl

theorem stream_concat (doc : Doc) :
    stream write (docs ++ [doc]) = stream write docs ++ (write doc ++ ['\n']) := by
  rw [stream, List.flatMap_append, List.flatMap_singleton]
  rfl

variable {write docs}

theorem lines_stream (h : ∀ doc ∈ docs, '\n' ∉ write doc) (hpart : '\n' ∉ part) :
    lines (stream write docs ++ part) = docs.map write ++ if part = [] then [] else [part] := by
  induction docs with
  | nil =>
    by_cases hempty : part = []
    · simp [hempty, stream]
    · simp [hempty, stream, lines_last hpart hempty]
  | cons doc docs ih =>
    rw [List.forall_mem_cons] at h
    rw [stream_cons, List.append_assoc, List.cons_append, lines_cons h.1, ih h.2, List.map_cons,
      List.cons_append]

theorem rawLines_stream (h : ∀ doc ∈ docs, '\n' ∉ write doc) (hpart : '\n' ∉ part) :
    rawLines (stream write docs ++ part) =
      (docs.map fun doc ↦ write doc ++ ['\n']) ++ if part = [] then [] else [part] := by
  induction docs with
  | nil =>
    by_cases hempty : part = []
    · simp [hempty, stream, rawLines]
    · simp [hempty, stream, rawLines_last hpart hempty]
  | cons doc docs ih =>
    rw [List.forall_mem_cons] at h
    rw [stream_cons, List.append_assoc, List.cons_append, rawLines_cons h.1, ih h.2, List.map_cons,
      List.cons_append]

/-- A text that breaks off is some whole lines and the part of the next one. -/
theorem exists_stream_of_prefix {text : List Char} (h : text <+: stream write docs) :
    ∃ k, ∃ part, text = stream write (docs.take k) ++ part ∧
      (part = [] ∨ ∃ doc, docs[k]? = some doc ∧ part <+: write doc) := by
  induction docs generalizing text with
  | nil => exact ⟨0, [], by simpa [stream] using h, Or.inl rfl⟩
  | cons doc docs ih =>
    have hline : stream write (doc :: docs) = (write doc ++ ['\n']) ++ stream write docs := rfl
    rw [hline] at h
    rcases List.prefix_or_prefix_of_prefix h (List.prefix_append _ _) with hfirst | ⟨further, rfl⟩
    · rcases List.prefix_concat_iff.mp hfirst with rfl | hpart
      · exact ⟨1, [], by simp [stream], Or.inl rfl⟩
      · exact ⟨0, text, by simp [stream], Or.inr ⟨doc, rfl, hpart⟩⟩
    · obtain ⟨k, part, hfurther, hpart⟩ := ih ((List.prefix_append_right_inj _).mp h)
      refine ⟨k + 1, part, ?_, hpart⟩
      rw [hfurther, List.take_succ_cons, ← List.append_assoc]
      rfl

end Stream

/-! ## Programs that were stopped -/

section Interrupted

variable {write : Doc → List Char} {docs : List Doc}

/-- Whenever the program is stopped, it has written some documents and maybe a part of the next one. -/
theorem exists_stopped {text : List Char} (h : text <+: stream write docs) :
    ∃ k whole, Stopped write docs k whole text := by
  obtain ⟨k, part, rfl, hpart⟩ := exists_stream_of_prefix h
  rcases hpart with rfl | ⟨doc, hdoc, more, hmore⟩
  · have htake : docs.take k = docs.take (min k docs.length) := List.take_eq_take_min
    rw [List.append_nil, htake]
    exact ⟨min k docs.length, true, .between (Nat.min_le_right _ _)⟩
  · by_cases hwhole : more = []
    · rw [hwhole, List.append_nil] at hmore
      exact ⟨k + 1, true, hmore ▸ .unended hdoc⟩
    · by_cases hempty : part = []
      · rw [hempty, List.append_nil]
        exact ⟨k, true, .between (List.getElem?_eq_some_iff.mp hdoc).1.le⟩
      · exact ⟨k, false, .inside hdoc ⟨more, hmore, hwhole⟩ hempty⟩

theorem take_succ_eq {k : ℕ} {doc : Doc} (h : docs[k]? = some doc) :
    docs.take (k + 1) = docs.take k ++ [doc] := by
  rw [List.take_add_one, h]
  rfl

theorem Stopped.length_take {k : ℕ} {whole : Bool} {text : List Char}
    (h : Stopped write docs k whole text) :
    (docs.take k).length = k := by
  rw [List.length_take, Nat.min_eq_left]
  cases h with
  | between h => exact h
  | unended h => exact (List.getElem?_eq_some_iff.mp h).1
  | inside h => exact (List.getElem?_eq_some_iff.mp h).1.le

theorem newline_notMem_part {doc : Doc} {part : List Char} (h : '\n' ∉ write doc)
    (hpart : Part write doc part) : '\n' ∉ part := by
  obtain ⟨more, hmore, -⟩ := hpart
  rw [← hmore, List.mem_append, not_or] at h
  exact h.1

/-- The line that was not finished. -/
structure Torn (write : Doc → List Char) (docs : List Doc) (k : ℕ) (whole : Bool)
    (torn : List (List Char)) : Prop where
  nil : whole = true → torn = []
  part : whole = false → ∃ part doc, torn = [part] ∧ part ≠ [] ∧ docs[k]? = some doc ∧
    Part write doc part

theorem Torn.length_eq {k : ℕ} {whole : Bool} {torn : List (List Char)}
    (h : Torn write docs k whole torn) : torn.length = if whole then 0 else 1 := by
  cases whole with
  | true =>
    rw [h.nil rfl]
    rfl
  | false =>
    obtain ⟨part, doc, rfl, -⟩ := h.part rfl
    rfl

theorem torn_nil (k : ℕ) : Torn write docs k true [] := ⟨fun _ ↦ rfl, nofun⟩

theorem torn_part {k : ℕ} {doc : Doc} {part : List Char} (h : docs[k]? = some doc)
    (hpart : Part write doc part) (hne : part ≠ []) : Torn write docs k false [part] :=
  ⟨nofun, fun _ ↦ ⟨part, doc, rfl, hne, h, hpart⟩⟩

variable {parse : List Char → Option Doc}

theorem Reads.ne_nil {doc : Doc} (h : Reads write parse doc) : write doc ≠ [] := by
  obtain ⟨text, htext⟩ := h.framed
  rw [htext]
  exact List.cons_ne_nil _ _

/-- A document is read, with its newline and without. -/
theorem Reads.parse_write {doc : Doc} (h : Reads write parse doc) : parse (write doc) = some doc := by
  have hparse := h.parse_blanks [] nofun
  rwa [List.append_nil] at hparse

theorem Reads.parse_line {doc : Doc} (h : Reads write parse doc) :
    parse (write doc ++ ['\n']) = some doc :=
  h.parse_blanks ['\n'] (List.forall_mem_singleton.mpr rfl)

theorem Reads.parse_of_part {doc : Doc} (h : Reads write parse doc) {part : List Char}
    (hpart : Part write doc part) : parse part = none := by
  obtain ⟨more, hmore, hne⟩ := hpart
  exact h.parse_part part more hmore hne

/-- A part starts as the document does. -/
theorem Reads.exists_part {doc : Doc} (h : Reads write parse doc) {part : List Char}
    (hpart : Part write doc part) (hne : part ≠ []) : ∃ rest, part = '{' :: rest := by
  obtain ⟨more, hmore, -⟩ := hpart
  obtain ⟨text, htext⟩ := h.framed
  obtain ⟨c, rest, rfl⟩ := List.exists_cons_of_ne_nil hne
  rw [htext, List.cons_append] at hmore
  exact ⟨rest, by rw [(List.cons.inj hmore).1]⟩

variable {k : ℕ} {whole : Bool} {text : List Char}

theorem notMem_of_mem_take (hread : ∀ doc ∈ docs, Reads write parse doc) (n : ℕ) :
    ∀ doc ∈ docs.take n, '\n' ∉ write doc := fun doc hdoc ↦
  (hread doc (List.mem_of_mem_take hdoc)).newline_notMem

/-- The lines are those of the documents, and maybe a part of the next one. -/
theorem Stopped.lines_eq (h : Stopped write docs k whole text)
    (hread : ∀ doc ∈ docs, Reads write parse doc) :
    ∃ torn, Torn write docs k whole torn ∧ lines text = (docs.take k).map write ++ torn := by
  cases h with
  | between _ =>
    refine ⟨[], torn_nil k, ?_⟩
    rw [← List.append_nil (stream write _), lines_stream (notMem_of_mem_take hread k) List.not_mem_nil]
    rfl
  | @unended k doc hdoc =>
    have hdocument := hread doc (List.mem_of_getElem? hdoc)
    refine ⟨[], torn_nil _, ?_⟩
    rw [lines_stream (notMem_of_mem_take hread k) hdocument.newline_notMem, if_neg hdocument.ne_nil,
      take_succ_eq hdoc, List.map_append, List.append_nil]
    rfl
  | @inside k doc part hdoc hpart hne =>
    have hmem := newline_notMem_part (hread doc (List.mem_of_getElem? hdoc)).newline_notMem hpart
    refine ⟨[part], torn_part hdoc hpart hne, ?_⟩
    rw [lines_stream (notMem_of_mem_take hread k) hmem, if_neg hne]

/-- A text with a line that broke off is none of whole lines. -/
theorem Stopped.whole_of_whole {k' : ℕ} (h : Stopped write docs k true text)
    (hread : ∀ doc ∈ docs, Reads write parse doc) : ¬Stopped write docs k' false text := by
  intro h'
  obtain ⟨torn, htorn, hlines⟩ := h.lines_eq hread
  obtain ⟨torn', htorn', hlines'⟩ := h'.lines_eq hread
  obtain ⟨part, doc, rfl, -, hdoc, more, hmore, hne⟩ := htorn'.part rfl
  rw [htorn.nil rfl, List.append_nil] at hlines
  have heq : (docs.take k).map write = (docs.take k').map write ++ [part] := hlines.symm.trans hlines'
  have hcount : k = k' + 1 := by
    have hlength := congrArg List.length heq
    rwa [List.length_map, h.length_take, List.length_append, List.length_map, h'.length_take] at hlength
  rw [hcount, take_succ_eq hdoc, List.map_append] at heq
  have hpart : write doc = part := List.singleton_inj.mp (List.append_cancel_left heq)
  rw [hpart] at hmore
  exact hne (List.append_right_eq_self.mp hmore)

/-- What was written tells which documents are whole. -/
theorem Stopped.unique {k' : ℕ} {whole' : Bool} (h : Stopped write docs k whole text)
    (h' : Stopped write docs k' whole' text) (hread : ∀ doc ∈ docs, Reads write parse doc) :
    k = k' ∧ whole = whole' := by
  have hsame : whole = whole' := by
    cases whole <;> cases whole'
    · rfl
    · exact absurd h (h'.whole_of_whole hread)
    · exact absurd h' (h.whole_of_whole hread)
    · rfl
  subst hsame
  obtain ⟨torn, htorn, hlines⟩ := h.lines_eq hread
  obtain ⟨torn', htorn', hlines'⟩ := h'.lines_eq hread
  have hlength := congrArg List.length (hlines.symm.trans hlines')
  rw [List.length_append, List.length_map, h.length_take, List.length_append, List.length_map,
    h'.length_take, htorn.length_eq, htorn'.length_eq] at hlength
  exact ⟨Nat.add_right_cancel hlength, rfl⟩

/-- The same with the newlines, which the last line may lack. -/
theorem Stopped.rawLines_eq (h : Stopped write docs k whole text)
    (hread : ∀ doc ∈ docs, Reads write parse doc) :
    ∃ torn raws, Torn write docs k whole torn ∧ rawLines text = raws ++ torn ∧
      List.Forall₂ (fun doc raw ↦ raw = write doc ++ ['\n'] ∨ raw = write doc) (docs.take k) raws := by
  have hended : ∀ n, List.Forall₂ (fun doc raw ↦ raw = write doc ++ ['\n'] ∨ raw = write doc)
      (docs.take n) ((docs.take n).map fun doc ↦ write doc ++ ['\n']) := fun n ↦ by
    rw [List.forall₂_map_right_iff, List.forall₂_same]
    exact fun _ _ ↦ Or.inl rfl
  cases h with
  | between _ =>
    refine ⟨[], _, torn_nil k, ?_, hended k⟩
    rw [← List.append_nil (stream write _),
      rawLines_stream (notMem_of_mem_take hread k) List.not_mem_nil]
    rfl
  | @unended k doc hdoc =>
    have hdocument := hread doc (List.mem_of_getElem? hdoc)
    refine ⟨[], (docs.take k).map (fun doc ↦ write doc ++ ['\n']) ++ [write doc], torn_nil _, ?_, ?_⟩
    · rw [rawLines_stream (notMem_of_mem_take hread k) hdocument.newline_notMem,
        if_neg hdocument.ne_nil, List.append_nil]
    · rw [take_succ_eq hdoc]
      exact List.rel_append (hended k) (.cons (Or.inr rfl) .nil)
  | @inside k doc part hdoc hpart hne =>
    have hmem := newline_notMem_part (hread doc (List.mem_of_getElem? hdoc)).newline_notMem hpart
    refine ⟨[part], _, torn_part hdoc hpart hne, ?_, hended k⟩
    rw [rawLines_stream (notMem_of_mem_take hread k) hmem, if_neg hne]

theorem exists_brace {further : List Doc} (hread : ∀ doc ∈ further, Reads write parse doc)
    {part : List Char} (hpart : further = [] → ∃ rest, part = '{' :: rest) :
    ∃ rest, stream write further ++ part = '{' :: rest := by
  cases further with
  | nil => exact hpart rfl
  | cons doc further =>
    obtain ⟨text, htext⟩ := (hread doc List.mem_cons_self).framed
    exact ⟨_, by rw [stream_cons, htext]; rfl⟩

/-- With something behind its first line, a text is no document. -/
theorem parse_of_take_append (hread : ∀ doc ∈ docs, Reads write parse doc) {n : ℕ} {part : List Char}
    (hn : 0 < n) (hne : docs ≠ []) (hpart : docs.take n = docs.take 1 → ∃ rest, part = '{' :: rest) :
    parse (stream write (docs.take n) ++ part) = none := by
  obtain ⟨doc, rest, rfl⟩ := List.exists_cons_of_ne_nil hne
  obtain ⟨n, rfl⟩ := Nat.exists_eq_succ_of_ne_zero hn.ne'
  obtain ⟨behind, hbehind⟩ : ∃ behind, stream write (rest.take n) ++ part = '{' :: behind := by
    apply exists_brace fun d hd ↦ hread d (List.mem_cons_of_mem _ (List.mem_of_mem_take hd))
    intro hnil
    exact hpart (by rw [List.take_succ_cons, hnil]; rfl)
  rw [List.take_succ_cons, stream_cons, List.append_assoc, List.cons_append, hbehind]
  exact (hread doc List.mem_cons_self).parse_more '{' behind (by decide)

/-- As a whole, a text with one document is that document, and no other text is one. -/
theorem Stopped.parse_eq (h : Stopped write docs k whole text)
    (hread : ∀ doc ∈ docs, Reads write parse doc) (hne : docs ≠ []) :
    parse text = if k = 1 ∧ whole = true then docs.head? else none := by
  obtain ⟨first, rest, hdocs⟩ := List.exists_cons_of_ne_nil hne
  have hfirst : Reads write parse first := hread first (hdocs ▸ List.mem_cons_self)
  cases h with
  | between hk =>
    match k with
    | 0 =>
      rw [if_neg (by simp)]
      exact hfirst.parse_part [] (write first) rfl hfirst.ne_nil
    | 1 =>
      have hline : stream write ((first :: rest).take 1) = write first ++ ['\n'] := by simp [stream]
      rw [if_pos ⟨rfl, rfl⟩, hdocs, hline]
      exact hfirst.parse_line
    | k + 2 =>
      rw [if_neg (by simp), ← List.append_nil (stream write _)]
      refine parse_of_take_append hread (by omega) hne fun htake ↦ ?_
      have hlength := congrArg List.length htake
      rw [List.length_take, List.length_take] at hlength
      omega
  | @unended k doc hdoc =>
    have hdocument := hread doc (List.mem_of_getElem? hdoc)
    match k with
    | 0 =>
      rw [if_pos ⟨rfl, rfl⟩, List.head?_eq_getElem?, hdoc]
      exact hdocument.parse_write
    | k + 1 =>
      rw [if_neg (by simp)]
      exact parse_of_take_append hread (by omega) hne fun _ ↦ by
        obtain ⟨text, htext⟩ := hdocument.framed
        exact ⟨_, htext⟩
  | @inside k doc part hdoc hpart hpartne =>
    have hdocument := hread doc (List.mem_of_getElem? hdoc)
    rw [if_neg (by simp)]
    match k with
    | 0 => exact hdocument.parse_of_part hpart
    | k + 1 =>
      exact parse_of_take_append hread (by omega) hne fun _ ↦ hdocument.exists_part hpart hpartne

/-- The last document is found from the end. -/
theorem Stopped.searchBack_eq (h : Stopped write docs k whole text)
    (hread : ∀ doc ∈ docs, Reads write parse doc) {find : List Char → Option Doc}
    (hnil : find [] = none) (hfind : ∀ doc ∈ docs, find (write doc) = some doc)
    (hpart : ∀ doc ∈ docs, ∀ part, Part write doc part → find part = none) :
    searchBack find text = (docs.take k).getLast? := by
  have hlast : ∀ doc ∈ docs, ∀ before,
      searchBack find (stream write before ++ write doc) = some doc := by
    intro doc hdoc before
    have hmem := (hread doc hdoc).newline_notMem
    rcases List.eq_nil_or_concat' before with rfl | ⟨before, d, rfl⟩
    · exact (searchBack_line find hmem (hread doc hdoc).ne_nil).trans (hfind doc hdoc)
    · rw [stream_concat, List.append_assoc, List.append_assoc, ← List.append_assoc,
        List.singleton_append, searchBack_append find hmem, hfind doc hdoc]
      rfl
  have hstream : ∀ n, ∀ part, '\n' ∉ part → find part = none →
      searchBack find (stream write (docs.take n) ++ part) = (docs.take n).getLast? := by
    intro n part hmem hnone
    rcases List.eq_nil_or_concat' (docs.take n) with htake | ⟨before, d, htake⟩
    · rw [htake]
      by_cases hempty : part = []
      · simp [hempty, stream, searchBack]
      · exact (searchBack_line find hmem hempty).trans hnone
    · have hd : d ∈ docs :=
        List.mem_of_mem_take (i := n) (htake ▸ List.mem_append_right before List.mem_cons_self)
      rw [htake, stream_concat, List.append_assoc, List.append_assoc, ← List.append_assoc,
        List.singleton_append, searchBack_append find hmem, hnone, List.getLast?_concat]
      exact hlast d hd before
  cases h with
  | between hk => simpa using hstream k [] List.not_mem_nil hnil
  | @unended k doc hdoc =>
    rw [hlast doc (List.mem_of_getElem? hdoc), take_succ_eq hdoc, List.getLast?_concat]
  | @inside k doc part hdoc hpart' hne =>
    have hmem := List.mem_of_getElem? hdoc
    exact hstream k part (newline_notMem_part (hread doc hmem).newline_notMem hpart')
      (hpart doc hmem part hpart')

end Interrupted

/-! ## Trimmed lines -/

section Trim

variable {write : Doc → List Char} {parse : List Char → Option Doc} {doc : Doc} {space : Char → Bool}

theorem trim_framed (hopen : space '{' = false) (hclose : space '}' = false) (text : List Char)
    {blanks : List Char} (hblanks : ∀ c ∈ blanks, space c = true) :
    trim space ('{' :: (text ++ ['}']) ++ blanks) = '{' :: (text ++ ['}']) := by
  rw [trim, List.cons_append, List.dropWhile_cons_of_neg (by simp [hopen]), List.rdropWhile]
  have hreverse : ('{' :: (text ++ ['}'] ++ blanks)).reverse =
      blanks.reverse ++ '}' :: ('{' :: text).reverse := by simp
  rw [hreverse, List.dropWhile_append_of_pos fun c hc ↦ hblanks c (List.mem_reverse.mp hc),
    List.dropWhile_cons_of_neg (by simp [hclose])]
  simp

/-- A document stands in its line as it is. -/
theorem Reads.trim_write (h : Reads write parse doc) (hopen : space '{' = false)
    (hclose : space '}' = false) {blanks : List Char} (hblanks : ∀ c ∈ blanks, space c = true) :
    trim space (write doc ++ blanks) = write doc := by
  obtain ⟨text, htext⟩ := h.framed
  rw [htext]
  exact trim_framed hopen hclose text hblanks

/-- What is left of a part is a part. -/
theorem Reads.part_trim (h : Reads write parse doc) (hopen : space '{' = false) {part : List Char}
    (hpart : Part write doc part) : Part write doc (trim space part) := by
  by_cases hempty : part = []
  · rw [hempty] at hpart ⊢
    exact hpart
  · obtain ⟨rest, rfl⟩ := h.exists_part hpart hempty
    rw [trim, List.dropWhile_cons_of_neg (by simp [hopen])]
    obtain ⟨trimmed, htrimmed⟩ := List.rdropWhile_prefix space ('{' :: rest)
    obtain ⟨more, hmore, hne⟩ := hpart
    refine ⟨trimmed ++ more, ?_, fun hnil ↦ hne (List.append_eq_nil_iff.mp hnil).2⟩
    rw [← List.append_assoc, htrimmed, hmore]

theorem Reads.trim_ne_nil (h : Reads write parse doc) (hopen : space '{' = false) {part : List Char}
    (hpart : Part write doc part) (hne : part ≠ []) : trim space part ≠ [] := by
  obtain ⟨rest, rfl⟩ := h.exists_part hpart hne
  rw [trim, List.dropWhile_cons_of_neg (by simp [hopen]), ne_eq, List.rdropWhile_eq_nil_iff]
  intro hall
  exact Bool.false_ne_true (hopen.symm.trans (hall '{' List.mem_cons_self))

end Trim

/-! ## JSON objects -/

/-- Objects that are written compactly are read line by line. -/
theorem reads_compact (N : JsonText.Numerals) {members : List (String × Script.Value)}
    (h : JsonText.defined (.object members) = true) :
    Reads (JsonText.write N JsonText.compact 0) (JsonText.parse N) (.object members) where
  framed := JsonText.write_object N JsonText.compact 0 members
  newline_notMem := JsonText.newline_notMem_write N 0 (.object members)
  parse_blanks blanks hblanks := by
    have hends : JsonText.Ends blanks := by
      rintro c hc
      have hblank := hblanks c (List.mem_of_mem_head? hc)
      by_contra hnumeral
      rw [JsonText.blank_of_numeral (by simpa using hnumeral)] at hblank
      exact absurd hblank (by decide)
    have hskip : JsonText.skip blanks = [] := List.dropWhile_eq_nil_iff.mpr hblanks
    rw [JsonText.parse_append N _ h hends, if_pos hskip]
  parse_more c rest hc := by
    have hblank : ∀ a ∈ ['\n'], JsonText.blank a = true := List.forall_mem_singleton.mpr rfl
    have hskip : JsonText.skip ('\n' :: c :: rest) = c :: rest :=
      (JsonText.skip_append hblank _).trans (JsonText.skip_cons hc rest)
    rw [JsonText.parse_append N _ h (fun a ha ↦ by rw [← Option.some.inj ha]; rfl), if_neg]
    rw [hskip]
    exact List.cons_ne_nil c rest
  parse_part text more hwrite hmore :=
    JsonText.parse_of_append_eq_write N JsonText.compact h hwrite hmore

end JsonLines
