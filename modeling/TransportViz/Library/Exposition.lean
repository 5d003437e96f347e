import TransportViz.Library.Delimited

/-!
# The text exposition format

A sample is a line: a name, labels in braces if there are any, and a value. The value of a label stands
in quotes, with a backslash before the characters that would end it or break the line.
-/

namespace Exposition

structure Sample where
  name : List Char
  labels : List (List Char × List Char)
  value : List Char
  deriving DecidableEq

/-! ## Writing -/

def escapeChar (c : Char) : List Char :=
  if c = '\\' then ['\\', '\\']
  else if c = '"' then ['\\', '"']
  else if c = '\n' then ['\\', 'n']
  else [c]

def escape (text : List Char) : List Char := text.flatMap escapeChar

def labelText (label : List Char × List Char) : List Char :=
  label.1 ++ '=' :: '"' :: (escape label.2 ++ ['"'])

def labelsText (labels : List (List Char × List Char)) : List Char :=
  [','].intercalate (labels.map labelText)

/-- A sample without labels has no braces. -/
def line (s : Sample) : List Char :=
  if s.labels = [] then s.name ++ ' ' :: s.value
  else s.name ++ '{' :: (labelsText s.labels ++ '}' :: ' ' :: s.value)

/-! ## Reading -/

/-- What stands before the closing quote, and what follows it. -/
def readValue : List Char → Option (List Char × List Char)
  | [] => none
  | '"' :: rest => some ([], rest)
  | '\\' :: 'n' :: rest => (readValue rest).map fun read ↦ ('\n' :: read.1, read.2)
  | '\\' :: c :: rest => (readValue rest).map fun read ↦ (c :: read.1, read.2)
  | c :: rest => if c = '\n' then none else (readValue rest).map fun read ↦ (c :: read.1, read.2)

def isNameChar (c : Char) : Bool := c.isAlphanum || c == '_'

/-- Letters, digits and underscores, no digit first. -/
def isName : List Char → Bool
  | [] => false
  | c :: rest => !c.isDigit && (c :: rest).all isNameChar

/-- Names that are names, and a value without a blank. -/
structure Valid (s : Sample) : Prop where
  name : isName s.name = true
  labels : ∀ label ∈ s.labels, isName label.1 = true
  value : s.value ≠ [] ∧ ' ' ∉ s.value ∧ '\n' ∉ s.value

/-! ## Values of labels -/

@[simp]
theorem escape_nil : escape [] = [] := rfl

@[simp]
theorem escape_cons (c : Char) (text : List Char) :
    escape (c :: text) = escapeChar c ++ escape text := List.flatMap_cons

/-- The closing quote is the first that has no backslash before it. -/
theorem readValue_escape (text rest : List Char) :
    readValue (escape text ++ '"' :: rest) = some (text, rest) := by
  induction text with
  | nil => simp [readValue]
  | cons c text ih =>
    rw [escape_cons, List.append_assoc]
    unfold escapeChar
    split_ifs with hbackslash hquote hline
    · subst hbackslash
      simp [readValue, ih]
    · subst hquote
      simp [readValue, ih]
    · subst hline
      simp [readValue, ih]
    · rw [List.singleton_append, readValue.eq_def]
      simp [hbackslash, hline, ih]

/-- No two values are written alike, whatever follows the closing quote. -/
theorem eq_of_escape_append {a b rest rest' : List Char}
    (h : escape a ++ '"' :: rest = escape b ++ '"' :: rest') : a = b ∧ rest = rest' := by
  have hread := congrArg readValue h
  rw [readValue_escape, readValue_escape] at hread
  simpa using hread

theorem escape_injective : Function.Injective escape := fun a b h ↦
  (eq_of_escape_append (show escape a ++ '"' :: [] = escape b ++ '"' :: [] by rw [h])).1

example : escape ['a', '"', '\n'] = ['a', '\\', '"', '\\', 'n'] := by decide

theorem newline_notMem_escape (text : List Char) : '\n' ∉ escape text := by
  induction text with
  | nil => simp
  | cons c text ih =>
    rw [escape_cons, List.mem_append, not_or]
    refine ⟨?_, ih⟩
    unfold escapeChar
    split_ifs with hbackslash hquote hline
    · decide
    · decide
    · decide
    · simpa using Ne.symm hline

/-! ## Lines -/

theorem eq_of_labelText_append {a b : List Char × List Char} {rest rest' : List Char}
    (ha : '=' ∉ a.1) (hb : '=' ∉ b.1) (h : labelText a ++ rest = labelText b ++ rest') :
    a = b ∧ rest = rest' := by
  simp only [labelText, List.append_assoc, List.cons_append, List.nil_append] at h
  obtain ⟨hname, hquoted⟩ := Delimited.eq_of_append_cons_left ha hb h
  obtain ⟨hvalue, hrest⟩ := eq_of_escape_append (List.cons.inj hquoted).2
  exact ⟨Prod.ext hname hvalue, hrest⟩

theorem labelsText_cons_append (label : List Char × List Char)
    (labels : List (List Char × List Char)) (rest : List Char) :
    labelsText (label :: labels) ++ rest =
      labelText label ++ if labels = [] then rest else ',' :: (labelsText labels ++ rest) := by
  cases labels with
  | nil => simp [labelsText]
  | cons other more => simp [labelsText, List.intercalate_cons_cons]

theorem labelsText_eq_nil_iff (labels : List (List Char × List Char)) :
    labelsText labels = [] ↔ labels = [] := by
  cases labels with
  | nil => simp [labelsText]
  | cons label more =>
    have hcons := labelsText_cons_append label more []
    rw [List.append_nil] at hcons
    simp [hcons, labelText]

/-- Labels are told apart up to the closing brace. -/
theorem eq_of_labelsText_append {a b : List (List Char × List Char)} {rest rest' : List Char}
    (ha : ∀ label ∈ a, '=' ∉ label.1) (hb : ∀ label ∈ b, '=' ∉ label.1) (hnil : a ≠ [])
    (hnil' : b ≠ []) (h : labelsText a ++ '}' :: rest = labelsText b ++ '}' :: rest') :
    a = b ∧ rest = rest' := by
  induction a generalizing b with
  | nil => exact absurd rfl hnil
  | cons label more ih =>
    obtain ⟨other, others, rfl⟩ := List.exists_cons_of_ne_nil hnil'
    rw [labelsText_cons_append, labelsText_cons_append] at h
    obtain ⟨hlabel, htail⟩ :=
      eq_of_labelText_append (ha label List.mem_cons_self) (hb other List.mem_cons_self) h
    subst hlabel
    -- a comma or the brace tells whether more labels follow
    split_ifs at htail with hmore hothers hothers
    · exact ⟨by rw [hmore, hothers], (List.cons.inj htail).2⟩
    · cases (List.cons.inj htail).1
    · cases (List.cons.inj htail).1
    · obtain ⟨heq, hrest⟩ := ih (fun l hl ↦ ha l (List.mem_cons_of_mem _ hl))
        (fun l hl ↦ hb l (List.mem_cons_of_mem _ hl)) hmore hothers (List.cons.inj htail).2
      exact ⟨by rw [heq], hrest⟩

theorem isNameChar_of_mem {name : List Char} (h : isName name = true) {c : Char} (hc : c ∈ name) :
    isNameChar c = true := by
  cases name with
  | nil => exact absurd hc List.not_mem_nil
  | cons first rest => exact List.all_eq_true.mp (Bool.and_eq_true_iff.mp h).2 c hc

theorem isName_append {name more : List Char} (h : isName name = true)
    (hmore : more.all isNameChar = true) : isName (name ++ more) = true := by
  cases name with
  | nil => cases h
  | cons first rest =>
    simp only [isName, List.cons_append, List.all_cons, List.all_append, Bool.and_eq_true] at h ⊢
    exact ⟨h.1, h.2.1, h.2.2, hmore⟩

theorem notMem_of_isName {name : List Char} (h : isName name = true) {c : Char}
    (hc : isNameChar c = false) : c ∉ name :=
  fun hmem ↦ absurd (isNameChar_of_mem h hmem) (by simp [hc])

theorem equals_notMem_of_names {s : Sample} (h : Valid s) : ∀ label ∈ s.labels, '=' ∉ label.1 :=
  fun label hlabel ↦ notMem_of_isName (h.labels label hlabel) (by decide)

/-- A line tells its sample. -/
theorem line_injOn : Set.InjOn line {s | Valid s} := by
  intro s hs t ht h
  have hblank : ¬isNameChar ' ' = true := by decide
  have hbrace : ¬isNameChar '{' = true := by decide
  have hsname := fun c (hc : c ∈ s.name) ↦ isNameChar_of_mem hs.name hc
  have htname := fun c (hc : c ∈ t.name) ↦ isNameChar_of_mem ht.name hc
  unfold line at h
  split_ifs at h with hlabels hlabels' hlabels'
  · obtain ⟨hname, -, hvalue⟩ :=
      Delimited.eq_of_append_cons_first hsname htname hblank hblank h
    cases s
    cases t
    simp_all
  · have hchar := (Delimited.eq_of_append_cons_first hsname htname hblank hbrace h).2.1
    exact absurd hchar (by decide)
  · have hchar := (Delimited.eq_of_append_cons_first hsname htname hbrace hblank h).2.1
    exact absurd hchar (by decide)
  · obtain ⟨hname, -, hrest⟩ :=
      Delimited.eq_of_append_cons_first hsname htname hbrace hbrace h
    obtain ⟨hsame, hvalue⟩ := eq_of_labelsText_append (equals_notMem_of_names hs)
      (equals_notMem_of_names ht) hlabels hlabels' hrest
    cases s
    cases t
    simp_all

theorem newline_notMem_labelText {label : List Char × List Char} (h : isName label.1 = true) :
    '\n' ∉ labelText label := by
  have hname : '\n' ∉ label.1 := notMem_of_isName h (by decide)
  simp [labelText, hname, newline_notMem_escape]

theorem newline_notMem_labelsText {labels : List (List Char × List Char)}
    (h : ∀ label ∈ labels, isName label.1 = true) : '\n' ∉ labelsText labels := by
  induction labels with
  | nil => exact List.not_mem_nil
  | cons label more ih =>
    have hlabel := newline_notMem_labelText (h label List.mem_cons_self)
    have hmore := ih fun l hl ↦ h l (List.mem_cons_of_mem _ hl)
    have hcons := labelsText_cons_append label more []
    rw [List.append_nil, List.append_nil] at hcons
    rw [hcons]
    split_ifs
    · simpa using hlabel
    · simpa using ⟨hlabel, hmore⟩

/-- A sample takes one line. -/
theorem newline_notMem_line {s : Sample} (h : Valid s) : '\n' ∉ line s := by
  have hname : '\n' ∉ s.name := notMem_of_isName h.name (by decide)
  have hlabels := newline_notMem_labelsText h.labels
  unfold line
  split_ifs
  · simp [hname, h.value.2.2]
  · simp [hname, hlabels, h.value.2.2]

/-- Labels of the same names in the same order are told apart as sets. -/
theorem eq_of_sameNames {α β : Type} {a b : List (α × β)} (hnames : a.map Prod.fst = b.map Prod.fst)
    (hnodup : (a.map Prod.fst).Nodup) (h : ∀ label ∈ a, label ∈ b) : a = b := by
  induction a generalizing b with
  | nil => exact (List.map_eq_nil_iff.mp hnames.symm).symm
  | cons label rest ih =>
    obtain ⟨other, more, rfl⟩ := List.exists_cons_of_ne_nil
      (fun hnil ↦ List.cons_ne_nil _ _ (hnames.trans (congrArg (List.map Prod.fst) hnil)))
    simp only [List.map_cons, List.cons.injEq] at hnames
    obtain ⟨hname, hrest⟩ := hnames
    obtain ⟨hnew, hdistinct⟩ := List.nodup_cons.mp hnodup
    have hlabel : label = other := by
      refine (List.mem_cons.mp (h label List.mem_cons_self)).resolve_right fun hmem ↦ hnew ?_
      rw [hrest]
      exact List.mem_map_of_mem hmem
    rw [hlabel, ih hrest hdistinct fun entry hentry ↦ ?_]
    refine (List.mem_cons.mp (h entry (List.mem_cons_of_mem _ hentry))).resolve_left fun heq ↦ hnew ?_
    rw [hname, ← heq]
    exact List.mem_map_of_mem hentry

end Exposition
