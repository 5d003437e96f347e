import TransportViz.Json.Produced
import TransportViz.Library.Decimals
import TransportViz.Stats.DistinctCodes
import TransportViz.Web.Metrics

/-!
# The metrics are well formed

What is told of a document is a text of lines: comments, and samples from which the family, the labels
and the value can be read back. No family has two samples with the same labels, since the GUIDs tell the
pairs apart and no pair has a warning, a measured transport or a latency twice.
-/

namespace TransportViz.Web.Metrics

open Script Decision Stats

/-! ## Specification -/

section Specification

variable [Spelling]

/-- A sample as it is written. -/
def written (s : MetricSample) : Exposition.Sample where
  name := ("transport_viz_" ++ s.family).toList
  labels := s.labels.map fun label ↦ (label.1.toList, str label.2)
  value := number s.family s.value

/-- Labels have no order. -/
def labelSet (s : MetricSample) : Set (List Char × List Char) :=
  {label | label ∈ (written s).labels}

/-- From an escaped value it is told where it ends and what it was. -/
structure Escapes : Prop where
  injective : ∀ v w, labelValue v = labelValue w → str v = str w
  closed : ∀ v rest, Exposition.readValue (labelValue v ++ '"' :: rest) = some (str v, rest)
  unbroken : ∀ v, '\n' ∉ labelValue v

/-- The text tells the entries that are not null, each on a line of its own. -/
structure WellFormed (entries samples : List MetricSample) (text : List Char) : Prop where
  nonnull : ∀ s, s ∈ samples ↔ s ∈ entries ∧ s.value ≠ .null
  unique : samples.Pairwise fun a b ↦ a.family = b.family → labelSet a ≠ labelSet b
  lines : text.splitOn '\n' = metricLines samples ++ [[]]
  line : ∀ line ∈ metricLines samples, line.head? = some '#' ∨
    ∃ s ∈ samples, Exposition.Valid (written s) ∧ line = Exposition.line (written s)
  listed : ∀ s ∈ samples, Exposition.line (written s) ∈ metricLines samples
  decoded : ∀ a ∈ samples, ∀ b ∈ samples,
    Exposition.line (written a) = Exposition.line (written b) → written a = written b
  escapes : Escapes

end Specification

/-- The labels of the families, in their order. -/
def labelNames (family : String) : List String :=
  if family = "info" then ["domain", "schema_version"]
  else if family ∈ ["pair_transport", "pair_measured_transport"] then pairLabels ++ ["transport"]
  else if family = "pair_warning" then pairLabels ++ ["code"]
  else if family = "pair_latency_seconds" then pairLabels ++ ["stat"]
  else if family ∈ ["pair_packets", "pair_bytes", "pair_delivered_per_second", "pair_lost_packets",
    "pair_resent_datas"] then pairLabels
  else if family ∈ shmKeys.map ("shm_" ++ ·) then ["host"]
  else []

/-- What the value of an entry can be. -/
def IsNumber (v : Value) : Prop := v = .null ∨ (∃ x, v = .number x) ∨ ∃ b, v = .bool b

/-- An entry of a known family, with the labels of that family and a number or nothing. -/
structure Shaped (s : MetricSample) : Prop where
  family : s.family ∈ metrics.map Metric.name
  labels : s.labels.map Prod.fst = labelNames s.family
  value : IsNumber s.value

/-! ## Escaping -/

section Escaping

variable [Spelling]

theorem labelValue_eq_escape (v : Value) : labelValue v = Exposition.escape (str v) := by
  unfold labelValue Python.replace Exposition.escape
  rw [List.flatMap_assoc, List.flatMap_assoc]
  refine List.flatMap_congr fun c _ ↦ ?_
  unfold Exposition.escapeChar
  split_ifs with hbackslash hquote hline <;> simp_all

theorem escapes : Escapes where
  injective v w h := by
    rw [labelValue_eq_escape, labelValue_eq_escape] at h
    exact Exposition.escape_injective h
  closed v rest := by
    rw [labelValue_eq_escape]
    exact Exposition.readValue_escape (str v) rest
  unbroken v := by
    rw [labelValue_eq_escape]
    exact Exposition.newline_notMem_escape (str v)

theorem sampleLine_eq (s : MetricSample) : sampleLine s = Exposition.line (written s) := by
  have htext : [','].intercalate (s.labels.map fun label ↦
      label.1.toList ++ ['=', '"'] ++ labelValue label.2 ++ ['"']) =
        Exposition.labelsText (written s).labels := by
    simp [Exposition.labelsText, Exposition.labelText, written, labelValue_eq_escape,
      Function.comp_def]
  unfold sampleLine Exposition.line
  simp only [htext, ne_eq, Exposition.labelsText_eq_nil_iff]
  simp [written]

end Escaping

/-! ## What the entries look like -/

section Shapes

theorem labelNames_spec (family : String) (h : family ∈ metrics.map Metric.name) :
    (labelNames family).Nodup ∧
      ∀ name ∈ labelNames family, Exposition.isName name.toList = true := by
  revert family h
  decide +kernel

theorem isName_family (family : String) (h : family ∈ metrics.map Metric.name) :
    Exposition.isName ("transport_viz_" ++ family).toList = true := by
  have hfamily : family.toList.all Exposition.isNameChar = true := by
    revert family h
    decide +kernel
  rw [String.toList_append]
  exact Exposition.isName_append (by decide +kernel) hfamily

variable (snap : Snapshot) (opt : RenderOptions)

theorem isNumber_number (x : ℚ) : IsNumber (.number x) := .inr (.inl ⟨x, rfl⟩)

theorem isNumber_finite (x : Option ℚ) : IsNumber (finite x) := by
  cases x with
  | none => exact .inl rfl
  | some x => exact isNumber_number x

theorem isNumber_optionalNumber (available : Bool) (x : ℚ) :
    IsNumber (optionalNumber available x) := by
  unfold optionalNumber
  split_ifs
  · exact isNumber_number x
  · exact .inl rfl

section Base

variable {base : Labels} (hbase : base.map Prod.fst = pairLabels)
include hbase

theorem shaped_base {family : String} {v : Value} (hfamily : family ∈ metrics.map Metric.name)
    (hnames : labelNames family = pairLabels) (hvalue : IsNumber v) : Shaped ⟨family, base, v⟩ where
  family := hfamily
  labels := hbase.trans hnames.symm
  value := hvalue

theorem shaped_append {family name : String} {label v : Value}
    (hfamily : family ∈ metrics.map Metric.name)
    (hnames : labelNames family = pairLabels ++ [name]) (hvalue : IsNumber v) :
    Shaped ⟨family, base ++ [(name, label)], v⟩ where
  family := hfamily
  labels := by
    rw [List.map_append, hbase, hnames]
    rfl
  value := hvalue

theorem shaped_measuredEntries (m : Measurement) : ∀ e ∈ measuredEntries base m, Shaped e := by
  have hstats (values : List (String × Value)) (h : ∀ stat ∈ values, IsNumber stat.2) :
      ∀ stat ∈ values, Shaped
        ⟨"pair_latency_seconds", base ++ [("stat", .string stat.1)], stat.2⟩ :=
    fun stat hstat ↦ shaped_append hbase (by decide) (by decide) (h stat hstat)
  unfold measuredEntries
  simp only [List.forall_mem_append, List.forall_mem_map, List.forall_mem_cons]
  refine ⟨⟨⟨fun t _ ↦ ?_, ?_, ?_, ?_, List.forall_mem_nil _⟩, ?_⟩, ?_, ?_, List.forall_mem_nil _⟩
  · exact shaped_append hbase (by decide) (by decide) (isNumber_number 1)
  · exact shaped_base hbase (by decide) (by decide) (isNumber_number _)
  · exact shaped_base hbase (by decide) (by decide) (isNumber_number _)
  · exact shaped_base hbase (by decide) (by decide) (isNumber_optionalNumber _ _)
  · split_ifs
    · refine List.forall_mem_map.mpr (hstats _ ?_)
      simpa [isNumber_number] using ⟨isNumber_finite m.latency.min, isNumber_finite m.latency.max⟩
    · exact List.forall_mem_nil _
  · refine shaped_base hbase (by decide) (by decide) ?_
    split_ifs
    · exact isNumber_optionalNumber _ _
    · exact .inl rfl
  · exact shaped_base hbase (by decide) (by decide) (isNumber_optionalNumber _ _)

end Base

theorem shaped_pairEntries (t : TopicSummary) (p : Pair) : ∀ e ∈ pairEntries snap opt t p, Shaped e := by
  have hbase : (pairBase snap opt t p).map Prod.fst = pairLabels := rfl
  unfold pairEntries
  simp only [List.forall_mem_append, List.forall_mem_map, List.forall_mem_cons]
  refine ⟨⟨?_, fun code _ ↦ ?_⟩, ?_⟩
  · exact shaped_append hbase (by decide) (by decide) (isNumber_number 1)
  · exact shaped_append hbase (by decide) (by decide) (isNumber_number 1)
  · split_ifs
    · exact shaped_measuredEntries hbase p.measured
    · exact List.forall_mem_nil _

theorem shaped_entries [Spelling] (documents : ℕ) (ended : Value) :
    ∀ e ∈ entries snap opt documents ended, Shaped e := by
  have hplain {family : String} {labels : Labels} {v : Value}
      (hfamily : family ∈ metrics.map Metric.name)
      (hlabels : labels.map Prod.fst = labelNames family) (hvalue : IsNumber v) :
      Shaped ⟨family, labels, v⟩ := ⟨hfamily, hlabels, hvalue⟩
  have htimestamp : IsNumber (timestamp (.string snap.observedAt)) := by
    unfold timestamp
    cases Spelling.timestamp (Python.replace 'Z' "+00:00".toList (str (.string snap.observedAt))) with
    | none => exact .inl rfl
    | some instant => exact isNumber_number instant
  have hshm : ∀ family ∈ shmKeys.map ("shm_" ++ ·),
      family ∈ metrics.map Metric.name ∧ labelNames family = ["host"] := by decide
  unfold entries
  simp only [List.forall_mem_append, List.forall_mem_cons]
  refine ⟨⟨⟨?_, ?_, ?_, ?_, ?_, List.forall_mem_nil _⟩, fun e he ↦ ?_⟩, ?_⟩
  · exact hplain (by decide) rfl (isNumber_number _)
  · exact hplain (by decide) rfl (isNumber_number _)
  · exact hplain (by decide) rfl (isNumber_number _)
  · exact hplain (by decide) rfl htimestamp
  · exact hplain (by decide) rfl (.inr (.inr ⟨_, rfl⟩))
  · obtain ⟨t, -, he⟩ := List.mem_flatMap.mp he
    obtain ⟨p, -, he⟩ := List.mem_flatMap.mp he
    exact shaped_pairEntries snap opt t p e he
  · unfold shmEntries
    split_ifs
    · refine List.forall_mem_map.mpr fun entry hentry ↦ ?_
      obtain ⟨hfamily, hnames⟩ := hshm entry.1 (List.mem_map_of_mem hentry)
      exact hplain hfamily hnames.symm (isNumber_number _)
    · exact List.forall_mem_nil _

end Shapes

/-! ## No labels twice -/

section Keys

variable (snap : Snapshot) (opt : RenderOptions)

/-- What is measured has families of its own, and the labels of its pair. -/
theorem of_mem_measuredEntries (base : Labels) (m : Measurement) :
    ∀ e ∈ measuredEntries base m, (e.family ≠ "pair_transport" ∧ e.family ≠ "pair_warning") ∧
      ∃ extra, e.labels = base ++ extra := by
  unfold measuredEntries
  by_cases hlatency : m.latencyAvailable = true
  · simp [hlatency, or_imp, forall_and]
  · simp [hlatency, or_imp, forall_and]

theorem labels_pairEntries (t : TopicSummary) (p : Pair) :
    ∀ e ∈ pairEntries snap opt t p, ∃ extra, e.labels = pairBase snap opt t p ++ extra := by
  have hmeasured := of_mem_measuredEntries (pairBase snap opt t p) p.measured
  unfold pairEntries
  simp only [List.forall_mem_append, List.forall_mem_map, List.forall_mem_cons]
  refine ⟨⟨⟨_, rfl⟩, fun code _ ↦ ⟨_, rfl⟩⟩, ?_⟩
  split_ifs
  · exact fun e he ↦ (hmeasured e he).2
  · exact List.forall_mem_nil _

variable [Spelling]

/-- What tells a sample from all others. -/
def key (s : MetricSample) : String × List (List Char × List Char) := (s.family, (written s).labels)

/-- Entries that differ in the text of one label. -/
theorem nodup_key_map {α : Type} (family name : String) (base : Labels) (v : Value) {text : α → String}
    (htext : Function.Injective text) {l : List α} (h : l.Nodup) :
    (l.map (key ∘ fun a ↦ ⟨family, base ++ [(name, .string (text a))], v⟩)).Nodup := by
  refine h.map fun a b hab ↦ htext (String.toList_inj.mp ?_)
  simpa [key, written, str] using hab

theorem nodup_key_measuredEntries (base : Labels) {m : Measurement} (h : m.transports.Nodup) :
    ((measuredEntries base m).map key).Nodup := by
  have htransports := nodup_key_map "pair_measured_transport" "transport" base (.number 1)
    Transport.text_injective h
  unfold measuredEntries
  by_cases hlatency : m.latencyAvailable = true
  · simp [List.nodup_append, hlatency, htransports, key, written, str]
  · simp [List.nodup_append, hlatency, htransports, key, written, str]

theorem key_ne {a b : MetricSample} (h : a.family ≠ b.family) : key a ≠ key b :=
  fun heq ↦ h (congrArg Prod.fst heq)

theorem nodup_key_pairEntries (t : TopicSummary) {p : Pair} (hwarnings : p.verdict.warnings.Nodup)
    (htransports : p.measured.transports.Nodup) :
    ((pairEntries snap opt t p).map key).Nodup := by
  have hcodes := nodup_key_map "pair_warning" "code" (pairBase snap opt t p) (.number 1)
    Function.injective_id hwarnings
  have hmeasured := nodup_key_measuredEntries (pairBase snap opt t p) htransports
  have hfamily := of_mem_measuredEntries (pairBase snap opt t p) p.measured
  have hapart : "pair_warning" ≠ "pair_transport" := by decide
  simp only [id] at hcodes
  unfold pairEntries
  split_ifs
  · simpa [List.nodup_append, hmeasured, hcodes] using
      ⟨⟨fun code _ ↦ key_ne hapart, fun e he ↦ key_ne (hfamily e he).1.1⟩,
        fun code _ e he ↦ key_ne (hfamily e he).1.2.symm⟩
  · simpa [hcodes] using fun code _ ↦ key_ne hapart

/-- The key of an entry has the labels of its pair. -/
theorem key_of_mem_pairEntries {t : TopicSummary} {p : Pair} {e : MetricSample}
    (he : e ∈ pairEntries snap opt t p) : ∃ more, (key e).2 =
      (pairBase snap opt t p).map (fun label ↦ (label.1.toList, str label.2)) ++ more := by
  obtain ⟨extra, hextra⟩ := labels_pairEntries snap opt t p e he
  refine ⟨extra.map fun label ↦ (label.1.toList, str label.2), ?_⟩
  rw [key, written, hextra, List.map_append]

theorem guids_of_key {t t' : TopicSummary} {p p' : Pair} {e e' : MetricSample}
    (he : e ∈ pairEntries snap opt t p) (he' : e' ∈ pairEntries snap opt t' p')
    (h : key e = key e') : p.writer.guid = p'.writer.guid ∧ p.reader.guid = p'.reader.guid := by
  obtain ⟨more, hmore⟩ := key_of_mem_pairEntries snap opt he
  obtain ⟨more', hmore'⟩ := key_of_mem_pairEntries snap opt he'
  have hbase := List.append_inj_left (hmore.symm.trans ((congrArg Prod.snd h).trans hmore')) rfl
  simp only [pairBase, List.map_cons, List.map_nil, str, List.cons.injEq, Prod.mk.injEq,
    String.toList_inj] at hbase
  tauto

end Keys

/-! ## The pairs of a snapshot -/

section Pairs

/-- A pair by the GUIDs of its ends. -/
def guidKey (row : TopicSummary × Pair) : String × String :=
  (row.2.writer.guid, row.2.reader.guid)

/-- The pairs of all topics, in the order of the document. -/
def pairRows (topics : List TopicSummary) : List (TopicSummary × Pair) :=
  topics.flatMap fun t ↦ t.pairs.map fun p ↦ (t, p)

/-- The ends of the pairs are endpoints of the topic, and no two pairs have both ends. -/
structure Sided (t : TopicSummary) : Prop where
  ends : ∀ p ∈ t.pairs, p.writer ∈ t.writers ++ t.readers ∧ p.reader ∈ t.writers ++ t.readers
  distinct : (t.pairs.map fun p ↦ (p.writer, p.reader)).Nodup

variable [Fnmatch]

theorem sided_of_mem_applyStats {endpoints : List Endpoint} {stats : StatsData} {u : TopicSummary}
    (hu : u ∈ applyStats (summarize endpoints) stats) : Sided u := by
  have hsummarized {t : TopicSummary} (ht : t ∈ summarize endpoints) : Sided t := by
    have hsummary := isSummary_of_mem endpoints t ht
    refine ⟨fun p hp ↦ ?_, hsummary.nodup_pairs⟩
    obtain ⟨hwriter, hreader⟩ := hsummary.mem_ends p hp
    exact ⟨List.mem_append_left _ hwriter, List.mem_append_right _ hreader⟩
  rcases applyStats_cases hu with ⟨-, t, ht, rfl⟩ | ⟨-, ht⟩
  · obtain ⟨hwriters, hreaders, -⟩ := overlayTopic_kept stats t
    have hends := map_ends_overlayTopic stats t fun p hp ↦ isFresh_of_mem ht hp
    refine ⟨fun q hq ↦ ?_, hends ▸ (hsummarized ht).distinct⟩
    have hmem := List.mem_map_of_mem (f := fun p : Pair ↦ (p.writer, p.reader)) hq
    rw [hends] at hmem
    obtain ⟨p, hp, heq⟩ := List.mem_map.mp hmem
    rw [hwriters, hreaders, ← (Prod.mk.inj heq).1, ← (Prod.mk.inj heq).2]
    exact (hsummarized ht).ends p hp
  · exact hsummarized ht

omit [Fnmatch] in
/-- The GUIDs tell all pairs apart, whatever their topics. -/
theorem nodup_guidKey {topics : List TopicSummary} (hlisted : (Json.listedGuids topics).Nodup)
    (hsided : ∀ t ∈ topics, Sided t) : ((pairRows topics).map guidKey).Nodup := by
  obtain ⟨hwithin, hacross⟩ := List.nodup_flatMap.mp hlisted
  unfold pairRows
  rw [List.map_flatMap]
  refine List.nodup_flatMap.mpr ⟨fun t ht ↦ ?_, ?_⟩
  · have hinj := List.inj_on_of_nodup_map (hwithin t ht)
    have hends := (hsided t ht).ends
    have hpairs := List.inj_on_of_nodup_map (hsided t ht).distinct
    rw [List.map_map]
    refine List.Nodup.map_on (fun p hp q hq heq ↦ ?_) (List.Nodup.of_map _ (hsided t ht).distinct)
    have hwriter := hinj (hends p hp).1 (hends q hq).1 (Prod.mk.inj heq).1
    have hreader := hinj (hends p hp).2 (hends q hq).2 (Prod.mk.inj heq).2
    exact hpairs hp hq (Prod.ext hwriter hreader)
  · refine hacross.imp_of_mem fun {t u} ht hu hdisjoint guids hguids hguids' ↦ ?_
    simp only [List.map_map, List.mem_map] at hguids hguids'
    obtain ⟨p, hp, rfl⟩ := hguids
    obtain ⟨q, hq, heq⟩ := hguids'
    refine hdisjoint (List.mem_map_of_mem ((hsided t ht).ends p hp).1) ?_
    exact List.mem_map.mpr ⟨q.writer, ((hsided u hu).ends q hq).1, (Prod.mk.inj heq).1⟩

end Pairs

/-! ## All series -/

section Series

variable [Spelling] (snap : Snapshot) (opt : RenderOptions) (documents : ℕ) (ended : Value)

theorem key_length_of_mem_pairEntries {t : TopicSummary} {p : Pair} {e : MetricSample}
    (he : e ∈ pairEntries snap opt t p) : 7 ≤ (key e).2.length := by
  obtain ⟨more, hmore⟩ := key_of_mem_pairEntries snap opt he
  simp [hmore, pairBase]

theorem nodup_key_pairs (hrows : ((pairRows snap.topics).map guidKey).Nodup)
    (honce : ∀ t ∈ snap.topics, ∀ p ∈ t.pairs,
      p.verdict.warnings.Nodup ∧ p.measured.transports.Nodup) :
    ((snap.topics.flatMap fun t ↦ t.pairs.flatMap (pairEntries snap opt t)).map key).Nodup := by
  have hflat : (snap.topics.flatMap fun t ↦ t.pairs.flatMap (pairEntries snap opt t)) =
      (pairRows snap.topics).flatMap fun row ↦ pairEntries snap opt row.1 row.2 := by
    simp only [pairRows, List.flatMap_assoc, List.flatMap_map]
  rw [hflat, List.map_flatMap]
  refine List.nodup_flatMap.mpr ⟨fun row hrow ↦ ?_, ?_⟩
  · obtain ⟨t, ht, hrow⟩ := List.mem_flatMap.mp hrow
    obtain ⟨p, hp, rfl⟩ := List.mem_map.mp hrow
    exact nodup_key_pairEntries snap opt t (honce t ht p hp).1 (honce t ht p hp).2
  · refine (List.pairwise_map.mp hrows).imp fun {row row'} hne k hk hk' ↦ hne ?_
    obtain ⟨e, he, rfl⟩ := List.mem_map.mp hk
    obtain ⟨e', he', heq⟩ := List.mem_map.mp hk'
    obtain ⟨hwriter, hreader⟩ := guids_of_key snap opt he he' heq.symm
    exact Prod.ext hwriter hreader

theorem nodup_key_shmEntries : ((shmEntries snap opt).map key).Nodup := by
  unfold shmEntries
  split_ifs
  · simp [key]
  · exact List.nodup_nil

/-- No two entries of a document have their family and their labels in common. -/
theorem nodup_key_entries (hrows : ((pairRows snap.topics).map guidKey).Nodup)
    (honce : ∀ t ∈ snap.topics, ∀ p ∈ t.pairs,
      p.verdict.warnings.Nodup ∧ p.measured.transports.Nodup) :
    ((entries snap opt documents ended).map key).Nodup := by
  have hpairs := nodup_key_pairs snap opt hrows honce
  have hshm := nodup_key_shmEntries snap opt
  have hlong : ∀ k ∈ (snap.topics.flatMap fun t ↦ t.pairs.flatMap (pairEntries snap opt t)).map key,
      7 ≤ k.2.length := by
    intro k hk
    obtain ⟨e, he, rfl⟩ := List.mem_map.mp hk
    obtain ⟨t, -, he⟩ := List.mem_flatMap.mp he
    obtain ⟨p, -, he⟩ := List.mem_flatMap.mp he
    exact key_length_of_mem_pairEntries snap opt he
  have hshort : ∀ k ∈ (shmEntries snap opt).map key,
      k.2.length = 1 ∧ k.1 ∈ shmKeys.map ("shm_" ++ ·) := by
    unfold shmEntries
    split_ifs
    · simp [key, written, shmKeys]
    · simp
  have hstate : ∀ k ∈ ((entries snap opt documents ended).take 5).map key,
      k.2.length < 7 ∧ k.1 ∉ shmKeys.map ("shm_" ++ ·) := by
    simp [entries, key, written, shmKeys]
  have hdistinct : (((entries snap opt documents ended).take 5).map key).Nodup := by
    simp [entries, key]
  have hentries : entries snap opt documents ended = (entries snap opt documents ended).take 5 ++
      (snap.topics.flatMap (fun t ↦ t.pairs.flatMap (pairEntries snap opt t)) ++
        shmEntries snap opt) := by
    simp [entries]
  rw [hentries, List.map_append, List.map_append, List.nodup_append, List.nodup_append]
  refine ⟨hdistinct, ⟨hpairs, hshm, fun a ha b hb heq ↦ ?_⟩, fun a ha b hb heq ↦ ?_⟩
  · have hlength := hlong a ha
    rw [heq, (hshort b hb).1] at hlength
    omega
  · rcases List.mem_append.mp hb with hb | hb
    · have hlength := hlong b hb
      rw [← heq] at hlength
      exact absurd hlength (Nat.not_le.mpr (hstate a ha).1)
    · exact (hstate a ha).2 (heq ▸ (hshort b hb).2)

/-- Labels with the names of the family are told apart as sets. -/
theorem labelSet_ne {a b : MetricSample} (ha : Shaped a) (hb : Shaped b) (hfamily : a.family = b.family)
    (hkey : key a ≠ key b) : labelSet a ≠ labelSet b := by
  intro hset
  have hnames : (written a).labels.map Prod.fst = (written b).labels.map Prod.fst := by
    have hsame : a.labels.map Prod.fst = b.labels.map Prod.fst := by
      rw [ha.labels, hb.labels, hfamily]
    have htexts := congrArg (List.map String.toList) hsame
    simpa [written, Function.comp_def] using htexts
  have hnodup : ((written a).labels.map Prod.fst).Nodup := by
    have hdistinct := (labelNames_spec a.family ha.family).1.map
      fun _ _ h ↦ String.toList_inj.mp h
    rw [← ha.labels] at hdistinct
    simpa [written, Function.comp_def] using hdistinct
  have hlabels := Exposition.eq_of_sameNames hnames hnodup fun label hlabel ↦
    show label ∈ labelSet b from hset ▸ hlabel
  exact hkey (Prod.ext hfamily hlabels)

end Series

/-! ## Lines -/

section Lines

/-- An entry is told or, when its value is null, left out. -/
theorem told_cons_eq (e : MetricSample) (rest : List MetricSample) :
    (e.value = .null ∧ told (e :: rest) = told rest) ∨
      (e.value ≠ .null ∧ told (e :: rest) = e :: told rest) := by
  obtain ⟨family, labels, value⟩ := e
  cases value with
  | null => exact .inl ⟨rfl, rfl⟩
  | _ => exact .inr ⟨fun h ↦ (by cases h), rfl⟩

theorem told_sublist (entries : List MetricSample) : (told entries).Sublist entries := by
  induction entries with
  | nil => exact List.Sublist.refl []
  | cons e rest ih =>
    rcases told_cons_eq e rest with ⟨-, heq⟩ | ⟨-, heq⟩
    · rw [heq]
      exact ih.cons e
    · rw [heq]
      exact ih.cons_cons e

theorem mem_told (entries : List MetricSample) (s : MetricSample) :
    s ∈ told entries ↔ s ∈ entries ∧ s.value ≠ .null := by
  induction entries with
  | nil => simp
  | cons e rest ih =>
    rcases told_cons_eq e rest with ⟨hnull, heq⟩ | ⟨hvalue, heq⟩
    · rw [heq, ih, List.mem_cons, or_and_right, or_iff_right]
      rintro ⟨rfl, hvalue⟩
      exact hvalue hnull
    · rw [heq, List.mem_cons, ih, List.mem_cons, or_and_right]
      exact or_congr_left ⟨fun h ↦ ⟨h, h ▸ hvalue⟩, And.left⟩

/-- The byte of a line feed belongs to no other character, and bytes are quick to look through. -/
theorem newline_mem_bytes {text : String} (h : '\n' ∈ text.toList) :
    (10 : UInt8) ∈ text.toByteArray.data.toList := by
  obtain ⟨before, after, hsplit⟩ := List.append_of_mem h
  have hbyte : ['\n'].utf8Encode.data.toList = [10] := by
    rw [List.utf8Encode_singleton]
    decide
  rw [← String.utf8Encode_toList, hsplit, List.utf8Encode_append, List.utf8Encode_cons]
  simp [hbyte]

theorem newline_notMem_help : ∀ metric ∈ metrics,
    '\n' ∉ metric.help.toList ∧ '\n' ∉ metric.kind.toList := by
  have hbytes : ∀ metric ∈ metrics, (10 : UInt8) ∉ metric.help.toByteArray.data.toList ∧
      (10 : UInt8) ∉ metric.kind.toByteArray.data.toList := by
    decide +kernel
  intro metric hmetric
  obtain ⟨hhelp, hkind⟩ := hbytes metric hmetric
  exact ⟨fun hmem ↦ hhelp (newline_mem_bytes hmem), fun hmem ↦ hkind (newline_mem_bytes hmem)⟩

variable [Spelling]

theorem number_plain {family : String} {v : Value} (h : IsNumber v) (hnull : v ≠ .null) :
    number family v ≠ [] ∧ ' ' ∉ number family v ∧ '\n' ∉ number family v := by
  rcases h with rfl | ⟨x, rfl⟩ | ⟨b, rfl⟩
  · exact absurd rfl hnull
  · exact Spelling.plain family x
  · cases b <;> simp [number]

theorem valid_written {s : MetricSample} (h : Shaped s) (hnull : s.value ≠ .null) :
    Exposition.Valid (written s) where
  name := isName_family s.family h.family
  labels label hlabel := by
    obtain ⟨own, hown, rfl⟩ := List.mem_map.mp hlabel
    have hname : own.1 ∈ labelNames s.family := h.labels ▸ List.mem_map_of_mem hown
    exact (labelNames_spec s.family h.family).2 own.1 hname
  value := number_plain h.value hnull

variable {samples : List MetricSample}

theorem mem_metricLines {line : List Char} (h : line ∈ metricLines samples) :
    (line.head? = some '#' ∧ '\n' ∉ line) ∨ ∃ s ∈ samples, line = sampleLine s := by
  obtain ⟨metric, hmetric, hline⟩ := List.mem_flatMap.mp h
  unfold familyLines at hline
  simp only at hline
  split_ifs at hline
  · exact absurd hline List.not_mem_nil
  · obtain ⟨hhelp, hkind⟩ := newline_notMem_help metric hmetric
    have hname : '\n' ∉ ("transport_viz_" ++ metric.name).toList :=
      Exposition.notMem_of_isName (isName_family metric.name (List.mem_map_of_mem hmetric)) (by decide)
    rw [String.toList_append] at hname
    rcases List.mem_cons.mp hline with rfl | hline
    · exact .inl ⟨by simp, by simpa using ⟨by simpa using hname, hhelp⟩⟩
    · rcases List.mem_cons.mp hline with rfl | hline
      · exact .inl ⟨by simp, by simpa using ⟨by simpa using hname, hkind⟩⟩
      · obtain ⟨s, hs, rfl⟩ := List.mem_map.mp hline
        exact .inr ⟨s, List.mem_of_mem_filter hs, rfl⟩

theorem sampleLine_mem_metricLines {s : MetricSample} (hs : s ∈ samples)
    (hfamily : s.family ∈ metrics.map Metric.name) : sampleLine s ∈ metricLines samples := by
  obtain ⟨metric, hmetric, hname⟩ := List.mem_map.mp hfamily
  refine List.mem_flatMap.mpr ⟨metric, hmetric, ?_⟩
  have hown : s ∈ samples.filter fun s ↦ s.family = metric.name :=
    List.mem_filter.mpr ⟨hs, decide_eq_true hname.symm⟩
  unfold familyLines
  simp only
  split_ifs with hempty
  · rw [List.isEmpty_iff.mp hempty] at hown
    exact absurd hown List.not_mem_nil
  · exact List.mem_cons_of_mem _ (List.mem_cons_of_mem _ (List.mem_map_of_mem hown))

theorem newline_notMem_of_mem {line : List Char} (hshaped : ∀ s ∈ samples, Shaped s)
    (hvalue : ∀ s ∈ samples, s.value ≠ .null) (h : line ∈ metricLines samples) : '\n' ∉ line := by
  rcases mem_metricLines h with ⟨-, hcomment⟩ | ⟨s, hs, rfl⟩
  · exact hcomment
  · rw [sampleLine_eq]
    exact Exposition.newline_notMem_line (valid_written (hshaped s hs) (hvalue s hs))

/-- The text is the lines, each ended by a line feed. -/
theorem splitOn_text (hshaped : ∀ s ∈ samples, Shaped s) (hvalue : ∀ s ∈ samples, s.value ≠ .null)
    (hsome : samples ≠ []) :
    (['\n'].intercalate (metricLines samples) ++ ['\n']).splitOn '\n' =
      metricLines samples ++ [[]] := by
  obtain ⟨s, hs⟩ := List.exists_mem_of_ne_nil samples hsome
  have hlines := List.ne_nil_of_mem (sampleLine_mem_metricLines hs (hshaped s hs).family)
  rw [Delimited.intercalate_append_singleton '\n' hlines]
  exact Delimited.splitOn_flatMap_append fun line hline ↦
    newline_notMem_of_mem hshaped hvalue hline

end Lines

/-- Whatever the tool writes, the server tells it in metrics that are well formed. -/
theorem wellFormedMetrics [Fnmatch] [Spelling] (snap : Snapshot) (endpoints : List Endpoint)
    (stats : StatsData) (opt : RenderOptions) (documents : ℕ) (ended : Value)
    (hdistinct : (endpoints.map Endpoint.guid).Nodup) :
    let shown := { snap with topics := applyStats (summarize endpoints) stats }
    ∃ samples text, metricSamples (renderJson shown opt) documents ended = some samples ∧
      metricsText (renderJson shown opt) documents ended = some text ∧
      WellFormed (entries shown opt documents ended) samples text := by
  intro shown
  have hsamples := metricSamples_renderJson shown opt documents ended
  have hshaped := shaped_entries shown opt documents ended
  have hlisted : (Json.listedGuids shown.topics).Nodup := by
    rw [Json.listedGuids_applyStats]
    exact Json.nodup_listedGuids_summarize hdistinct
  have hrows := nodup_guidKey hlisted fun t ht ↦ sided_of_mem_applyStats ht
  have hkeys := nodup_key_entries shown opt documents ended hrows fun t ht p hp ↦
    ⟨nodup_warnings_applyStats ht hp, nodup_transports_applyStats ht hp⟩
  have hmem := mem_told (entries shown opt documents ended)
  have htold : ∀ s ∈ told (entries shown opt documents ended), Shaped s :=
    fun s hs ↦ hshaped s ((hmem s).mp hs).1
  have hvalue : ∀ s ∈ told (entries shown opt documents ended), s.value ≠ .null :=
    fun s hs ↦ ((hmem s).mp hs).2
  refine ⟨_, _, hsamples, congrArg (Option.map _) hsamples, hmem, ?_, ?_, fun line hline ↦ ?_,
    fun s hs ↦ ?_, fun a ha b hb ↦ ?_, escapes⟩
  · have hpairwise := List.pairwise_map.mp (hkeys.sublist ((told_sublist _).map key))
    exact hpairwise.imp_of_mem fun ha hb hne hfamily ↦
      labelSet_ne (htold _ ha) (htold _ hb) hfamily hne
  · have hup : told (entries shown opt documents ended) ≠ [] :=
      List.ne_nil_of_mem ((hmem _).mpr ⟨List.mem_cons_self, fun h ↦ by cases h⟩)
    exact splitOn_text htold hvalue hup
  · rcases mem_metricLines hline with ⟨hcomment, -⟩ | ⟨s, hs, rfl⟩
    · exact .inl hcomment
    · exact .inr ⟨s, hs, valid_written (htold s hs) (hvalue s hs), sampleLine_eq s⟩
  · rw [← sampleLine_eq]
    exact sampleLine_mem_metricLines hs (htold s hs).family
  · exact Exposition.line_injOn (valid_written (htold a ha) (hvalue a ha))
      (valid_written (htold b hb) (hvalue b hb))

section Witness

/-- Numbers with their decimals. -/
abbrev decimalSpelling : Spelling where
  str
    | .number x => JsonText.spellDecimal x
    | .bool b => if b then "True".toList else "False".toList
    | _ => "None".toList
  number _ x := JsonText.spellDecimal x
  timestamp _ := none
  plain _ x := by
    have hnumeral := JsonText.decimalNumerals.numeral_spell x
    refine ⟨JsonText.decimalNumerals.spell_ne_nil x, fun hspace ↦ ?_, fun hnewline ↦ ?_⟩
    · exact absurd (hnumeral _ hspace) (by decide)
    · exact absurd (hnumeral _ hnewline) (by decide)

theorem wellFormedMetrics_chatter :
    let endpoints := [Json.chatterTalker, Json.chatterListener]
    let shown : Snapshot :=
      { stats := Json.chatterStats
        topics := applyStats (@summarize literalFnmatch endpoints) Json.chatterStats }
    ∃ samples text, @metricSamples decimalSpelling (renderJson shown {}) 1 .null = some samples ∧
      @metricsText decimalSpelling (renderJson shown {}) 1 .null = some text ∧
      @WellFormed decimalSpelling (@entries shown {} decimalSpelling 1 .null) samples text :=
  @wellFormedMetrics literalFnmatch decimalSpelling { stats := Json.chatterStats }
    [Json.chatterTalker, Json.chatterListener] Json.chatterStats {} 1 .null (by decide +kernel)

end Witness

end TransportViz.Web.Metrics
