/-
# The join of the upstream lists

When two upstream lists are accepted, and what they are joined to. The
response counts decide which upstreams are kept, unless their list may be
truncated: then the averages decide and the counts are unknown. The order of
either list does not matter.

Key theorems: `countResponses_eq_ok_iff`, `normalizeAverages_eq_ok_iff`,
`normalizeUpstreams_exact`.
-/
import Sentinel.Adguard.Normalize

namespace Sentinel

open Collections Fallible

/-! ### Lists of single entries -/

/-- The pairs of a list of maps. -/
def listed {α : Type} (entries : List (SortedMap α)) : List (String × α) := entries.flatMap (·.entries)

/-- Every map has exactly one identity, which is not empty and in no other map. -/
structure ListedOnce {α : Type} (entries : List (SortedMap α)) : Prop where
  single : ∀ entry ∈ entries, ∃ pair, entry.entries = [pair] ∧ pair.1 ≠ ""
  distinct : ((listed entries).map Prod.fst).Nodup

theorem listed_eq {α : Type} {entries : List (SortedMap α)} {pairs : List (String × α)}
    (h : List.Forall₂ (fun entry pair => entry.entries = [pair]) entries pairs) : listed entries = pairs := by
  induction h with
  | nil => rfl
  | @cons entry pair entries pairs hentry _ ih =>
    unfold listed at ih ⊢
    rw [List.flatMap_cons, hentry, ih, List.singleton_append]

/-- A list whose maps are single has a pair for each. -/
theorem ListedOnce.forall₂ {α : Type} {entries : List (SortedMap α)} (h : ListedOnce entries) :
    List.Forall₂ (fun entry pair => entry.entries = [pair] ∧ pair.1 ≠ "") entries (listed entries) := by
  have hsingle := h.single
  clear h
  induction entries with
  | nil => exact .nil
  | cons entry entries ih =>
    obtain ⟨pair, hentry, hname⟩ := hsingle entry List.mem_cons_self
    have hlisted : listed (entry :: entries) = pair :: listed entries := by
      rw [listed, List.flatMap_cons, hentry, List.singleton_append]
      rfl
    rw [hlisted]
    exact .cons ⟨hentry, hname⟩ (ih fun other hother => hsingle other (List.mem_cons_of_mem _ hother))

/-! ### The counts -/

/-- **The counts are accepted** if every map has one identity of its own. -/
theorem countResponses_eq_ok_iff {responses : List (SortedMap UInt64)} :
    (∃ counts, responses.foldlM countResponse [] = .ok counts) ↔ ListedOnce responses := by
  simp only [Distinct.foldlM_nil_eq_ok_iff countResponse_step]
  constructor
  · rintro ⟨_, pairs, hpairs, hdistinct, -⟩
    have hlisted := listed_eq (hpairs.imp fun _ _ h => h.1)
    refine ⟨fun entry hentry => ?_, hlisted ▸ hdistinct⟩
    obtain ⟨pair, -, hpair⟩ := exists_of_forall₂_left hpairs entry hentry
    exact ⟨pair, hpair⟩
  · intro h
    exact ⟨_, listed responses, h.forall₂, h.distinct, rfl⟩

/-- The counts are those of the list. -/
theorem perm_counts {responses : List (SortedMap UInt64)} {counts : List (String × UInt64)}
    (h : responses.foldlM countResponse [] = .ok counts) : counts.Perm (listed responses) := by
  obtain ⟨pairs, hpairs, -, hperm⟩ := Distinct.perm_of_foldlM countResponse_step h
  rwa [listed_eq (hpairs.imp fun _ _ hpair => hpair.1)]

/-! ### The averages -/

/-- The responses behind an average, if they can be told. -/
theorem averagedResponses_eq_ok_iff {counts : List (String × UInt64)} (hdistinct : (counts.map Prod.fst).Nodup)
    (possiblyTruncated : Bool) (identity : String) (responses : Option UInt64) :
    averagedResponses counts possiblyTruncated identity = .ok responses ↔
      if possiblyTruncated then responses = none
      else ∃ count, (identity, count) ∈ counts ∧ 0 < count ∧ responses = some count := by
  unfold averagedResponses
  cases possiblyTruncated with
  | true =>
    rw [if_pos rfl, if_pos rfl]
    exact ⟨fun h => (Except.ok.inj h).symm, fun h => h ▸ rfl⟩
  | false =>
    simp only [Bool.false_eq_true, if_false, bind_eq_ok_iff, demand_eq_ok_iff, ensure_eq_ok_iff, decide_eq_true_eq]
    constructor
    · rintro ⟨⟨name, count⟩, hfind, _, hpositive, h⟩
      obtain rfl : name = identity := by simpa using List.find?_some hfind
      exact ⟨count, List.mem_of_find?_eq_some hfind, hpositive, (Except.ok.inj h).symm⟩
    · rintro ⟨count, hmem, hpositive, rfl⟩
      exact ⟨(identity, count), find?_key_of_mem hdistinct hmem, (), hpositive, rfl⟩

/-! ### What is accepted -/

/-- The two lists are accepted: every map has one identity of its own, the
averages are numbers from zero up, and a response list that is not at the
limit has a positive count for each of them. -/
structure UpstreamsAccepted (averages : List (SortedMap Binary64)) (responses : List (SortedMap UInt64)) : Prop where
  averaged : ListedOnce averages
  counts : ListedOnce responses
  numbers : ∀ pair ∈ listed averages, pair.2.isFinite ∧ pair.2.lt (.ofNat 0) = false
  counted : responses.length < upstreamListLimit →
    ∀ pair ∈ listed averages, ∃ count, (pair.1, count) ∈ listed responses ∧ 0 < count

section Accepted

variable {averages : List (SortedMap Binary64)} {responses : List (SortedMap UInt64)}
  {counts : List (String × UInt64)} (hcounts : responses.foldlM countResponse [] = .ok counts)

include hcounts

/-- The pair of a listed average can be kept. -/
theorem exists_isAverage_iff {entry : SortedMap Binary64} {pair : String × Binary64} (hentry : entry.entries = [pair]) :
    (∃ upstream, IsAverage counts (decide (upstreamListLimit ≤ responses.length)) entry upstream) ↔
      pair.1 ≠ "" ∧ (pair.2.isFinite ∧ pair.2.lt (.ofNat 0) = false) ∧ (responses.length < upstreamListLimit →
        ∃ count, (pair.1, count) ∈ listed responses ∧ 0 < count) := by
  have hmem (entry : String × UInt64) : entry ∈ counts ↔ entry ∈ listed responses := (perm_counts hcounts).mem_iff
  have hresponses := averagedResponses_eq_ok_iff (countResponses_spec hcounts).distinct
    (decide (upstreamListLimit ≤ responses.length)) pair.1
  constructor
  · rintro ⟨upstream, ⟨hpair, hname⟩, hfinite, hnonnegative, hcount⟩
    obtain rfl : pair = (upstream.identity, upstream.averageSeconds) := by simpa using hentry.symm.trans hpair
    refine ⟨hname, ⟨hfinite, hnonnegative⟩, fun hshort => ?_⟩
    rw [hresponses, if_neg (by simpa using hshort)] at hcount
    obtain ⟨count, hcount, hpositive, -⟩ := hcount
    exact ⟨count, (hmem _).mp hcount, hpositive⟩
  · rintro ⟨hname, ⟨hfinite, hnonnegative⟩, hcount⟩
    by_cases hshort : responses.length < upstreamListLimit
    · obtain ⟨count, hcount, hpositive⟩ := hcount hshort
      refine ⟨⟨pair.1, pair.2, some count⟩, ⟨hentry, hname⟩, hfinite, hnonnegative, ?_⟩
      rw [hresponses, if_neg (by simpa using hshort)]
      exact ⟨count, (hmem _).mpr hcount, hpositive, rfl⟩
    · refine ⟨⟨pair.1, pair.2, none⟩, ⟨hentry, hname⟩, hfinite, hnonnegative, ?_⟩
      rw [hresponses, if_pos (by simpa using hshort)]

/-- **The averages are accepted** if every map has one identity of its own,
with a number and, where counts are known, a positive count. -/
theorem normalizeAverages_eq_ok_iff :
    (∃ averaged, averages.foldlM (normalizeAverage counts (decide (upstreamListLimit ≤ responses.length))) [] = .ok averaged) ↔
      UpstreamsAccepted averages responses := by
  simp only [Distinct.foldlM_nil_eq_ok_iff (normalizeAverage_step _ _)]
  constructor
  · rintro ⟨_, upstreams, hupstreams, hdistinct, -⟩
    have hpairs : listed averages = upstreams.map fun upstream => (upstream.identity, upstream.averageSeconds) :=
      listed_eq (List.forall₂_map_right_iff.mpr (hupstreams.imp fun _ _ h => h.entry.1))
    have hidentities : (listed averages).map Prod.fst = upstreams.map (·.identity) := by
      rw [hpairs, List.map_map]
      rfl
    have haccepted : ∀ entry ∈ averages, ∃ pair, entry.entries = [pair] ∧ pair.1 ≠ "" ∧
        (pair.2.isFinite ∧ pair.2.lt (.ofNat 0) = false) ∧ (responses.length < upstreamListLimit →
          ∃ count, (pair.1, count) ∈ listed responses ∧ 0 < count) := by
      intro entry hentry
      obtain ⟨upstream, -, hupstream⟩ := exists_of_forall₂_left hupstreams entry hentry
      exact ⟨_, hupstream.entry.1, (exists_isAverage_iff hcounts hupstream.entry.1).mp ⟨upstream, hupstream⟩⟩
    have hof : ∀ pair ∈ listed averages, (pair.2.isFinite ∧ pair.2.lt (.ofNat 0) = false) ∧
        (responses.length < upstreamListLimit → ∃ count, (pair.1, count) ∈ listed responses ∧ 0 < count) := by
      intro pair hpair
      obtain ⟨entry, hentry, hmem⟩ := List.mem_flatMap.mp hpair
      obtain ⟨only, honly, -, h⟩ := haccepted entry hentry
      rw [honly, List.mem_singleton] at hmem
      exact hmem ▸ h
    refine ⟨⟨fun entry hentry => ?_, hidentities ▸ hdistinct⟩, countResponses_eq_ok_iff.mp ⟨counts, hcounts⟩,
      fun pair hpair => (hof pair hpair).1, fun hshort pair hpair => (hof pair hpair).2 hshort⟩
    obtain ⟨pair, hpair, hname, -⟩ := haccepted entry hentry
    exact ⟨pair, hpair, hname⟩
  · intro h
    have hexists : ∀ entry ∈ averages, ∃ upstream,
        IsAverage counts (decide (upstreamListLimit ≤ responses.length)) entry upstream := by
      intro entry hentry
      obtain ⟨pair, hpair, hname⟩ := h.averaged.single entry hentry
      have hmem : pair ∈ listed averages := List.mem_flatMap.mpr ⟨entry, hentry, hpair ▸ List.mem_singleton.mpr rfl⟩
      exact (exists_isAverage_iff hcounts hpair).mpr ⟨hname, h.numbers pair hmem, fun hshort => h.counted hshort pair hmem⟩
    obtain ⟨upstreams, hupstreams⟩ := exists_forall₂_of_forall hexists
    have hpairs : listed averages = upstreams.map fun upstream => (upstream.identity, upstream.averageSeconds) :=
      listed_eq (List.forall₂_map_right_iff.mpr (hupstreams.imp fun _ _ h => h.entry.1))
    refine ⟨_, upstreams, hupstreams, ?_, rfl⟩
    have hdistinct := h.averaged.distinct
    rw [hpairs, List.map_map] at hdistinct
    exact hdistinct

end Accepted

theorem normalizeUpstreams_ok_iff {averages : List (SortedMap Binary64)} {responses : List (SortedMap UInt64)} :
    (∃ upstreams, normalizeUpstreams averages responses = .ok upstreams) ↔ UpstreamsAccepted averages responses := by
  constructor
  · rintro ⟨upstreams, h⟩
    simp only [normalizeUpstreams, bind_eq_ok_iff] at h
    obtain ⟨counts, hcounts, averaged, haveraged, -⟩ := h
    exact (normalizeAverages_eq_ok_iff hcounts).mp ⟨averaged, haveraged⟩
  · intro h
    obtain ⟨counts, hcounts⟩ := countResponses_eq_ok_iff.mpr h.counts
    obtain ⟨averaged, haveraged⟩ := (normalizeAverages_eq_ok_iff hcounts).mpr h
    simp only [normalizeUpstreams, bind_eq_ok_iff]
    exact ⟨_, counts, hcounts, averaged, haveraged, rfl⟩

/-! ### What is kept -/

section Averages

variable {averages : List (SortedMap Binary64)} {counts : List (String × UInt64)} {possiblyTruncated : Bool}
  {averaged : List UpstreamObservation}
  (h : averages.foldlM (normalizeAverage counts possiblyTruncated) [] = .ok averaged)

include h

/-- The averages are kept in some order, each for its map. -/
theorem listed_averaged : ∃ upstreams, List.Forall₂ (IsAverage counts possiblyTruncated) averages upstreams ∧
    listed averages = upstreams.map (fun upstream => (upstream.identity, upstream.averageSeconds)) ∧
    averaged.Perm upstreams := by
  obtain ⟨upstreams, hupstreams, -, hperm⟩ := Distinct.perm_of_foldlM (normalizeAverage_step counts possiblyTruncated) h
  refine ⟨upstreams, hupstreams, ?_, hperm⟩
  exact listed_eq (List.forall₂_map_right_iff.mpr (hupstreams.imp fun _ _ h => h.entry.1))

/-- The averages that were kept are those that were listed, with the responses that can be told. -/
theorem mem_averaged (upstream : UpstreamObservation) :
    upstream ∈ averaged ↔ (upstream.identity, upstream.averageSeconds) ∈ listed averages ∧
      averagedResponses counts possiblyTruncated upstream.identity = .ok upstream.responses := by
  obtain ⟨upstreams, hupstreams, hpairs, hperm⟩ := listed_averaged h
  rw [hperm.mem_iff, hpairs, List.mem_map]
  constructor
  · intro hmem
    obtain ⟨entry, -, hentry⟩ := exists_of_forall₂_right hupstreams upstream hmem
    exact ⟨⟨upstream, hmem, rfl⟩, hentry.responses⟩
  · rintro ⟨⟨other, hother, heq⟩, hresponses⟩
    obtain ⟨hidentity, haverage⟩ := Prod.mk.inj heq
    obtain ⟨entry, -, hentry⟩ := exists_of_forall₂_right hupstreams other hother
    have hsame := hentry.responses
    rw [hidentity, hresponses] at hsame
    obtain rfl : other = upstream := by
      obtain ⟨identity, average, responses⟩ := other
      obtain ⟨identity', average', responses'⟩ := upstream
      simp only [UpstreamObservation.mk.injEq] at *
      exact ⟨hidentity, haverage, (Except.ok.inj hsame).symm⟩
    exact hother

theorem perm_identities : (averaged.map (·.identity)).Perm ((listed averages).map Prod.fst) := by
  obtain ⟨upstreams, -, hpairs, hperm⟩ := listed_averaged h
  rw [hpairs, List.map_map]
  exact hperm.map _

end Averages

theorem mem_unaveraged {counts : List (String × UInt64)} {averaged : List UpstreamObservation}
    {upstream : UpstreamObservation} : upstream ∈ unaveraged counts averaged ↔
      (∃ count, (upstream.identity, count) ∈ counts ∧ upstream.responses = some count) ∧
        upstream.identity ∉ averaged.map (·.identity) ∧ upstream.averageSeconds = .ofNat 0 := by
  obtain ⟨identity, average, responses⟩ := upstream
  rw [unaveraged, List.mem_map]
  constructor
  · rintro ⟨⟨name, count⟩, hentry, heq⟩
    obtain ⟨rfl, rfl, rfl⟩ := UpstreamObservation.mk.inj heq
    obtain ⟨hmem, hnew⟩ := List.mem_filter.mp hentry
    exact ⟨⟨count, hmem, rfl⟩, by simpa using hnew, rfl⟩
  · rintro ⟨⟨count, hmem, rfl⟩, hnew, rfl⟩
    exact ⟨(identity, count), List.mem_filter.mpr ⟨hmem, by simpa using hnew⟩, rfl⟩

/-- The upstream has its count, and its average or none. -/
structure IsCounted (averages : List (SortedMap Binary64)) (responses : List (SortedMap UInt64))
    (upstream : UpstreamObservation) : Prop where
  count : ∃ count, (upstream.identity, count) ∈ listed responses ∧ upstream.responses = some count
  average : (upstream.identity, upstream.averageSeconds) ∈ listed averages ∨
    upstream.identity ∉ (listed averages).map Prod.fst ∧ upstream.averageSeconds = .ofNat 0

section Kept

variable {averages : List (SortedMap Binary64)} {responses : List (SortedMap UInt64)}
  {upstreams : List UpstreamObservation} (h : normalizeUpstreams averages responses = .ok upstreams)

include h

theorem pairwise_normalizeUpstreams : upstreams.Pairwise fun a b => a.identity < b.identity := by
  have hdistinct := (normalizeUpstreams_spec h).distinct
  simp only [normalizeUpstreams, bind_eq_ok_iff] at h
  obtain ⟨counts, -, averaged, -, h⟩ := h
  obtain rfl := Except.ok.inj h
  exact pairwise_lt_orderBy (((perm_orderBy _ _).map _).nodup_iff.mp hdistinct)

/-- **At the limit** the listed averages are kept, and no count. -/
theorem mem_normalizeUpstreams_of_truncated (htruncated : upstreamListLimit ≤ responses.length)
    (upstream : UpstreamObservation) :
    upstream ∈ upstreams ↔ (upstream.identity, upstream.averageSeconds) ∈ listed averages ∧ upstream.responses = none := by
  simp only [normalizeUpstreams, bind_eq_ok_iff] at h
  obtain ⟨counts, hcounts, averaged, haveraged, h⟩ := h
  obtain rfl := Except.ok.inj h
  rw [mem_orderBy, decide_eq_true htruncated, if_pos rfl, List.append_nil, mem_averaged haveraged,
    averagedResponses_eq_ok_iff (countResponses_spec hcounts).distinct, if_pos (decide_eq_true htruncated)]

/-- **Below the limit** the counted upstreams are kept, each with its average. -/
theorem mem_normalizeUpstreams_of_complete (hcomplete : responses.length < upstreamListLimit)
    (upstream : UpstreamObservation) : upstream ∈ upstreams ↔ IsCounted averages responses upstream := by
  have haccepted := normalizeUpstreams_ok_iff.mp ⟨upstreams, h⟩
  simp only [normalizeUpstreams, bind_eq_ok_iff] at h
  obtain ⟨counts, hcounts, averaged, haveraged, h⟩ := h
  obtain rfl := Except.ok.inj h
  have hfalse : decide (upstreamListLimit ≤ responses.length) = false := decide_eq_false (not_le.mpr hcomplete)
  have hmem (entry : String × UInt64) : entry ∈ counts ↔ entry ∈ listed responses := (perm_counts hcounts).mem_iff
  rw [hfalse] at haveraged ⊢
  have hkept : upstream ∈ averaged ↔ (upstream.identity, upstream.averageSeconds) ∈ listed averages ∧
      ∃ count, (upstream.identity, count) ∈ listed responses ∧ 0 < count ∧ upstream.responses = some count := by
    rw [mem_averaged haveraged, averagedResponses_eq_ok_iff (countResponses_spec hcounts).distinct]
    simp only [Bool.false_eq_true, if_false, hmem]
  rw [mem_orderBy, if_neg Bool.false_ne_true, List.mem_append, hkept, mem_unaveraged,
    (perm_identities haveraged).mem_iff]
  simp only [hmem]
  constructor
  · rintro (⟨haverage, count, hcount, -, hresponses⟩ | ⟨hcount, hnew, hzero⟩)
    · exact ⟨⟨count, hcount, hresponses⟩, .inl haverage⟩
    · exact ⟨hcount, .inr ⟨hnew, hzero⟩⟩
  · rintro ⟨⟨count, hcount, hresponses⟩, haverage | ⟨hnew, hzero⟩⟩
    · -- an identity has one count, and an averaged one has a positive count
      obtain ⟨positive, hpositive, hlt⟩ := haccepted.counted hcomplete _ haverage
      obtain rfl : positive = count :=
        (Prod.mk.inj (List.inj_on_of_nodup_map haccepted.counts.distinct hpositive hcount rfl)).2
      exact .inl ⟨haverage, positive, hcount, hlt, hresponses⟩
    · exact .inr ⟨⟨count, hcount, hresponses⟩, hnew, hzero⟩

end Kept

/-! ### The order of the lists -/

theorem ListedOnce.perm {α : Type} {entries entries' : List (SortedMap α)} (hperm : entries.Perm entries')
    (h : ListedOnce entries) : ListedOnce entries' where
  single entry hentry := h.single entry (hperm.mem_iff.mpr hentry)
  distinct := (((hperm.flatMap_right _).map Prod.fst).nodup_iff).mp h.distinct

section Order

variable {averages averages' : List (SortedMap Binary64)} {responses responses' : List (SortedMap UInt64)}
  (haverages : averages.Perm averages') (hresponses : responses.Perm responses')

include haverages hresponses

theorem UpstreamsAccepted.perm (h : UpstreamsAccepted averages responses) : UpstreamsAccepted averages' responses' := by
  have hpairs (pair : String × Binary64) : pair ∈ listed averages' ↔ pair ∈ listed averages :=
    (haverages.flatMap_right _).mem_iff.symm
  have hcounts (pair : String × UInt64) : pair ∈ listed responses ↔ pair ∈ listed responses' :=
    (hresponses.flatMap_right _).mem_iff
  refine ⟨h.averaged.perm haverages, h.counts.perm hresponses, fun pair hpair => h.numbers pair ((hpairs pair).mp hpair),
    fun hshort pair hpair => ?_⟩
  obtain ⟨count, hcount, hpositive⟩ := h.counted (hresponses.length_eq ▸ hshort) pair ((hpairs pair).mp hpair)
  exact ⟨count, (hcounts _).mp hcount, hpositive⟩

theorem IsCounted.perm {upstream : UpstreamObservation} (h : IsCounted averages responses upstream) :
    IsCounted averages' responses' upstream := by
  have hpairs := (haverages.flatMap_right fun entry => entry.entries)
  have hcounts := (hresponses.flatMap_right fun entry => entry.entries)
  obtain ⟨count, hcount, hsome⟩ := h.count
  refine ⟨⟨count, hcounts.mem_iff.mp hcount, hsome⟩, ?_⟩
  exact h.average.imp hpairs.mem_iff.mp (And.imp_left (mt (hpairs.map _).mem_iff.mpr))

/-- Lists in another order are joined to the same upstreams. -/
theorem normalizeUpstreams_perm {upstreams upstreams' : List UpstreamObservation}
    (h : normalizeUpstreams averages responses = .ok upstreams)
    (h' : normalizeUpstreams averages' responses' = .ok upstreams') : upstreams = upstreams' := by
  have hsorted := pairwise_normalizeUpstreams h
  have hsorted' := pairwise_normalizeUpstreams h'
  have hmem : ∀ upstream, upstream ∈ upstreams ↔ upstream ∈ upstreams' := by
    intro upstream
    by_cases hcomplete : responses.length < upstreamListLimit
    · rw [mem_normalizeUpstreams_of_complete h hcomplete,
        mem_normalizeUpstreams_of_complete h' (hresponses.length_eq ▸ hcomplete)]
      exact ⟨.perm haverages hresponses, .perm haverages.symm hresponses.symm⟩
    · have htruncated := not_lt.mp hcomplete
      rw [mem_normalizeUpstreams_of_truncated h htruncated,
        mem_normalizeUpstreams_of_truncated h' (hresponses.length_eq ▸ htruncated), listed, listed,
        (haverages.flatMap_right _).mem_iff]
  have hnodup {l : List UpstreamObservation} (hl : l.Pairwise fun a b => a.identity < b.identity) : l.Nodup :=
    hl.imp fun {a b} hlt heq => hlt.ne (congrArg _ heq)
  refine List.Perm.eq_of_pairwise (fun a b _ _ hab hba => absurd (hab.trans hba) (lt_irrefl _)) hsorted hsorted' ?_
  exact (List.perm_ext_iff_of_nodup (hnodup hsorted) (hnodup hsorted')).mpr hmem

end Order

/-- **The join is exact.** Two lists are joined just if they are accepted. The
upstreams are strictly sorted; below the limit they are the counted ones, each
with its average or zero, and from it on the averaged ones, their counts
unknown. The order of the lists does not matter. -/
theorem normalizeUpstreams_exact (averages : List (SortedMap Binary64)) (responses : List (SortedMap UInt64)) :
    ((∃ upstreams, normalizeUpstreams averages responses = .ok upstreams) ↔ UpstreamsAccepted averages responses) ∧
      (∀ upstreams, normalizeUpstreams averages responses = .ok upstreams →
        upstreams.Pairwise (fun a b => a.identity < b.identity) ∧
          (responses.length < upstreamListLimit →
            ∀ upstream, upstream ∈ upstreams ↔ IsCounted averages responses upstream) ∧
          (upstreamListLimit ≤ responses.length → ∀ upstream, upstream ∈ upstreams ↔
            (upstream.identity, upstream.averageSeconds) ∈ listed averages ∧ upstream.responses = none)) ∧
      ∀ averages' responses', averages.Perm averages' → responses.Perm responses' →
        (normalizeUpstreams averages' responses').toOption = (normalizeUpstreams averages responses).toOption := by
  refine ⟨normalizeUpstreams_ok_iff, fun upstreams h => ⟨pairwise_normalizeUpstreams h,
    mem_normalizeUpstreams_of_complete h, mem_normalizeUpstreams_of_truncated h⟩, ?_⟩
  intro averages' responses' haverages hresponses
  cases h : normalizeUpstreams averages responses with
  | ok upstreams =>
    obtain ⟨upstreams', h'⟩ := normalizeUpstreams_ok_iff.mpr
      ((normalizeUpstreams_ok_iff.mp ⟨upstreams, h⟩).perm haverages hresponses)
    rw [h', normalizeUpstreams_perm haverages hresponses h h']
  | error error =>
    cases h' : normalizeUpstreams averages' responses' with
    | error error' => rfl
    | ok upstreams' =>
      obtain ⟨upstreams, hok⟩ := normalizeUpstreams_ok_iff.mpr
        ((normalizeUpstreams_ok_iff.mp ⟨upstreams', h'⟩).perm haverages.symm hresponses.symm)
      rw [h] at hok
      cases hok

end Sentinel
