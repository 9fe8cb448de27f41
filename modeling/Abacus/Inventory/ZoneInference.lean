import Abacus.Library.Ranking
import Abacus.Model.Sample
import Mathlib.Data.Prod.Lex
import Mathlib.Data.String.Basic
import Mathlib.Tactic.Linarith

/-! The zone that a window of reads confirms.
The reads are grouped by zone, and a zone wins with the most reads, or with as many as another
zone and a median signal at least 3 above it. A zone that wins this way has the highest rank, and
the zone of the second highest rank is the only one that it has to be compared with.
-/
set_option autoImplicit false

namespace Abacus

open Relational (Table OrderedDict)
open Ranking (Descending Leads)

variable {observations arranged : List RfidObservationEvent} {zone : Location}

section Groups

def readsAt (observations : List RfidObservationEvent) (zone : Location) :
    List RfidObservationEvent :=
  observations.filter fun event => event.location = zone

def zoneGroup (observations : List RfidObservationEvent) (zone : Location) : Group :=
  ⟨zone,readsAt observations zone⟩

def Group.rank (group : Group) : ℕ ×ₗ ℚ ×ₗ Uuid :=
  toLex (group.reads.length,toLex (group.median,group.location.zoneId))

theorem Group.ranksAtLeast_iff (left right : Group) :
    left.ranksAtLeast right = true ↔ right.rank ≤ left.rank := by
  rw [Group.rank,Group.rank,Prod.Lex.toLex_le_toLex,Prod.Lex.toLex_le_toLex,Group.ranksAtLeast]
  by_cases count : left.reads.length = right.reads.length
  · by_cases median : left.median = right.median
    · simp [count,median]
    · simp [count,median,Ne.symm median]
  · simp [count,Ne.symm count]

theorem Group.le_of_rank_le {left right : Group} (below : left.rank ≤ right.rank) :
    left.reads.length ≤ right.reads.length ∧
      (left.reads.length = right.reads.length → left.median ≤ right.median) := by
  rw [Group.rank,Group.rank,Prod.Lex.toLex_le_toLex,Prod.Lex.toLex_le_toLex] at below
  rcases below with fewer | ⟨equal,lower | ⟨same,-⟩⟩
  · exact ⟨fewer.le,fun equal => absurd equal fewer.ne⟩
  · exact ⟨equal.le,fun _ => lower.le⟩
  · exact ⟨equal.le,fun _ => same.le⟩

theorem ranked_descending : Descending Group.rank (ranked observations) :=
  Ranking.descending_insertionSort Group.ranksAtLeast_iff _

theorem mem_ranked {group : Group} : group ∈ ranked observations ↔
    group = zoneGroup observations group.location ∧ readsAt observations group.location ≠ [] := by
  rw [ranked,List.mem_insertionSort,List.mem_map]
  constructor
  · rintro ⟨⟨location,reads⟩,member,rfl⟩
    obtain ⟨same,some⟩ := OrderedDict.mem_groupBy member
    subst same
    exact ⟨rfl,some⟩
  · rintro ⟨same,some⟩
    refine ⟨(group.location,readsAt observations group.location),?_,same.symm⟩
    rw [← OrderedDict.get?_eq_some_iff,OrderedDict.get?_groupBy,if_pos]
    · rfl
    · obtain ⟨event,member⟩ := List.exists_mem_of_ne_nil _ some
      obtain ⟨listed,here⟩ := List.mem_filter.mp member
      exact List.any_eq_true.mpr ⟨event,listed,here⟩

theorem zoneGroup_mem_ranked (some : readsAt observations zone ≠ []) :
    zoneGroup observations zone ∈ ranked observations :=
  mem_ranked.mpr ⟨rfl,some⟩

theorem ranked_locations_nodup : ((ranked observations).map Group.location).Nodup := by
  have same : ((ranked observations).map Group.location).Perm
      (OrderedDict.groupBy RfidObservationEvent.location observations).keys := by
    refine ((List.perm_insertionSort _ _).map Group.location).trans ?_
    rw [List.map_map]
    exact .refl _
  exact same.nodup_iff.mpr (OrderedDict.groupBy RfidObservationEvent.location observations).unique

end Groups

section Arrangement

theorem median_of_perm {left right : List ℚ} (same : left.Perm right) :
    median left = median right := by
  have sorted : left.insertionSort (· ≤ ·) = right.insertionSort (· ≤ ·) :=
    (((List.perm_insertionSort _ _).trans same).trans
      (List.perm_insertionSort _ _).symm).eq_of_sortedLE List.sortedLE_insertionSort
      List.sortedLE_insertionSort
  rw [median,median,sorted]

theorem readsAt_perm (same : observations.Perm arranged) (zone : Location) :
    (readsAt observations zone).Perm (readsAt arranged zone) := same.filter _

theorem zoneGroup_rank_of_perm (same : observations.Perm arranged) (zone : Location) :
    (zoneGroup observations zone).rank = (zoneGroup arranged zone).rank := by
  have reads := readsAt_perm same zone
  have count : (zoneGroup observations zone).reads.length =
      (zoneGroup arranged zone).reads.length := reads.length_eq
  have middle : (zoneGroup observations zone).median = (zoneGroup arranged zone).median :=
    median_of_perm (reads.map _)
  rw [Group.rank,Group.rank,count,middle]
  rfl

theorem ranked_locations_perm (same : observations.Perm arranged) :
    ((ranked observations).map Group.location).Perm ((ranked arranged).map Group.location) := by
  rw [List.perm_ext_iff_of_nodup ranked_locations_nodup ranked_locations_nodup]
  have listed (events : List RfidObservationEvent) (zone : Location) :
      zone ∈ (ranked events).map Group.location ↔ readsAt events zone ≠ [] := by
    rw [List.mem_map]
    constructor
    · rintro ⟨group,member,rfl⟩
      exact (mem_ranked.mp member).2
    · exact fun some => ⟨zoneGroup events zone,zoneGroup_mem_ranked some,rfl⟩
  intro zone
  rw [listed,listed,← List.length_pos_iff,← List.length_pos_iff,(readsAt_perm same zone).length_eq]

/-- The ranks in descending order do not depend on the order of the reads. -/
theorem ranked_ranks_of_perm (same : observations.Perm arranged) :
    (ranked observations).map Group.rank = (ranked arranged).map Group.rank := by
  have byZone (events : List RfidObservationEvent) : (ranked events).map Group.rank =
      ((ranked events).map Group.location).map fun zone => (zoneGroup events zone).rank := by
    rw [List.map_map]
    apply List.map_congr_left
    intro group member
    exact congrArg Group.rank (mem_ranked.mp member).1
  apply Ranking.ranks_of_perm ranked_descending ranked_descending
  rw [byZone observations,byZone arranged]
  simp only [zoneGroup_rank_of_perm same]
  exact (ranked_locations_perm same).map _

end Arrangement

section Newest

def RfidObservationEvent.ageKey (event : RfidObservationEvent) : Time ×ₗ Time ×ₗ EventId :=
  toLex (event.observedAt,toLex (event.receivedAt,event.eventId))

theorem RfidObservationEvent.olderThan_iff (left right : RfidObservationEvent) :
    left.olderThan right = true ↔ left.ageKey < right.ageKey := by
  rw [ageKey,ageKey,Prod.Lex.toLex_lt_toLex,Prod.Lex.toLex_lt_toLex,olderThan]
  by_cases observed : left.observedAt = right.observedAt
  · by_cases received : left.receivedAt = right.receivedAt
    · simp [observed,received]
    · simp [observed,received]
  · simp [observed]

def DistinctEvents (observations : List RfidObservationEvent) : Prop :=
  observations.Pairwise fun left right => left.eventId ≠ right.eventId

theorem DistinctEvents.ageKeys (distinct : DistinctEvents observations) :
    observations.Pairwise fun left right => left.ageKey ≠ right.ageKey := by
  apply distinct.imp
  intro left right apart same
  exact apart (congrArg (fun key => (ofLex (ofLex key).2).2) same)

theorem newestOf_leads {first : RfidObservationEvent} {rest : List RfidObservationEvent}
    (distinct : DistinctEvents (first :: rest)) :
    Leads RfidObservationEvent.ageKey (first :: rest) (newestOf first rest) :=
  Ranking.leads_foldl RfidObservationEvent.olderThan_iff first rest distinct.ageKeys

theorem DistinctEvents.readsAt (distinct : DistinctEvents observations) (zone : Location) :
    DistinctEvents (readsAt observations zone) := List.Pairwise.filter _ distinct

end Newest

section Winner

variable {confirmationReads windowSeconds : ℕ} {decision : StableZoneDecision}

/-- The zone has enough reads, and every other zone has fewer reads, or as many with a median
signal that is lower by at least 3. -/
def Confirmed (observations : List RfidObservationEvent) (confirmationReads : ℕ)
    (zone : Location) : Prop :=
  confirmationReads ≤ (readsAt observations zone).length ∧ ∀ other, other ≠ zone →
    (readsAt observations other).length < (readsAt observations zone).length ∨
      ((readsAt observations other).length = (readsAt observations zone).length ∧
        (zoneGroup observations other).median + 3 ≤ (zoneGroup observations zone).median)

theorem Confirmed.of_perm (confirmed : Confirmed observations confirmationReads zone)
    (same : observations.Perm arranged) : Confirmed arranged confirmationReads zone := by
  have count (zone : Location) : (readsAt arranged zone).length =
      (readsAt observations zone).length := (readsAt_perm same zone).length_eq.symm
  have middle (zone : Location) : (zoneGroup arranged zone).median =
      (zoneGroup observations zone).median := (median_of_perm ((readsAt_perm same zone).map _)).symm
  rw [Confirmed,count]
  refine ⟨confirmed.1,?_⟩
  intro other different
  rw [count,middle,middle]
  exact confirmed.2 other different

/-- A confirmed zone ranks above all other groups. -/
theorem Confirmed.leads (confirmed : Confirmed observations confirmationReads zone)
    (required : 0 < confirmationReads) :
    Leads Group.rank (ranked observations) (zoneGroup observations zone) := by
  have some : readsAt observations zone ≠ [] :=
    List.length_pos_iff.mp (required.trans_le confirmed.1)
  refine ⟨zoneGroup_mem_ranked some,?_⟩
  intro other member different
  obtain ⟨grouped,-⟩ := mem_ranked.mp member
  have elsewhere : other.location ≠ zone := fun same => different (same ▸ grouped)
  rw [grouped,Group.rank,Group.rank,Prod.Lex.toLex_lt_toLex]
  rcases confirmed.2 other.location elsewhere with fewer | ⟨equal,lower⟩
  · exact .inl fewer
  · refine .inr ⟨equal,?_⟩
    rw [Prod.Lex.toLex_lt_toLex]
    left
    dsimp only
    linarith

/-- What the decision takes from the ranked groups and the winner's reads. -/
structure Decides (observations : List RfidObservationEvent) (confirmationReads windowSeconds : ℕ)
    (decision : StableZoneDecision) (others : List Group) (newest : RfidObservationEvent) :
    Prop where
  order : ranked observations = zoneGroup observations decision.location :: others
  latest : Leads RfidObservationEvent.ageKey (readsAt observations decision.location) newest
  enough : confirmationReads ≤ (readsAt observations decision.location).length
  ahead : ∀ second ∈ others.head?,
    (readsAt observations decision.location).length = second.reads.length →
      second.median + 3 ≤ (zoneGroup observations decision.location).median
  confidence : decision.confidence =
    observationConfidence (readsAt observations decision.location).length confirmationReads
      (others.head?.map fun second =>
        (zoneGroup observations decision.location).median - second.median) newest windowSeconds
  observedAt : decision.observedAt = newest.observedAt
  receivedAt : decision.receivedAt = newest.receivedAt

theorem decides_of_inferZone (distinct : DistinctEvents observations)
    (inferred : inferZone observations confirmationReads windowSeconds = some decision) :
    ∃ others newest, Decides observations confirmationReads windowSeconds decision others newest := by
  unfold inferZone at inferred
  split at inferred
  · cases inferred
  · rename_i winner others order
    have placed : winner ∈ ranked observations := by
      rw [order]
      exact List.mem_cons_self ..
    obtain ⟨grouped,-⟩ := mem_ranked.mp placed
    split at inferred
    · cases inferred
    · rename_i first rest reads
      have located : readsAt observations winner.location = first :: rest := by
        rw [← reads,grouped]
        rfl
      have latest : Leads RfidObservationEvent.ageKey (readsAt observations winner.location)
          (newestOf first rest) := by
        rw [located]
        exact newestOf_leads (located ▸ distinct.readsAt winner.location)
      split at inferred
      · cases inferred
      · rename_i enough
        split at inferred
        · cases inferred
        · rename_i apart
          cases inferred
          have same : zoneGroup observations winner.location = winner := grouped.symm
          have counted : readsAt observations winner.location = winner.reads :=
            congrArg Group.reads same
          refine ⟨others,newestOf first rest,⟨?_,latest,?_,?_,?_,rfl,rfl⟩⟩
          · rw [order,same]
          · rw [counted]
            exact not_lt.mp enough
          · intro second runnerUp equal
            rw [same]
            rw [counted] at equal
            by_contra close
            apply apart
            rw [Option.any_eq_true]
            refine ⟨second,runnerUp,?_⟩
            rw [Bool.and_eq_true,decide_eq_true_eq,decide_eq_true_eq]
            refine ⟨equal,?_⟩
            linarith
          · rw [counted,same]

theorem inferZone_of_ahead {others : List Group}
    (order : ranked observations = zoneGroup observations zone :: others)
    (enough : confirmationReads ≤ (readsAt observations zone).length)
    (ahead : ∀ second ∈ others.head?, (readsAt observations zone).length = second.reads.length →
      second.median + 3 ≤ (zoneGroup observations zone).median) :
    ∃ decision, inferZone observations confirmationReads windowSeconds = some decision ∧
      decision.location = zone := by
  have placed : zoneGroup observations zone ∈ ranked observations := by
    rw [order]
    exact List.mem_cons_self ..
  obtain ⟨first,rest,reads⟩ := List.exists_cons_of_ne_nil (mem_ranked.mp placed).2
  have gap : ¬(others.head?.any fun second =>
      decide ((zoneGroup observations zone).reads.length = second.reads.length) &&
        decide ((zoneGroup observations zone).median - second.median < 3)) := by
    rw [Option.any_eq_true]
    rintro ⟨second,runnerUp,close⟩
    rw [Bool.and_eq_true,decide_eq_true_eq,decide_eq_true_eq] at close
    have lower := ahead second runnerUp close.1
    linarith [close.2]
  have counted : (zoneGroup observations zone).reads = first :: rest := reads
  have some : ¬(zoneGroup observations zone).reads.length < confirmationReads := not_lt.mpr enough
  unfold inferZone
  rw [order]
  dsimp only
  rw [counted]
  dsimp only
  rw [← counted,if_neg some,if_neg gap]
  exact ⟨_,rfl,rfl⟩

theorem Confirmed.inferred (confirmed : Confirmed observations confirmationReads zone)
    (required : 0 < confirmationReads) :
    ∃ decision, inferZone observations confirmationReads windowSeconds = some decision ∧
      decision.location = zone := by
  obtain ⟨others,order⟩ :=
    List.head?_eq_some_iff.mp ((confirmed.leads required).head ranked_descending)
  apply inferZone_of_ahead order confirmed.1
  intro second runnerUp equal
  obtain ⟨later,cut⟩ := List.head?_eq_some_iff.mp runnerUp
  have placed : second ∈ ranked observations := by
    rw [order,cut]
    simp
  obtain ⟨grouped,-⟩ := mem_ranked.mp placed
  have elsewhere : second.location ≠ zone := by
    have apart : ((ranked observations).map Group.location).Nodup := ranked_locations_nodup
    rw [order,cut,List.map_cons,List.map_cons,List.nodup_cons] at apart
    intro same
    exact apart.1 (by rw [same]; exact List.mem_cons_self ..)
  have counted : (readsAt observations second.location).length = second.reads.length :=
    congrArg (fun group => group.reads.length) grouped.symm
  have middle : (zoneGroup observations second.location).median = second.median :=
    congrArg Group.median grouped.symm
  rcases confirmed.2 second.location elsewhere with fewer | ⟨-,lower⟩
  · omega
  · rwa [middle] at lower

/-- The runner-up stands for all other zones. -/
theorem Decides.confirmed {others : List Group} {newest : RfidObservationEvent}
    (decides : Decides observations confirmationReads windowSeconds decision others newest)
    (required : 0 < confirmationReads) :
    Confirmed observations confirmationReads decision.location := by
  refine ⟨decides.enough,?_⟩
  intro other different
  by_cases some : readsAt observations other = []
  · left
    rw [some]
    exact required.trans_le decides.enough
  · have sorted : Descending Group.rank (ranked observations) := ranked_descending
    have placed := zoneGroup_mem_ranked some
    rw [decides.order] at sorted placed
    have later : zoneGroup observations other ∈ others := by
      refine (List.mem_cons.mp placed).resolve_left ?_
      exact fun same => different (congrArg Group.location same)
    obtain ⟨second,rest,cut⟩ := List.exists_cons_of_ne_nil (List.ne_nil_of_mem later)
    subst cut
    obtain ⟨top,ordered⟩ := List.pairwise_cons.mp sorted
    have secondBelow := top second (List.mem_cons_self ..)
    have otherBelow : (zoneGroup observations other).rank ≤ second.rank := by
      rcases List.mem_cons.mp later with same | rest
      · rw [same]
      · exact (List.pairwise_cons.mp ordered).1 _ rest
    obtain ⟨secondCount,secondMedian⟩ := Group.le_of_rank_le secondBelow
    obtain ⟨otherCount,otherMedian⟩ := Group.le_of_rank_le otherBelow
    by_cases equal : (zoneGroup observations other).reads.length =
        (zoneGroup observations decision.location).reads.length
    · right
      have tied : (zoneGroup observations decision.location).reads.length =
          second.reads.length := by omega
      have lower := decides.ahead second rfl tied
      have median := otherMedian (equal.trans tied)
      exact ⟨equal,by linarith⟩
    · left
      exact lt_of_le_of_ne (otherCount.trans secondCount) equal

theorem DistinctEvents.of_perm (distinct : DistinctEvents observations)
    (same : observations.Perm arranged) : DistinctEvents arranged :=
  same.pairwise distinct Ne.symm

/-- The runner-up's median is the same for every order of the reads. -/
theorem runnerUp_median_of_perm {winner arrangedWinner : Group} {others arrangedOthers : List Group}
    (same : observations.Perm arranged) (order : ranked observations = winner :: others)
    (arrangedOrder : ranked arranged = arrangedWinner :: arrangedOthers) :
    others.head?.map Group.median = arrangedOthers.head?.map Group.median := by
  have ranks := ranked_ranks_of_perm same
  rw [order,arrangedOrder,List.map_cons,List.map_cons,List.cons.injEq] at ranks
  have medians (groups : List Group) : groups.head?.map Group.median =
      (groups.map Group.rank).head?.map fun rank => (ofLex (ofLex rank).2).1 := by
    rw [List.head?_map,Option.map_map]
    rfl
  rw [medians,medians,ranks.2]

theorem inferZone_of_perm (required : 0 < confirmationReads) (distinct : DistinctEvents observations)
    (same : observations.Perm arranged)
    (inferred : inferZone observations confirmationReads windowSeconds = some decision) :
    inferZone arranged confirmationReads windowSeconds = some decision := by
  obtain ⟨others,newest,decides⟩ := decides_of_inferZone distinct inferred
  obtain ⟨arrangedDecision,arrangedInferred,zone⟩ : ∃ arrangedDecision,
      inferZone arranged confirmationReads windowSeconds = some arrangedDecision ∧
        arrangedDecision.location = decision.location :=
    ((decides.confirmed required).of_perm same).inferred required
  obtain ⟨arrangedOthers,arrangedNewest,arrangedDecides⟩ :=
    decides_of_inferZone (distinct.of_perm same) arrangedInferred
  have reads := readsAt_perm same decision.location
  have latest : arrangedNewest = newest := by
    have leads := arrangedDecides.latest
    rw [zone] at leads
    exact leads.unique (decides.latest.of_perm reads)
  have middle : (zoneGroup arranged decision.location).median =
      (zoneGroup observations decision.location).median := (median_of_perm (reads.map _)).symm
  have runnerUp := runnerUp_median_of_perm same decides.order arrangedDecides.order
  have separation : (arrangedOthers.head?.map fun second =>
        (zoneGroup arranged decision.location).median - second.median) =
      others.head?.map fun second =>
        (zoneGroup observations decision.location).median - second.median := by
    have gap := congrArg (Option.map fun median : ℚ =>
      (zoneGroup observations decision.location).median - median) runnerUp
    rw [Option.map_map,Option.map_map] at gap
    rw [middle]
    exact gap.symm
  have confidence : arrangedDecision.confidence = decision.confidence := by
    rw [arrangedDecides.confidence,decides.confidence,zone,latest,reads.length_eq.symm,separation]
  have observed : arrangedDecision.observedAt = decision.observedAt := by
    rw [arrangedDecides.observedAt,decides.observedAt,latest]
  have received : arrangedDecision.receivedAt = decision.receivedAt := by
    rw [arrangedDecides.receivedAt,decides.receivedAt,latest]
  have whole : arrangedDecision = decision := by
    cases arrangedDecision
    cases decision
    congr
  rw [arrangedInferred,whole]

/-- The inference accepts exactly the confirmed zone, for every order of the reads, and dates it by
the newest of its reads. -/
theorem zone_inference_exact (observations : List RfidObservationEvent)
    (distinct : DistinctEvents observations) {confirmationReads : ℕ}
    (required : 1 ≤ confirmationReads) (windowSeconds : ℕ) :
    (∀ zone, (∃ decision, inferZone observations confirmationReads windowSeconds = some decision ∧
        decision.location = zone) ↔ Confirmed observations confirmationReads zone) ∧
      (∀ arranged, observations.Perm arranged →
        inferZone arranged confirmationReads windowSeconds =
          inferZone observations confirmationReads windowSeconds) ∧
      ∀ decision, inferZone observations confirmationReads windowSeconds = some decision →
        ∃ newest ∈ readsAt observations decision.location,
          (∀ read ∈ readsAt observations decision.location, read ≠ newest →
            read.olderThan newest = true) ∧
          decision.observedAt = newest.observedAt ∧ decision.receivedAt = newest.receivedAt := by
  refine ⟨?_,?_,?_⟩
  · intro zone
    constructor
    · rintro ⟨decision,inferred,rfl⟩
      obtain ⟨others,newest,decides⟩ := decides_of_inferZone distinct inferred
      exact decides.confirmed required
    · exact fun confirmed => confirmed.inferred required
  · intro arranged same
    ext decision
    constructor
    · exact inferZone_of_perm required (distinct.of_perm same) same.symm
    · exact inferZone_of_perm required distinct same
  · intro decision inferred
    obtain ⟨others,newest,decides⟩ := decides_of_inferZone distinct inferred
    refine ⟨newest,decides.latest.member,?_,decides.observedAt,decides.receivedAt⟩
    intro read member different
    exact (RfidObservationEvent.olderThan_iff read newest).mpr
      (decides.latest.above read member different)

end Winner

namespace Sample

def crossing : List RfidObservationEvent :=
  [read backroomReader backroomId "first" 0 1,read floorReader floorId "second" 1 2,
    read floorReader floorId "third" 2 3]

theorem crossing_distinct : DistinctEvents crossing := by
  simp [DistinctEvents,crossing,read]

theorem crossing_inferred : (inferZone crossing 2 10).map StableZoneDecision.location =
    some ⟨storeId,floorId⟩ := by decide +kernel

end Sample

theorem zone_inference_exact_sample :
    Confirmed Sample.crossing 2 ⟨Sample.storeId,Sample.floorId⟩ ∧
      inferZone Sample.crossing.reverse 2 10 = inferZone Sample.crossing 2 10 := by
  obtain ⟨exact,order,-⟩ := zone_inference_exact Sample.crossing Sample.crossing_distinct
    (show 1 ≤ 2 by decide) 10
  refine ⟨(exact _).mp ?_,order _ (List.reverse_perm _).symm⟩
  exact Option.map_eq_some_iff.mp Sample.crossing_inferred

end Abacus
