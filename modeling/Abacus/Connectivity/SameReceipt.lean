import Abacus.Connectivity.Batch

/-! The events of one receipt in any order.
The freshness and the throttled live time can depend on the order, and it is shown exactly when.
-/
set_option autoImplicit false

namespace Abacus

open Relational (Table)
open Throttle (Due Settled)

namespace StoreConnectivity

variable {settings : Settings} {receipt : Receipt} {row : StoreConnectivity}
  {event : RfidObservationEvent} {events arranged : List RfidObservationEvent}

section Freshness

/-- The status that a live event of the receipt derives depends on the live time alone. -/
theorem effectiveFreshness_congr {other : StoreConnectivity} {now : Time}
    (same : row.unthrottled = other.unthrottled)
    (live : row.lastLiveEventAt = other.lastLiveEventAt) :
    effectiveFreshness (some row) settings now = effectiveFreshness (some other) settings now := by
  rw [unthrottled_eq same,live]
  rfl

theorem effectiveFreshness_undrained {now : Time} (open_ : row.backlogDrained = false) :
    effectiveFreshness (some row) settings now = .stale := by
  unfold effectiveFreshness
  dsimp only
  split
  · rw [open_]
    rfl
  · rfl

/-- Without reader coverage the status is stale only for an old live time. -/
theorem effectiveFreshness_uncovered {receivedAt : Time} (heard : row.heard receivedAt = row)
    (drained : row.backlogDrained = true) (ended : row.oldestBufferedEventAt = none)
    (uncovered : row.readerCoverageOk = false) :
    effectiveFreshness (some row) settings receivedAt = .stale ↔ ∀ live ∈ row.lastLiveEventAt,
      seconds settings.connectivityStaleWindowSeconds < receivedAt - live := by
  obtain ⟨heartbeat,beats,later⟩ := heard_eq_self.mp heard
  have window : 0 < seconds settings.connectivityStaleWindowSeconds :=
    seconds_pos (Nat.zero_lt_of_lt settings.staleWindowInRange.1)
  have age : max 0 (receivedAt - heartbeat) = 0 := max_eq_left (sub_nonpos.mpr later)
  cases met : row.lastLiveEventAt with
  | none => simp [effectiveFreshness,beats,met]
  | some live =>
      have positive : seconds settings.connectivityStaleWindowSeconds < max 0 (receivedAt - live) ↔
          seconds settings.connectivityStaleWindowSeconds < receivedAt - live := by
        rw [lt_max_iff]
        exact or_iff_right window.not_gt
      simp only [effectiveFreshness,beats,met,drained,ended,uncovered,age,positive]
      by_cases old : seconds settings.connectivityStaleWindowSeconds < receivedAt - live
      · simp [old]
      · simp [old,window.le]

theorem observeAll_concat (row : StoreConnectivity) (before : List RfidObservationEvent)
    (last : RfidObservationEvent) :
    row.observeAll settings (before ++ [last]) =
      (row.observeAll settings before).observe settings last := by
  simp [observeAll]

theorem observe_live_freshness (recorded : receipt.Recorded row) (brings : receipt.Brings event)
    (current : row.statusReceivedAt = receipt.receivedAt) (live : event.isBuffered = false) :
    (row.observe settings event).freshnessStatus =
      effectiveFreshness (some (row.observe settings event)) settings receipt.receivedAt :=
  congrArg freshnessStatus (observe_live recorded brings current live)

theorem observe_buffered_stale (recorded : receipt.Recorded row) (brings : receipt.Brings event)
    (current : row.statusReceivedAt = receipt.receivedAt) (buffered : event.isBuffered = true)
    (open_ : ¬(receipt.readerCoverageOk = true ∧ row.Resumed receipt)) :
    (row.observe settings event).freshnessStatus = .stale := by
  by_cases resumed : row.Resumed receipt
  · have uncovered : receipt.readerCoverageOk = false :=
      Bool.eq_false_iff.mpr fun covered => open_ ⟨covered,resumed⟩
    rw [observe_resumed recorded brings current buffered resumed,withDrained,uncovered]
    simp
  · rw [observe_buffered recorded brings current buffered resumed]

theorem observe_buffered_kept (settings : Settings) (recorded : receipt.Recorded row)
    (brings : receipt.Brings event) (current : row.statusReceivedAt = receipt.receivedAt)
    (buffered : event.isBuffered = true)
    (covered : receipt.readerCoverageOk = true) (resumed : row.Resumed receipt) :
    row.observe settings event = { row with backlogDrained := true } := by
  rw [observe_resumed recorded brings current buffered resumed,withDrained,covered,resumed.1]
  simp

theorem observe_buffered_resumed (settings : Settings) (recorded : receipt.Recorded row)
    (brings : receipt.Brings event) (current : row.statusReceivedAt = receipt.receivedAt)
    (buffered : event.isBuffered = true) :
    (row.observe settings event).Resumed receipt ↔ row.Resumed receipt := by
  by_cases resumed : row.Resumed receipt
  · rw [observe_resumed recorded brings current buffered resumed]
    rfl
  · rw [observe_buffered recorded brings current buffered resumed]
    rfl

/-- With the backlog drained and the readers covered, live traffic has ended the backlog and its
status stands. -/
structure Ended (receipt : Receipt) (settings : Settings) (row : StoreConnectivity) : Prop where
  resumed : row.Resumed receipt
  drained : row.backlogDrained = true
  freshness : row.freshnessStatus = effectiveFreshness (some row) settings receipt.receivedAt

theorem observe_live_ended (recorded : receipt.Recorded row) (brings : receipt.Brings event)
    (current : row.statusReceivedAt = receipt.receivedAt) (live : event.isBuffered = false)
    (drained : receipt.backlogDrained = true) :
    (row.observe settings event).Ended receipt settings := by
  refine ⟨?_,?_,observe_live_freshness recorded brings current live⟩
  · rw [observe_live recorded brings current live]
    exact ⟨drained,row.laterLive_reached receipt⟩
  · rw [observe_live recorded brings current live]
    exact drained

theorem Ended.observe (ended : row.Ended receipt settings) (recorded : receipt.Recorded row)
    (brings : receipt.Brings event) (current : row.statusReceivedAt = receipt.receivedAt)
    (covered : receipt.readerCoverageOk = true) :
    (row.observe settings event).Ended receipt settings := by
  cases buffered : event.isBuffered with
  | false => exact observe_live_ended recorded brings current buffered ended.resumed.1
  | true =>
      have kept : row.observe settings event = row := by
        rw [observe_buffered_kept settings recorded brings current buffered covered ended.resumed,
          ← ended.drained]
      rw [kept]
      exact ended

theorem observeAll_ended (recorded : receipt.Recorded row)
    (brings : ∀ event ∈ events, receipt.Brings event)
    (current : row.statusReceivedAt = receipt.receivedAt)
    (drained : receipt.backlogDrained = true) (covered : receipt.readerCoverageOk = true)
    (start : row.Ended receipt settings ∨ ∃ event ∈ events, event.isBuffered = false) :
    (row.observeAll settings events).Ended receipt settings := by
  induction events generalizing row with
  | nil => exact start.resolve_right fun ⟨event,member,_⟩ => (by cases member)
  | cons event events ih =>
      have brought := brings event (List.mem_cons_self ..)
      obtain ⟨reached,status⟩ := observe_recorded settings recorded brought
      refine ih reached (fun other member => brings other (List.mem_cons_of_mem _ member))
        (status.trans current) ?_
      rcases start with ended | ⟨live,member,direct⟩
      · exact .inl (ended.observe recorded brought current covered)
      · rcases List.mem_cons.mp member with rfl | member
        · exact .inl (observe_live_ended recorded brought current direct drained)
        · exact .inr ⟨live,member,direct⟩

/-- Buffered events alone leave the status stale, or as it was if live traffic has resumed. -/
theorem observeAll_buffered (settings : Settings) (recorded : receipt.Recorded row)
    (brings : ∀ event ∈ events, receipt.Brings event)
    (current : row.statusReceivedAt = receipt.receivedAt)
    (buffered : ∀ event ∈ events, event.isBuffered = true) :
    ((row.observeAll settings events).Resumed receipt ↔ row.Resumed receipt) ∧
      (receipt.readerCoverageOk = true ∧ row.Resumed receipt →
        (row.observeAll settings events).freshnessStatus = row.freshnessStatus) := by
  induction events generalizing row with
  | nil => exact ⟨Iff.rfl,fun _ => rfl⟩
  | cons event events ih =>
      have brought := brings event (List.mem_cons_self ..)
      have direct := buffered event (List.mem_cons_self ..)
      obtain ⟨reached,status⟩ := observe_recorded settings recorded brought
      obtain ⟨resumed,kept⟩ := ih reached
        (fun other member => brings other (List.mem_cons_of_mem _ member)) (status.trans current)
        (fun other member => buffered other (List.mem_cons_of_mem _ member))
      have same := observe_buffered_resumed settings recorded brought current direct
      refine ⟨resumed.trans same,?_⟩
      rintro ⟨covered,already⟩
      have first := observe_buffered_kept settings recorded brought current direct
        covered already
      refine (kept ⟨covered,same.mpr already⟩).trans ?_
      rw [first]

theorem observeAll_older (recorded : receipt.Recorded row)
    (brings : ∀ event ∈ events, receipt.Brings event)
    (older : receipt.receivedAt < row.statusReceivedAt) :
    (row.observeAll settings events).freshnessStatus = row.freshnessStatus := by
  induction events generalizing row with
  | nil => rfl
  | cons event events ih =>
      have brought := brings event (List.mem_cons_self ..)
      obtain ⟨reached,status⟩ := observe_recorded settings recorded brought
      have rest := ih reached (fun other member => brings other (List.mem_cons_of_mem _ member))
        (older.trans_eq status.symm)
      refine rest.trans ?_
      rw [observe_older recorded brought older]
      cases event.isBuffered <;> rfl

theorem exists_concat_of_mem (member : event ∈ events) :
    ∃ before last, events = before ++ [last] :=
  ⟨_,_,(List.dropLast_concat_getLast (List.ne_nil_of_mem member)).symm⟩

theorem exists_perm_concat (member : event ∈ events) :
    ∃ before, events.Perm (before ++ [event]) := by
  obtain ⟨before,after,rfl⟩ := List.append_of_mem member
  exact ⟨before ++ after,List.perm_middle.trans (List.perm_append_singleton ..).symm⟩

/-- A live event of the current, drained receipt ends the backlog, wherever it stands. -/
theorem observeAll_live_backlog (recorded : receipt.Recorded row)
    (brings : ∀ event ∈ events, receipt.Brings event)
    (current : row.statusReceivedAt = receipt.receivedAt) (drained : receipt.backlogDrained = true)
    (member : event ∈ events) (live : event.isBuffered = false) :
    (row.observeAll settings events).backlogDrained = true ∧
      (row.observeAll settings events).oldestBufferedEventAt = none := by
  obtain ⟨before,perm⟩ := exists_perm_concat member
  have same : (row.observeAll settings events).unthrottled = _ :=
    observeAll_perm recorded brings perm
  have brought : ∀ other ∈ before, receipt.Brings other := fun other listed =>
    brings other (perm.mem_iff.mpr (List.mem_append_left _ listed))
  obtain ⟨reached,status⟩ := observeAll_recorded settings recorded brought
  rw [observeAll_concat,observe_live reached (brings event member) (status.trans current) live,
    drained] at same
  exact ⟨congrArg backlogDrained same,congrArg oldestBufferedEventAt same⟩

/-- With a live event the freshness is the one derived from the row, unless a buffered event comes
last without reader coverage. -/
theorem observeAll_live_freshness (recorded : receipt.Recorded row)
    (brings : ∀ event ∈ events, receipt.Brings event)
    (current : row.statusReceivedAt = receipt.receivedAt)
    (member : event ∈ events) (live : event.isBuffered = false)
    (stale : receipt.backlogDrained = true → receipt.readerCoverageOk = false →
      (∃ other ∈ events, other.isBuffered = true) →
      effectiveFreshness (some (row.observeAll settings events)) settings receipt.receivedAt =
        .stale) :
    (row.observeAll settings events).freshnessStatus =
      effectiveFreshness (some (row.observeAll settings events)) settings receipt.receivedAt := by
  obtain ⟨before,last,split⟩ := exists_concat_of_mem member
  have listed : last ∈ events := by simp [split]
  have brought : ∀ other ∈ before, receipt.Brings other := fun other there =>
    brings other (split ▸ List.mem_append_left _ there)
  obtain ⟨reached,status⟩ := observeAll_recorded settings recorded brought
  have now := status.trans current
  cases buffered : last.isBuffered with
  | false =>
      rw [split,observeAll_concat]
      exact observe_live_freshness reached (brings last listed) now buffered
  | true =>
      cases drained : receipt.backlogDrained with
      | false =>
          have waiting : ¬(row.observeAll settings before).Resumed receipt := by
            rintro ⟨ended,-⟩
            rw [drained] at ended
            cases ended
          rw [split,observeAll_concat,
            observe_buffered reached (brings last listed) now buffered waiting]
          exact (effectiveFreshness_undrained rfl).symm
      | true =>
          cases covered : receipt.readerCoverageOk with
          | true =>
              exact (observeAll_ended recorded brings current drained covered
                (.inr ⟨event,member,live⟩)).freshness
          | false =>
              rw [stale drained covered ⟨last,listed,buffered⟩,split,observeAll_concat]
              refine observe_buffered_stale reached (brings last listed) now buffered ?_
              rintro ⟨ok,-⟩
              rw [covered] at ok
              cases ok

theorem observeAll_buffered_stale (recorded : receipt.Recorded row)
    (brings : ∀ event ∈ events, receipt.Brings event)
    (current : row.statusReceivedAt = receipt.receivedAt) (member : event ∈ events)
    (buffered : ∀ event ∈ events, event.isBuffered = true)
    (open_ : ¬(receipt.readerCoverageOk = true ∧ row.Resumed receipt)) :
    (row.observeAll settings events).freshnessStatus = .stale := by
  obtain ⟨before,last,rfl⟩ := exists_concat_of_mem member
  have brought : ∀ other ∈ before, receipt.Brings other := fun other there =>
    brings other (List.mem_append_left _ there)
  obtain ⟨reached,status⟩ := observeAll_recorded settings recorded brought
  have resumed := (observeAll_buffered settings recorded brought current
    fun other there => buffered other (List.mem_append_left _ there)).1
  have listed : last ∈ before ++ [last] := by simp
  rw [observeAll_concat]
  exact observe_buffered_stale reached (brings last listed) (status.trans current)
    (buffered last listed) fun kept => open_ ⟨kept.1,resumed.mp kept.2⟩

end Freshness

section Orders

structure Evidence where
  oldestBufferedEventAt : Option Time
  backlogDrained : Bool
  lastLiveReceivedAt : Option Time
  lastLiveEventAt : Option Time
  freshnessStatus : FreshnessStatus
deriving DecidableEq

def evidence (row : StoreConnectivity) : Evidence where
  oldestBufferedEventAt := row.oldestBufferedEventAt
  backlogDrained := row.backlogDrained
  lastLiveReceivedAt := row.lastLiveReceivedAt
  lastLiveEventAt := row.lastLiveEventAt
  freshnessStatus := row.freshnessStatus

/-- Among the live times that the row would take, the newest is a flush interval after the rest. -/
def LiveSettled (row : StoreConnectivity) (settings : Settings)
    (events : List RfidObservationEvent) : Prop :=
  Settled (seconds settings.rfidLastSeenFlushSeconds) row.lastLiveEventAt (liveTimes events)

/-- Where buffered and live events meet in a current receipt that is drained but lacks reader
coverage, the live times are too old for any other status than stale. -/
def StaleWhenMixed (row : StoreConnectivity) (settings : Settings) (receipt : Receipt)
    (events : List RfidObservationEvent) : Prop :=
  row.statusReceivedAt ≤ receipt.receivedAt →
    receipt.backlogDrained = true → receipt.readerCoverageOk = false →
    (∃ event ∈ events, event.isBuffered = false) → (∃ event ∈ events, event.isBuffered = true) →
    (∀ live ∈ row.lastLiveEventAt,
      seconds settings.connectivityStaleWindowSeconds < receipt.receivedAt - live) ∧
    ∀ live ∈ liveTimes events,
      Due (seconds settings.rfidLastSeenFlushSeconds) row.lastLiveEventAt live →
      seconds settings.connectivityStaleWindowSeconds < receipt.receivedAt - live

theorem flush_pos (settings : Settings) : 0 < seconds settings.rfidLastSeenFlushSeconds :=
  seconds_pos (Nat.zero_lt_of_lt settings.lastSeenFlushInRange.1)

/-- A settled row ends with the newest due time, so its age is that of the row's and the due
times. -/
theorem observeAll_stale_iff (recorded : receipt.Recorded row)
    (brings : ∀ event ∈ events, receipt.Brings event) (settled : row.LiveSettled settings events) :
    (∀ live ∈ (row.observeAll settings events).lastLiveEventAt,
      seconds settings.connectivityStaleWindowSeconds < receipt.receivedAt - live) ↔
    (∀ live ∈ row.lastLiveEventAt,
      seconds settings.connectivityStaleWindowSeconds < receipt.receivedAt - live) ∧
    ∀ live ∈ liveTimes events,
      Due (seconds settings.rfidLastSeenFlushSeconds) row.lastLiveEventAt live →
      seconds settings.connectivityStaleWindowSeconds < receipt.receivedAt - live := by
  rw [observeAll_lastLive recorded brings]
  have reached := Throttle.foldl_refresh_settled (flush_pos settings) settled
  rcases reached with ⟨newest,member,due,above,last⟩ | ⟨idle,kept⟩
  · rw [last]
    constructor
    · intro old
      have age := old newest rfl
      refine ⟨?_,?_⟩
      · intro live held
        have later := due live held
        have flush := flush_pos settings
        have before : live ≤ newest := sub_nonneg.mp (flush.le.trans later)
        exact age.trans_le (sub_le_sub_left before _)
      · intro live listed liveDue
        exact age.trans_le (sub_le_sub_left (above live listed liveDue) _)
    · rintro ⟨-,old⟩ live held
      cases held
      exact old newest member due
  · rw [kept]
    exact ⟨fun old => ⟨old,fun live listed due => absurd due (idle live listed)⟩,fun old => old.1⟩

/-- Which live event of two comes first decides between them, unless they are apart. -/
theorem liveSettled_of_perm (recorded : receipt.Recorded row)
    (brings : ∀ event ∈ events, receipt.Brings event)
    (same : ∀ arranged, arranged.Perm events →
      (row.observeAll settings arranged).lastLiveEventAt =
        (row.observeAll settings events).lastLiveEventAt) : row.LiveSettled settings events := by
  intro newest member due above time listed timeDue
  by_contra close
  obtain ⟨different,near⟩ := not_or.mp close
  have first (earlier : Time) (stands : earlier ∈ liveTimes events)
      (earlierDue : Due (seconds settings.rfidLastSeenFlushSeconds) row.lastLiveEventAt earlier)
      (reach : newest < earlier + seconds settings.rfidLastSeenFlushSeconds) :
      (row.observeAll settings events).lastLiveEventAt = some earlier := by
    obtain ⟨event,there,direct,rfl⟩ := mem_liveTimes.mp stands
    obtain ⟨before,after,rfl⟩ := List.append_of_mem there
    have perm : (event :: (before ++ after)).Perm (before ++ event :: after) :=
      List.perm_middle.symm
    rw [← same _ perm,observeAll_lastLive recorded fun other other_mem =>
      brings other (perm.mem_iff.mp other_mem)]
    have times : liveTimes (event :: (before ++ after)) =
        event.observedAt :: liveTimes (before ++ after) := by
      simp [liveTimes,direct]
    rw [times]
    refine Throttle.foldl_refresh_first earlierDue ?_ (flush_pos settings)
    intro later place next
    have known : later ∈ liveTimes (before ++ event :: after) := by
      obtain ⟨other,other_mem,other_live,other_time⟩ := mem_liveTimes.mp place
      exact mem_liveTimes.mpr
        ⟨other,perm.mem_iff.mp (List.mem_cons_of_mem _ other_mem),other_live,other_time⟩
    exact (above later known next).trans_lt reach
  have one := first time listed timeDue (not_le.mp near)
  have other := first newest member due (lt_add_of_pos_right _ (flush_pos settings))
  exact different (Option.some.inj (one.symm.trans other))

/-- A row with the live time and the freshness in agreement shows the same evidence. -/
theorem evidence_eq {other : StoreConnectivity} : row.evidence = other.evidence ↔
    (row.oldestBufferedEventAt = other.oldestBufferedEventAt ∧
      row.backlogDrained = other.backlogDrained ∧
      row.lastLiveReceivedAt = other.lastLiveReceivedAt) ∧
    row.lastLiveEventAt = other.lastLiveEventAt ∧ row.freshnessStatus = other.freshnessStatus := by
  simp only [evidence,Evidence.mk.injEq,and_assoc]

/-- If live times and freshness are settled, every order leaves the same freshness. -/
theorem observeAll_freshness_perm (recorded : receipt.Recorded row)
    (brings : ∀ event ∈ events, receipt.Brings event) (perm : arranged.Perm events)
    (settled : row.LiveSettled settings events)
    (same : (row.observeAll settings arranged).lastLiveEventAt =
      (row.observeAll settings events).lastLiveEventAt)
    (stale : row.StaleWhenMixed settings receipt events) :
    (row.observeAll settings arranged).freshnessStatus =
      (row.observeAll settings events).freshnessStatus := by
  have brought : ∀ event ∈ arranged, receipt.Brings event :=
    fun event member => brings event (perm.mem_iff.mp member)
  have rest : (row.observeAll settings arranged).unthrottled =
    (row.observeAll settings events).unthrottled := observeAll_perm recorded brought perm
  have derived : effectiveFreshness (some (row.observeAll settings arranged)) settings
      receipt.receivedAt = effectiveFreshness (some (row.observeAll settings events)) settings
      receipt.receivedAt := effectiveFreshness_congr rest same
  rcases recorded.status.eq_or_lt with current | older
  · by_cases live : ∃ event ∈ events, event.isBuffered = false
    · obtain ⟨event,member,direct⟩ := live
      have old : receipt.backlogDrained = true → receipt.readerCoverageOk = false →
          (∃ other ∈ events, other.isBuffered = true) →
          effectiveFreshness (some (row.observeAll settings events)) settings
            receipt.receivedAt = .stale := by
        intro drained uncovered mixed
        obtain ⟨reached,status⟩ := observeAll_recorded settings recorded brings
        obtain ⟨ended,closed⟩ : (row.observeAll settings events).backlogDrained = true ∧ _ :=
          observeAll_live_backlog recorded brings current.symm drained member direct
        have flag := (reached.coverage (status.trans current.symm)).trans uncovered
        apply (effectiveFreshness_uncovered reached.heard ended closed flag).mpr
        apply (observeAll_stale_iff recorded brings settled).mpr
        exact stale current.symm.le drained uncovered ⟨event,member,direct⟩ mixed
      have arrangedOld : receipt.backlogDrained = true → receipt.readerCoverageOk = false →
          (∃ other ∈ arranged, other.isBuffered = true) →
          effectiveFreshness (some (row.observeAll settings arranged)) settings
            receipt.receivedAt = .stale := by
        rintro drained uncovered ⟨other,listed,buffered⟩
        rw [derived]
        exact old drained uncovered ⟨other,perm.mem_iff.mp listed,buffered⟩
      rw [observeAll_live_freshness recorded brought current.symm (perm.mem_iff.mpr member) direct
          arrangedOld,
        observeAll_live_freshness recorded brings current.symm member direct old,derived]
    · have buffered : ∀ event ∈ events, event.isBuffered = true := fun event member =>
        Bool.of_not_eq_false fun direct => live ⟨event,member,direct⟩
      have arrangedBuffered : ∀ event ∈ arranged, event.isBuffered = true :=
        fun event member => buffered event (perm.mem_iff.mp member)
      by_cases kept : receipt.readerCoverageOk = true ∧ row.Resumed receipt
      · rw [(observeAll_buffered settings recorded brought current.symm arrangedBuffered).2 kept,
          (observeAll_buffered settings recorded brings current.symm buffered).2 kept]
      · cases events with
        | nil =>
            rw [List.perm_nil.mp perm]
        | cons event events =>
            have listed : event ∈ event :: events := List.mem_cons_self ..
            rw [observeAll_buffered_stale recorded brought current.symm (perm.mem_iff.mpr listed)
                arrangedBuffered kept,
              observeAll_buffered_stale recorded brings current.symm listed buffered kept]
  · rw [observeAll_older recorded brought older,observeAll_older recorded brings older]

/-- Orders that end with a live and with a buffered event agree only on stale. -/
theorem staleWhenMixed_of_perm (recorded : receipt.Recorded row)
    (brings : ∀ event ∈ events, receipt.Brings event)
    (settled : row.LiveSettled settings events)
    (same : ∀ arranged, arranged.Perm events →
      (row.observeAll settings arranged).lastLiveEventAt =
          (row.observeAll settings events).lastLiveEventAt ∧
        (row.observeAll settings arranged).freshnessStatus =
          (row.observeAll settings events).freshnessStatus) :
    row.StaleWhenMixed settings receipt events := by
  rintro atMost drained uncovered ⟨live,member,direct⟩ ⟨buffer,listed,buffered⟩
  have current : row.statusReceivedAt = receipt.receivedAt := le_antisymm atMost recorded.status
  apply (observeAll_stale_iff recorded brings settled).mp
  obtain ⟨beforeLive,livePerm⟩ := exists_perm_concat member
  obtain ⟨beforeBuffer,bufferPerm⟩ := exists_perm_concat listed
  have liveBrings : ∀ event ∈ beforeLive, receipt.Brings event := fun event there =>
    brings event (livePerm.mem_iff.mpr (List.mem_append_left _ there))
  have bufferBrings : ∀ event ∈ beforeBuffer, receipt.Brings event := fun event there =>
    brings event (bufferPerm.mem_iff.mpr (List.mem_append_left _ there))
  obtain ⟨liveReached,liveStatus⟩ := observeAll_recorded settings recorded liveBrings
  obtain ⟨bufferReached,bufferStatus⟩ := observeAll_recorded settings recorded bufferBrings
  have status : (row.observeAll settings events).freshnessStatus = .stale := by
    rw [← (same _ bufferPerm.symm).2,observeAll_concat]
    refine observe_buffered_stale bufferReached (brings buffer listed) (bufferStatus.trans current)
      buffered ?_
    rintro ⟨ok,-⟩
    rw [uncovered] at ok
    cases ok
  have derived : effectiveFreshness (some (row.observeAll settings (beforeLive ++ [live])))
      settings receipt.receivedAt = .stale := by
    rw [← status,← (same _ livePerm.symm).2,observeAll_concat]
    exact (observe_live_freshness liveReached (brings live member) (liveStatus.trans current)
      direct).symm
  have liveAll : ∀ event ∈ beforeLive ++ [live], receipt.Brings event :=
    fun event there => brings event (livePerm.mem_iff.mpr there)
  obtain ⟨reached,now⟩ := observeAll_recorded settings recorded liveAll
  obtain ⟨ended,closed⟩ :
      (row.observeAll settings (beforeLive ++ [live])).backlogDrained = true ∧ _ :=
    observeAll_live_backlog recorded liveAll current drained (livePerm.mem_iff.mp member) direct
  have flag := (reached.coverage (now.trans current)).trans uncovered
  rw [← (same _ livePerm.symm).1]
  exact (effectiveFreshness_uncovered reached.heard ended closed flag).mp derived

/-- All orders leave the same evidence exactly if the live times and the freshness are settled. -/
theorem observeAll_evidence_iff (settings : Settings) (recorded : receipt.Recorded row)
    (brings : ∀ event ∈ events, receipt.Brings event) :
    (∀ arranged, arranged.Perm events →
      (row.observeAll settings arranged).evidence = (row.observeAll settings events).evidence) ↔
    row.LiveSettled settings events ∧ row.StaleWhenMixed settings receipt events := by
  constructor
  · intro same
    have settled : row.LiveSettled settings events := liveSettled_of_perm recorded brings
      fun arranged perm => (evidence_eq.mp (same arranged perm)).2.1
    exact ⟨settled,staleWhenMixed_of_perm recorded brings settled
      fun arranged perm => (evidence_eq.mp (same arranged perm)).2⟩
  · rintro ⟨settled,stale⟩ arranged perm
    have brought : ∀ event ∈ arranged, receipt.Brings event :=
      fun event member => brings event (perm.mem_iff.mp member)
    have live : (row.observeAll settings arranged).lastLiveEventAt =
        (row.observeAll settings events).lastLiveEventAt := by
      rw [observeAll_lastLive recorded brought,observeAll_lastLive recorded brings]
      exact Throttle.foldl_refresh_perm (flush_pos settings) settled ((perm.filter _).map _)
    have rest : (row.observeAll settings arranged).unthrottled =
      (row.observeAll settings events).unthrottled := observeAll_perm recorded brought perm
    refine evidence_eq.mpr ⟨⟨?_,?_,?_⟩,live,?_⟩
    · have oldest := congrArg oldestBufferedEventAt rest
      exact oldest
    · have drained := congrArg backlogDrained rest
      exact drained
    · have received := congrArg lastLiveReceivedAt rest
      exact received
    · exact observeAll_freshness_perm recorded brings perm settled live stale

end Orders

end StoreConnectivity

section Runs

namespace Receipt

variable {receipt : Receipt} {settings : Settings} {events : List RfidObservationEvent}

def request (receipt : Receipt) : ConnectivityRequest :=
  .receipt receipt.storeId receipt.receivedAt receipt.backlogDrained receipt.readerCoverageOk

def prior (receipt : Receipt) (connectivity : Connectivity) : StoreConnectivity :=
  (connectivity.find? receipt.storeId).getD receipt.request.first

theorem record_lastLive (receipt : Receipt) (row : StoreConnectivity) :
    (receipt.record row).lastLiveEventAt = row.lastLiveEventAt := by
  unfold record StoreConnectivity.recordReceipt StoreConnectivity.heard StoreConnectivity.withStatus
  split_ifs <;> rfl

theorem record_current (receipt : Receipt) (row : StoreConnectivity) :
    (receipt.record row).statusReceivedAt ≤ receipt.receivedAt ↔
      row.statusReceivedAt ≤ receipt.receivedAt := by
  rcases lt_or_ge receipt.receivedAt row.statusReceivedAt with older | current
  · rw [record,StoreConnectivity.recordReceipt_older older,StoreConnectivity.heard_status]
  · rw [record,StoreConnectivity.recordReceipt_current current]
    exact iff_of_true le_rfl current

theorem record_liveSettled (row : StoreConnectivity) :
    (receipt.record row).LiveSettled settings events ↔ row.LiveSettled settings events := by
  unfold StoreConnectivity.LiveSettled
  rw [record_lastLive]

theorem record_staleWhenMixed (row : StoreConnectivity) :
    (receipt.record row).StaleWhenMixed settings receipt events ↔
      row.StaleWhenMixed settings receipt events := by
  unfold StoreConnectivity.StaleWhenMixed
  rw [record_lastLive,record_current]

end Receipt

variable {stores : Table Store.id} {settings : Settings} {connectivity : Connectivity}
  {receipt : Receipt} {row : StoreConnectivity} {event : RfidObservationEvent}
  {events : List RfidObservationEvent}

theorem exists_updateConnectivity (found : connectivity.find? event.storeId = some row) :
    ∃ after, updateConnectivity stores connectivity event settings = .ok after := by
  unfold updateConnectivity lockStoreConnectivityForReceipt
  simp only [found,bind,Except.bind]
  exact ⟨_,rfl⟩

/-- The events of a store that has a row are all handled, and leave the row that they lead to. -/
theorem Connectivity.run_observations (stores : Table Store.id) (settings : Settings)
    {storeId : Uuid} (found : connectivity.find? storeId = some row)
    (all : ∀ event ∈ events, event.storeId = storeId) :
    ∃ after, connectivity.run stores settings (events.map .observation) = .ok after ∧
      after.find? storeId = some (row.observeAll settings events) := by
  induction events generalizing connectivity row with
  | nil => exact ⟨connectivity,rfl,found⟩
  | cons event events ih =>
      have store := all event (List.mem_cons_self ..)
      subst store
      obtain ⟨middle,updated⟩ : ∃ middle, updateConnectivity stores connectivity event settings =
        .ok middle := exists_updateConnectivity found
      have stored := find?_updateConnectivity updated event.storeId
      rw [if_pos rfl,found] at stored
      obtain ⟨after,ran,last⟩ :=
        ih stored fun other member => all other (List.mem_cons_of_mem _ member)
      refine ⟨after,?_,last⟩
      rw [Connectivity.run,List.map_cons,List.foldlM_cons]
      exact bind_eq_ok.mpr ⟨middle,updated,ran⟩

/-- After the receipt was recorded, all orders of its events leave the same evidence exactly if the
live times are settled and mixed events are stale. -/
theorem same_receipt_order_iff {recorded : Connectivity}
    (locked : receipt.request.apply stores settings connectivity = .ok recorded)
    (brings : ∀ event ∈ events, receipt.Brings event) :
    (∀ arranged : List RfidObservationEvent, arranged.Perm events → ∃ first second,
      recorded.run stores settings (arranged.map .observation) = .ok first ∧
      recorded.run stores settings (events.map .observation) = .ok second ∧
      (first.find? receipt.storeId).map StoreConnectivity.evidence =
        (second.find? receipt.storeId).map StoreConnectivity.evidence) ↔
    (receipt.prior connectivity).LiveSettled settings events ∧
      (receipt.prior connectivity).StaleWhenMixed settings receipt events := by
  have found :
      recorded.find? receipt.storeId = some (receipt.record (receipt.prior connectivity)) := by
    have stored := receipt.request.find?_apply locked receipt.storeId
    rw [if_pos (by rfl)] at stored
    exact stored
  have heard := StoreConnectivity.record_recorded receipt (receipt.prior connectivity)
  have evidences := StoreConnectivity.observeAll_evidence_iff settings heard brings
  rw [Receipt.record_liveSettled,Receipt.record_staleWhenMixed] at evidences
  rw [← evidences]
  have ran (arranged : List RfidObservationEvent) (perm : arranged.Perm events) :=
    Connectivity.run_observations stores settings found
      fun event (member : event ∈ arranged) => (brings event (perm.mem_iff.mp member)).storeId
  constructor
  · intro same arranged perm
    obtain ⟨first,second,firstRan,secondRan,equal⟩ := same arranged perm
    obtain ⟨after,afterRan,last⟩ := ran arranged perm
    obtain ⟨other,otherRan,otherLast⟩ := ran events (List.Perm.refl _)
    rw [Except.ok.inj (firstRan.symm.trans afterRan),Except.ok.inj (secondRan.symm.trans otherRan),
      last,otherLast] at equal
    exact Option.some.inj equal
  · intro same arranged perm
    obtain ⟨first,firstRan,firstLast⟩ := ran arranged perm
    obtain ⟨second,secondRan,secondLast⟩ := ran events (List.Perm.refl _)
    refine ⟨first,second,firstRan,secondRan,?_⟩
    rw [firstLast,secondLast]
    exact congrArg some (same arranged perm)

end Runs

namespace Sample

def drainedReceipt : Receipt := ⟨storeId,seconds 40,true,true⟩

def liveRead (eventId : EventId) (observedAt : Time) : RfidObservationEvent :=
  { read floorReader floorId eventId observedAt 3 with receivedAt := drainedReceipt.receivedAt }

/-- Two live reads of one receipt, twenty seconds apart. -/
def nearReads : List RfidObservationEvent :=
  [liveRead "early" (seconds 10),liveRead "late" (seconds 30)]

def apartReads : List RfidObservationEvent :=
  [liveRead "early" (seconds 10),liveRead "late" (seconds 40)]

theorem liveRead_brings (eventId : EventId) (observedAt : Time) :
    drainedReceipt.Brings (liveRead eventId observedAt) :=
  ⟨rfl,rfl,rfl,rfl⟩

theorem apartReads_brings : ∀ event ∈ apartReads, drainedReceipt.Brings event := by
  intro event member
  obtain rfl | rfl := List.mem_pair.mp member
  · exact liveRead_brings ..
  · exact liveRead_brings ..

theorem apartReads_settled :
    (drainedReceipt.prior noConnectivity).LiveSettled settings apartReads := by
  have times : StoreConnectivity.liveTimes apartReads = [seconds 10,seconds 40] := by
    decide +kernel
  have unheard : (drainedReceipt.prior noConnectivity).lastLiveEventAt = none := rfl
  intro newest member due above time listed timeDue
  rw [times,List.mem_pair] at member listed
  have late : seconds 40 ≤ newest := by
    refine above _ (by simp [times]) ?_
    rw [unheard]
    exact fun previous held => (by cases held)
  obtain rfl | rfl := member
  · exact absurd late (by decide)
  · obtain rfl | rfl := listed
    · exact .inr (by decide)
    · exact .inl rfl

theorem drainedReceipt_recorded : ∃ recorded,
    drainedReceipt.request.apply registry.stores settings noConnectivity = .ok recorded := by
  obtain ⟨recorded,locked,-⟩ : ∃ recorded,
      drainedReceipt.request.apply registry.stores settings noConnectivity = .ok recorded ∧
        (recorded.find? storeId).isSome = true := exists_of_any (by decide +kernel)
  exact ⟨recorded,locked⟩

def evidenceAfter (events : List RfidObservationEvent) :
    Attempt (Option StoreConnectivity.Evidence) := do
  let recorded ← drainedReceipt.request.apply registry.stores settings noConnectivity
  let after ← recorded.run registry.stores settings (events.map .observation)
  return (after.find? drainedReceipt.storeId).map StoreConnectivity.evidence

end Sample

/-- The read that comes first within the flush interval stays the live time. -/
theorem same_receipt_depends_on_order :
    Sample.nearReads.reverse.Perm Sample.nearReads ∧
      (∃ evidence, Sample.evidenceAfter Sample.nearReads = .ok (some evidence) ∧
        evidence.lastLiveEventAt = some (seconds 10)) ∧
      ∃ evidence, Sample.evidenceAfter Sample.nearReads.reverse = .ok (some evidence) ∧
        evidence.lastLiveEventAt = some (seconds 30) := by
  refine ⟨List.reverse_perm _,?_,?_⟩
  · exact ⟨⟨none,true,some (seconds 40),some (seconds 10),.live⟩,by decide +kernel,rfl⟩
  · exact ⟨⟨none,true,some (seconds 40),some (seconds 30),.live⟩,by decide +kernel,rfl⟩

/-- Reads a flush interval apart leave the same evidence in both orders. -/
theorem same_receipt_order_iff_sample : ∃ recorded : Connectivity,
    ∀ arranged : List RfidObservationEvent, arranged.Perm Sample.apartReads → ∃ first second,
      recorded.run Sample.registry.stores Sample.settings (arranged.map .observation) = .ok first ∧
      recorded.run Sample.registry.stores Sample.settings (Sample.apartReads.map .observation) =
        .ok second ∧
      (first.find? Sample.drainedReceipt.storeId).map StoreConnectivity.evidence =
        (second.find? Sample.drainedReceipt.storeId).map StoreConnectivity.evidence := by
  obtain ⟨recorded,locked⟩ := Sample.drainedReceipt_recorded
  refine ⟨recorded,(same_receipt_order_iff locked Sample.apartReads_brings).mpr
    ⟨Sample.apartReads_settled,?_⟩⟩
  intro _ _ uncovered
  exact absurd uncovered (by decide)

end Abacus
