import Abacus.Connectivity.Receipts
import Abacus.Library.Throttle

/-! What the events of one receipt do to the row of their store.
In any order they leave the same backlog, flags and live receipt; only the throttled live time and
the freshness can differ.
-/
set_option autoImplicit false

namespace Abacus

open Relational (Table)

theorem seconds_pos {count : ℕ} (positive : 0 < count) : 0 < seconds count :=
  Int.mul_pos (Int.natCast_pos.mpr positive) (by decide)

structure Receipt where
  storeId : Uuid
  receivedAt : Time
  backlogDrained : Bool
  readerCoverageOk : Bool

namespace Receipt

structure Brings (receipt : Receipt) (event : RfidObservationEvent) : Prop where
  storeId : event.storeId = receipt.storeId
  receivedAt : event.receivedAt = receipt.receivedAt
  backlogDrained : event.backlogDrained = receipt.backlogDrained
  readerCoverageOk : event.readerCoverageOk = receipt.readerCoverageOk

def record (receipt : Receipt) (row : StoreConnectivity) : StoreConnectivity :=
  (row.recordReceipt receipt.receivedAt receipt.backlogDrained receipt.readerCoverageOk).1

/-- The row has heard the receipt, and carries its coverage unless it is an older one. -/
structure Recorded (receipt : Receipt) (row : StoreConnectivity) : Prop where
  heard : row.heard receipt.receivedAt = row
  status : receipt.receivedAt ≤ row.statusReceivedAt
  coverage : row.statusReceivedAt = receipt.receivedAt →
    row.readerCoverageOk = receipt.readerCoverageOk

end Receipt

namespace StoreConnectivity

variable {settings : Settings} {receipt : Receipt} {row : StoreConnectivity}
  {event first second : RfidObservationEvent} {events arranged : List RfidObservationEvent}

def observe (settings : Settings) (row : StoreConnectivity) (event : RfidObservationEvent) :
    StoreConnectivity :=
  (ConnectivityRequest.observation event).change settings row

section Steps

theorem heard_of_heartbeat {receivedAt heartbeat : Time}
    (met : row.gatewayLastHeartbeat = some heartbeat) (later : receivedAt ≤ heartbeat) :
    row.heard receivedAt = row := by
  unfold heard
  rw [met,if_neg (by simpa using later)]

/-- Once the heartbeat has been heard, it is a heartbeat of the receipt or a later one. -/
theorem heard_eq_self {receivedAt : Time} : row.heard receivedAt = row ↔
    ∃ heartbeat, row.gatewayLastHeartbeat = some heartbeat ∧ receivedAt ≤ heartbeat := by
  constructor
  · intro kept
    by_cases earlier : row.gatewayLastHeartbeat.all fun heartbeat => decide (heartbeat < receivedAt)
    · have moved : (row.heard receivedAt).gatewayLastHeartbeat = some receivedAt := by
        rw [heard,if_pos earlier]
      rw [kept] at moved
      exact ⟨receivedAt,moved,le_rfl⟩
    · cases met : row.gatewayLastHeartbeat with
      | none => simp [met] at earlier
      | some heartbeat => exact ⟨heartbeat,rfl,by simpa [met] using earlier⟩
  · rintro ⟨heartbeat,met,later⟩
    exact heard_of_heartbeat met later

theorem heard_heard (row : StoreConnectivity) (receivedAt : Time) :
    (row.heard receivedAt).heard receivedAt = row.heard receivedAt := by
  by_cases earlier : row.gatewayLastHeartbeat.all fun heartbeat => decide (heartbeat < receivedAt)
  · have moved : (row.heard receivedAt).gatewayLastHeartbeat = some receivedAt := by
      rw [heard,if_pos earlier]
    exact heard_of_heartbeat moved le_rfl
  · have kept : row.heard receivedAt = row := if_neg earlier
    rw [kept,kept]

theorem record_recorded (receipt : Receipt) (row : StoreConnectivity) :
    receipt.Recorded (receipt.record row) := by
  have heard := heard_eq_self.mp (row.heard_heard receipt.receivedAt)
  rcases lt_or_ge receipt.receivedAt row.statusReceivedAt with older | current
  · rw [Receipt.record,recordReceipt_older older]
    refine ⟨heard_eq_self.mpr heard,?_,?_⟩
    · rw [heard_status]
      exact older.le
    · intro same
      rw [heard_status] at same
      exact absurd same older.ne'
  · rw [Receipt.record,recordReceipt_current current]
    exact ⟨heard_eq_self.mpr heard,le_rfl,fun _ => rfl⟩

/-- The flags that every event of the current receipt brings again. -/
def withDrained (row : StoreConnectivity) (receipt : Receipt) : StoreConnectivity :=
  { row with
    backlogDrained := receipt.backlogDrained
    freshnessStatus :=
      if !receipt.backlogDrained || !receipt.readerCoverageOk then .stale else row.freshnessStatus }

/-- An event of the current receipt finds the row as the receipt left it, but for the evidence. -/
theorem observe_current (recorded : receipt.Recorded row) (brings : receipt.Brings event)
    (current : row.statusReceivedAt = receipt.receivedAt) :
    row.observe settings event =
      (row.withDrained receipt).applyObservation event settings true := by
  have again : row.recordReceipt event.receivedAt event.backlogDrained event.readerCoverageOk =
      (row.withDrained receipt,true) := by
    rw [recordReceipt_current (current.trans brings.receivedAt.symm).le,brings.receivedAt,
      recorded.heard,brings.backlogDrained,brings.readerCoverageOk,withStatus,withDrained,
      ← current,← recorded.coverage current]
  unfold observe ConnectivityRequest.change
  dsimp only
  rw [again]

/-- An event of an older receipt only touches the live times. -/
theorem observe_older (recorded : receipt.Recorded row) (brings : receipt.Brings event)
    (older : receipt.receivedAt < row.statusReceivedAt) :
    row.observe settings event =
      if event.isBuffered then row else row.applyLive event settings := by
  have again : row.recordReceipt event.receivedAt event.backlogDrained event.readerCoverageOk =
      (row,false) := by
    rw [recordReceipt_older (brings.receivedAt.trans_lt older),brings.receivedAt,recorded.heard]
  unfold observe ConnectivityRequest.change
  dsimp only
  rw [again]
  rfl

/-- The row without the throttled live time and the freshness that depends on it. -/
def unthrottled (row : StoreConnectivity) : StoreConnectivity :=
  { row with lastLiveEventAt := none, freshnessStatus := .stale }

def laterLive (row : StoreConnectivity) (receivedAt : Time) : Option Time :=
  if row.lastLiveReceivedAt.all fun received => decide (received < receivedAt) then some receivedAt
  else row.lastLiveReceivedAt

def olderBuffered (oldest : Option Time) (observedAt : Time) : Option Time :=
  if oldest.all fun oldest => decide (observedAt < oldest) then some observedAt else oldest

/-- Live traffic of the receipt, or of a later one, has ended the backlog. -/
def Resumed (receipt : Receipt) (row : StoreConnectivity) : Prop :=
  receipt.backlogDrained = true ∧ ∃ received ∈ row.lastLiveReceivedAt, receipt.receivedAt ≤ received

theorem liveHasResumed_iff (brings : receipt.Brings event) :
    (row.withDrained receipt).liveHasResumed event = true ↔ row.Resumed receipt := by
  rw [liveHasResumed,brings.backlogDrained,brings.receivedAt,Resumed,Bool.and_eq_true,
    Option.any_eq_true]
  simp [withDrained]

theorem laterLive_reached (row : StoreConnectivity) (receipt : Receipt) :
    ∃ received ∈ row.laterLive receipt.receivedAt, receipt.receivedAt ≤ received := by
  unfold laterLive
  split
  · exact ⟨receipt.receivedAt,rfl,le_rfl⟩
  · rename_i later
    cases held : row.lastLiveReceivedAt with
    | none => simp [held] at later
    | some received => exact ⟨received,rfl,by simpa [held] using later⟩

variable (recorded : receipt.Recorded row) (brings : receipt.Brings event)
  (current : row.statusReceivedAt = receipt.receivedAt)

include recorded brings current

theorem observe_resumed (buffered : event.isBuffered = true) (resumed : row.Resumed receipt) :
    row.observe settings event = row.withDrained receipt := by
  rw [observe_current recorded brings current,applyObservation,if_pos buffered,if_pos rfl,
    applyBuffered,if_pos ((liveHasResumed_iff brings).mpr resumed)]

theorem observe_buffered (buffered : event.isBuffered = true) (waiting : ¬row.Resumed receipt) :
    row.observe settings event =
      { row with
        oldestBufferedEventAt := olderBuffered row.oldestBufferedEventAt event.observedAt
        backlogDrained := false
        freshnessStatus := .stale } := by
  rw [observe_current recorded brings current,applyObservation,if_pos buffered,if_pos rfl,
    applyBuffered,if_neg (mt (liveHasResumed_iff brings).mp waiting)]
  rfl

theorem observe_live (live : event.isBuffered = false) :
    row.observe settings event =
      { row with
        backlogDrained := receipt.backlogDrained
        lastLiveReceivedAt := row.laterLive receipt.receivedAt
        lastLiveEventAt := Throttle.refresh (seconds settings.rfidLastSeenFlushSeconds)
          row.lastLiveEventAt event.observedAt
        oldestBufferedEventAt := if receipt.backlogDrained then none else row.oldestBufferedEventAt
        freshnessStatus := effectiveFreshness (some (row.observe settings event)) settings
          receipt.receivedAt } := by
  have met : row.observe settings event = ((row.withDrained receipt).applyLive event
      settings).refreshLive event settings := by
    rw [observe_current recorded brings current,applyObservation,if_neg (by rw [live]; decide),
      if_pos rfl]
  rw [met,refreshLive,brings.backlogDrained,brings.receivedAt,applyLive,brings.receivedAt]
  rfl

omit recorded brings current in
theorem observe_recorded (settings : Settings) (recorded : receipt.Recorded row)
    (brings : receipt.Brings event) :
    receipt.Recorded (row.observe settings event) ∧
      (row.observe settings event).statusReceivedAt = row.statusReceivedAt := by
  rcases recorded.status.eq_or_lt with current | older
  · obtain ⟨heartbeat,met,later⟩ := heard_eq_self.mp recorded.heard
    have kept : (row.observe settings event).gatewayLastHeartbeat = row.gatewayLastHeartbeat ∧
        (row.observe settings event).statusReceivedAt = row.statusReceivedAt ∧
        (row.observe settings event).readerCoverageOk = row.readerCoverageOk := by
      rw [observe_current recorded brings current.symm]
      unfold applyObservation applyBuffered refreshLive applyLive withDrained
      split_ifs <;> exact ⟨rfl,rfl,rfl⟩
    obtain ⟨heartbeats,status,coverage⟩ := kept
    refine ⟨⟨heard_eq_self.mpr ⟨heartbeat,heartbeats.trans met,later⟩,?_,?_⟩,status⟩
    · rw [status]
      exact recorded.status
    · intro same
      rw [coverage]
      exact recorded.coverage (status.symm.trans same)
  · rw [observe_older recorded brings older]
    split
    · exact ⟨recorded,rfl⟩
    · obtain ⟨heartbeat,met,later⟩ := heard_eq_self.mp recorded.heard
      exact ⟨⟨heard_eq_self.mpr ⟨heartbeat,met,later⟩,older.le,recorded.coverage⟩,rfl⟩

end Steps

section Swaps

theorem olderBuffered_some (oldest : Option Time) (observedAt : Time) :
    olderBuffered oldest observedAt =
      some (oldest.elim observedAt fun oldest => min oldest observedAt) := by
  cases oldest with
  | none => rfl
  | some oldest =>
      rcases lt_or_ge observedAt oldest with older | younger
      · simp [olderBuffered,older,older.le]
      · simp [olderBuffered,not_lt.mpr younger,younger]

theorem olderBuffered_comm (oldest : Option Time) (first second : Time) :
    olderBuffered (olderBuffered oldest first) second =
      olderBuffered (olderBuffered oldest second) first := by
  rw [olderBuffered_some oldest first,olderBuffered_some oldest second,olderBuffered_some,
    olderBuffered_some]
  cases oldest with
  | none => exact congrArg some (min_comm first second)
  | some oldest => exact congrArg some (min_right_comm oldest first second)

theorem unthrottled_eq {other : StoreConnectivity} (same : row.unthrottled = other.unthrottled) :
    row = { other with
      lastLiveEventAt := row.lastLiveEventAt, freshnessStatus := row.freshnessStatus } := by
  cases row
  cases other
  injection same
  subst_vars
  rfl

/-- What remains does not depend on the throttled time or on the freshness. -/
theorem observe_unthrottled (settings : Settings) (recorded : receipt.Recorded row)
    (brings : receipt.Brings event) (live : Option Time) (status : FreshnessStatus) :
    ({ row with lastLiveEventAt := live, freshnessStatus := status }.observe settings
      event).unthrottled = (row.observe settings event).unthrottled := by
  have again : receipt.Recorded
      { row with lastLiveEventAt := live, freshnessStatus := status } := by
    obtain ⟨heartbeat,met,later⟩ := heard_eq_self.mp recorded.heard
    exact ⟨heard_eq_self.mpr ⟨heartbeat,met,later⟩,recorded.status,recorded.coverage⟩
  rcases recorded.status.eq_or_lt with current | older
  · cases buffered : event.isBuffered with
    | false =>
        rw [observe_live again brings current.symm buffered,
          observe_live recorded brings current.symm buffered]
        rfl
    | true =>
        by_cases resumed : row.Resumed receipt
        · rw [observe_resumed again brings current.symm buffered resumed,
            observe_resumed recorded brings current.symm buffered resumed]
          rfl
        · rw [observe_buffered again brings current.symm buffered resumed,
            observe_buffered recorded brings current.symm buffered resumed]
          rfl
  · rw [observe_older again brings older,observe_older recorded brings older]
    split <;> rfl

/-- A live event and a buffered one, in either order, leave the backlog ended or open. -/
theorem observe_live_buffered (recorded : receipt.Recorded row) (brings : receipt.Brings first)
    (also : receipt.Brings second) (current : row.statusReceivedAt = receipt.receivedAt)
    (live : first.isBuffered = false) (buffered : second.isBuffered = true) :
    ((row.observe settings first).observe settings second).unthrottled =
      ((row.observe settings second).observe settings first).unthrottled := by
  obtain ⟨afterFirst,statusFirst⟩ := observe_recorded settings recorded brings
  obtain ⟨afterSecond,statusSecond⟩ := observe_recorded settings recorded also
  have firstCurrent := statusFirst.trans current
  rw [observe_live afterSecond brings (statusSecond.trans current) live]
  have reached : (row.observe settings first).lastLiveReceivedAt =
      row.laterLive receipt.receivedAt := by
    rw [observe_live recorded brings current live]
  cases drained : receipt.backlogDrained with
  | true =>
      have resumed : (row.observe settings first).Resumed receipt := by
        refine ⟨drained,?_⟩
        rw [reached]
        exact row.laterLive_reached receipt
      rw [observe_resumed afterFirst also firstCurrent buffered resumed,
        observe_live recorded brings current live,drained]
      by_cases already : row.Resumed receipt
      · rw [observe_resumed recorded also current buffered already]
        simp [unthrottled,withDrained,laterLive,drained]
      · rw [observe_buffered recorded also current buffered already]
        simp [unthrottled,withDrained,laterLive,drained]
  | false =>
      have waiting (row : StoreConnectivity) : ¬row.Resumed receipt := by
        rintro ⟨ended,-⟩
        rw [drained] at ended
        cases ended
      rw [observe_buffered afterFirst also firstCurrent buffered (waiting _),
        observe_live recorded brings current live,
        observe_buffered recorded also current buffered (waiting _),drained]
      rfl

theorem observe_both_buffered (recorded : receipt.Recorded row) (brings : receipt.Brings first)
    (also : receipt.Brings second) (current : row.statusReceivedAt = receipt.receivedAt)
    (firstBuffered : first.isBuffered = true) (secondBuffered : second.isBuffered = true) :
    ((row.observe settings first).observe settings second).unthrottled =
      ((row.observe settings second).observe settings first).unthrottled := by
  obtain ⟨afterFirst,statusFirst⟩ := observe_recorded settings recorded brings
  obtain ⟨afterSecond,statusSecond⟩ := observe_recorded settings recorded also
  have firstCurrent := statusFirst.trans current
  have secondCurrent := statusSecond.trans current
  by_cases resumed : row.Resumed receipt
  · have firstResumed : (row.observe settings first).Resumed receipt := by
      rw [observe_resumed recorded brings current firstBuffered resumed]
      exact resumed
    have secondResumed : (row.observe settings second).Resumed receipt := by
      rw [observe_resumed recorded also current secondBuffered resumed]
      exact resumed
    rw [observe_resumed afterFirst also firstCurrent secondBuffered firstResumed,
      observe_resumed afterSecond brings secondCurrent firstBuffered secondResumed,
      observe_resumed recorded brings current firstBuffered resumed,
      observe_resumed recorded also current secondBuffered resumed]
  · have firstWaiting : ¬(row.observe settings first).Resumed receipt := by
      rw [observe_buffered recorded brings current firstBuffered resumed]
      exact resumed
    have secondWaiting : ¬(row.observe settings second).Resumed receipt := by
      rw [observe_buffered recorded also current secondBuffered resumed]
      exact resumed
    rw [observe_buffered afterFirst also firstCurrent secondBuffered firstWaiting,
      observe_buffered afterSecond brings secondCurrent firstBuffered secondWaiting,
      observe_buffered recorded brings current firstBuffered resumed,
      observe_buffered recorded also current secondBuffered resumed]
    dsimp only
    rw [olderBuffered_comm]

/-- Two events of the receipt leave the same backlog, live receipt and flags in either order. -/
theorem observe_comm (settings : Settings) (recorded : receipt.Recorded row)
    (brings : receipt.Brings first) (also : receipt.Brings second) :
    ((row.observe settings first).observe settings second).unthrottled =
      ((row.observe settings second).observe settings first).unthrottled := by
  obtain ⟨afterFirst,statusFirst⟩ := observe_recorded settings recorded brings
  obtain ⟨afterSecond,statusSecond⟩ := observe_recorded settings recorded also
  rcases recorded.status.eq_or_lt with current | older
  · cases firstBuffered : first.isBuffered with
    | false =>
        cases secondBuffered : second.isBuffered with
        | false =>
            rw [observe_live afterFirst also (statusFirst.trans current.symm) secondBuffered,
              observe_live afterSecond brings (statusSecond.trans current.symm) firstBuffered,
              observe_live recorded brings current.symm firstBuffered,
              observe_live recorded also current.symm secondBuffered]
            rfl
        | true =>
            exact observe_live_buffered recorded brings also current.symm firstBuffered
              secondBuffered
    | true =>
        cases secondBuffered : second.isBuffered with
        | false =>
            exact (observe_live_buffered recorded also brings current.symm secondBuffered
              firstBuffered).symm
        | true =>
            exact observe_both_buffered recorded brings also current.symm firstBuffered
              secondBuffered
  · rw [observe_older afterFirst also (older.trans_eq statusFirst.symm),
      observe_older afterSecond brings (older.trans_eq statusSecond.symm),
      observe_older recorded brings older,observe_older recorded also older]
    cases first.isBuffered <;> cases second.isBuffered
    · simp [applyLive,unthrottled,brings.receivedAt,also.receivedAt]
    · rfl
    · rfl
    · rfl

end Swaps

section Batches

def observeAll (settings : Settings) (row : StoreConnectivity)
    (events : List RfidObservationEvent) : StoreConnectivity :=
  events.foldl (observe settings) row

theorem observeAll_recorded (settings : Settings) (recorded : receipt.Recorded row)
    (brings : ∀ event ∈ events, receipt.Brings event) :
    receipt.Recorded (row.observeAll settings events) ∧
      (row.observeAll settings events).statusReceivedAt = row.statusReceivedAt := by
  induction events generalizing row with
  | nil => exact ⟨recorded,rfl⟩
  | cons event events ih =>
      obtain ⟨after,status⟩ :=
        observe_recorded settings recorded (brings event (List.mem_cons_self ..))
      obtain ⟨last,same⟩ :=
        ih after fun other member => brings other (List.mem_cons_of_mem _ member)
      exact ⟨last,same.trans status⟩

theorem observeAll_unthrottled (settings : Settings) (recorded : receipt.Recorded row)
    (brings : ∀ event ∈ events, receipt.Brings event) (live : Option Time)
    (status : FreshnessStatus) :
    ({ row with lastLiveEventAt := live, freshnessStatus := status }.observeAll settings
      events).unthrottled = (row.observeAll settings events).unthrottled := by
  induction events generalizing row live status with
  | nil => rfl
  | cons event events ih =>
      have brought := brings event (List.mem_cons_self ..)
      have rest : ∀ other ∈ events, receipt.Brings other :=
        fun other member => brings other (List.mem_cons_of_mem _ member)
      have same := unthrottled_eq (observe_unthrottled settings recorded brought live status)
      have later := ih (observe_recorded settings recorded brought).1 rest
        ({ row with lastLiveEventAt := live, freshnessStatus := status }.observe settings
          event).lastLiveEventAt
        ({ row with lastLiveEventAt := live, freshnessStatus := status }.observe settings
          event).freshnessStatus
      rw [← same] at later
      exact later

/-- Everything but the throttled time and the freshness is the same in every order. -/
theorem observeAll_perm (recorded : receipt.Recorded row)
    (brings : ∀ event ∈ events, receipt.Brings event) (perm : events.Perm arranged) :
    (row.observeAll settings events).unthrottled =
      (row.observeAll settings arranged).unthrottled := by
  induction perm generalizing row with
  | nil => rfl
  | cons event perm ih =>
      have after := observe_recorded settings recorded (brings event (List.mem_cons_self ..))
      exact ih after.1 fun other member => brings other (List.mem_cons_of_mem _ member)
  | swap first second events =>
      have brought := brings second (List.mem_cons_self ..)
      have also := brings first (List.mem_cons_of_mem _ (List.mem_cons_self ..))
      have rest : ∀ other ∈ events, receipt.Brings other := fun other member =>
        brings other (List.mem_cons_of_mem _ (List.mem_cons_of_mem _ member))
      have same := unthrottled_eq (observe_comm settings recorded brought also)
      have reached :=
        (observe_recorded settings (observe_recorded settings recorded also).1 brought).1
      have later := observeAll_unthrottled settings reached rest
        ((row.observe settings second).observe settings first).lastLiveEventAt
        ((row.observe settings second).observe settings first).freshnessStatus
      rw [← same] at later
      exact later
  | trans perm _ first second =>
      exact (first recorded brings).trans
        (second recorded fun event member => brings event (perm.mem_iff.mpr member))

def liveTimes (events : List RfidObservationEvent) : List Time :=
  (events.filter fun event => !event.isBuffered).map RfidObservationEvent.observedAt

theorem mem_liveTimes {time : Time} : time ∈ liveTimes events ↔
    ∃ event ∈ events, event.isBuffered = false ∧ event.observedAt = time := by
  simp [liveTimes,and_assoc]

theorem observe_lastLive (recorded : receipt.Recorded row) (brings : receipt.Brings event) :
    (row.observe settings event).lastLiveEventAt =
      if event.isBuffered then row.lastLiveEventAt
      else Throttle.refresh (seconds settings.rfidLastSeenFlushSeconds) row.lastLiveEventAt
        event.observedAt := by
  rcases recorded.status.eq_or_lt with current | older
  · cases buffered : event.isBuffered with
    | false =>
        rw [observe_live recorded brings current.symm buffered]
        rfl
    | true =>
        by_cases resumed : row.Resumed receipt
        · rw [observe_resumed recorded brings current.symm buffered resumed]
          rfl
        · rw [observe_buffered recorded brings current.symm buffered resumed]
          rfl
  · rw [observe_older recorded brings older]
    cases event.isBuffered <;> rfl

/-- The live time is a throttled register of the live events' times. -/
theorem observeAll_lastLive (recorded : receipt.Recorded row)
    (brings : ∀ event ∈ events, receipt.Brings event) :
    (row.observeAll settings events).lastLiveEventAt = (liveTimes events).foldl
      (Throttle.refresh (seconds settings.rfidLastSeenFlushSeconds)) row.lastLiveEventAt := by
  induction events generalizing row with
  | nil => rfl
  | cons event events ih =>
      have brought := brings event (List.mem_cons_self ..)
      have reached := (observe_recorded settings recorded brought).1
      have later := ih reached fun other member => brings other (List.mem_cons_of_mem _ member)
      refine later.trans ?_
      rw [observe_lastLive recorded brought]
      cases buffered : event.isBuffered <;> simp [liveTimes,buffered]

end Batches

end StoreConnectivity

end Abacus
