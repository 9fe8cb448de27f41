import Abacus.Model.Connectivity
import Abacus.Model.Sample

/-! Receipts of one store in the order in which they take its row.
A receipt moves the status forward or leaves it, and the evidence of an older receipt only touches
the live times. So the newest receipt decides, whatever the order.
-/
set_option autoImplicit false

namespace Abacus

open Relational (Table)

namespace StoreConnectivity

variable {row : StoreConnectivity} {receivedAt latest : Time}
  {backlogDrained readerCoverageOk : Bool}

section Rows

theorem recordReceipt_older (older : receivedAt < row.statusReceivedAt) :
    row.recordReceipt receivedAt backlogDrained readerCoverageOk =
      (row.heard receivedAt,false) := by
  rw [recordReceipt,if_neg (not_le.mpr older)]

theorem recordReceipt_current (current : row.statusReceivedAt ≤ receivedAt) :
    row.recordReceipt receivedAt backlogDrained readerCoverageOk =
      ((row.heard receivedAt).withStatus receivedAt backlogDrained readerCoverageOk,true) := by
  rw [recordReceipt,if_pos current]

@[simp] theorem heard_status : (row.heard receivedAt).statusReceivedAt = row.statusReceivedAt := by
  unfold heard
  split <;> rfl

/-- What is derived from the current receipt and its evidence. -/
structure SameStatus (row after : StoreConnectivity) : Prop where
  statusReceivedAt : after.statusReceivedAt = row.statusReceivedAt
  backlogDrained : after.backlogDrained = row.backlogDrained
  readerCoverageOk : after.readerCoverageOk = row.readerCoverageOk
  oldestBufferedEventAt : after.oldestBufferedEventAt = row.oldestBufferedEventAt
  freshnessStatus : after.freshnessStatus = row.freshnessStatus

theorem SameStatus.trans {middle after : StoreConnectivity} (first : row.SameStatus middle)
    (second : middle.SameStatus after) : row.SameStatus after where
  statusReceivedAt := second.statusReceivedAt.trans first.statusReceivedAt
  backlogDrained := second.backlogDrained.trans first.backlogDrained
  readerCoverageOk := second.readerCoverageOk.trans first.readerCoverageOk
  oldestBufferedEventAt := second.oldestBufferedEventAt.trans first.oldestBufferedEventAt
  freshnessStatus := second.freshnessStatus.trans first.freshnessStatus

theorem heard_sameStatus (row : StoreConnectivity) (receivedAt : Time) :
    row.SameStatus (row.heard receivedAt) := by
  unfold heard
  split <;> exact ⟨rfl,rfl,rfl,rfl,rfl⟩

/-- Evidence of an older receipt touches only the live times. -/
theorem applyObservation_sameStatus (row : StoreConnectivity) (event : RfidObservationEvent)
    (settings : Settings) : row.SameStatus (row.applyObservation event settings false) := by
  unfold applyObservation applyLive
  split <;> exact ⟨rfl,rfl,rfl,rfl,rfl⟩

structure HeardAt (row : StoreConnectivity) (latest : Time) : Prop where
  status : row.statusReceivedAt = latest
  heartbeat : row.gatewayLastHeartbeat = some latest

theorem recordReceipt_heardAt (heard : row.HeardAt latest) :
    (row.recordReceipt receivedAt backlogDrained readerCoverageOk).1.HeardAt
      (max latest receivedAt) := by
  obtain ⟨status,heartbeat⟩ := heard
  rcases lt_or_ge receivedAt latest with older | current
  · rw [recordReceipt_older (status ▸ older),max_eq_left older.le]
    refine ⟨heard_status.trans status,?_⟩
    have later : ¬(some latest).all fun heartbeat => decide (heartbeat < receivedAt) := by
      simpa using older.le
    rw [StoreConnectivity.heard,heartbeat,if_neg later,heartbeat]
  · rw [recordReceipt_current (status ▸ current),max_eq_right current]
    refine ⟨rfl,?_⟩
    change (row.heard receivedAt).gatewayLastHeartbeat = some receivedAt
    unfold StoreConnectivity.heard
    split
    · rfl
    · rename_i later
      rw [heartbeat] at later ⊢
      have same : receivedAt ≤ latest := by simpa using later
      rw [le_antisymm same current]

theorem applyObservation_heardAt {event : RfidObservationEvent} {settings : Settings}
    {isCurrentReceipt : Bool} (heard : row.HeardAt latest) :
    (row.applyObservation event settings isCurrentReceipt).HeardAt latest := by
  have kept : (row.applyObservation event settings isCurrentReceipt).statusReceivedAt =
        row.statusReceivedAt ∧
      (row.applyObservation event settings isCurrentReceipt).gatewayLastHeartbeat =
        row.gatewayLastHeartbeat := by
    unfold applyObservation applyBuffered refreshLive applyLive
    split_ifs <;> exact ⟨rfl,rfl⟩
  exact ⟨kept.1.trans heard.status,kept.2.trans heard.heartbeat⟩

theorem firstReceipt_heardAt (storeId : Uuid) :
    (firstReceipt storeId receivedAt backlogDrained readerCoverageOk).HeardAt receivedAt :=
  ⟨rfl,rfl⟩

end Rows

end StoreConnectivity

section Requests

/-- What takes the row of a store: the receipt of a request, or the handling of an event. -/
inductive ConnectivityRequest where
  | receipt (storeId : Uuid) (receivedAt : Time) (backlogDrained readerCoverageOk : Bool)
  | observation (event : RfidObservationEvent)

namespace ConnectivityRequest

def storeId : ConnectivityRequest → Uuid
  | receipt storeId _ _ _ => storeId
  | observation event => event.storeId

def receivedAt : ConnectivityRequest → Time
  | receipt _ receivedAt _ _ => receivedAt
  | observation event => event.receivedAt

def apply (stores : Table Store.id) (settings : Settings) (connectivity : Connectivity) :
    ConnectivityRequest → Attempt Connectivity
  | receipt storeId receivedAt backlogDrained readerCoverageOk => do
      let (connectivity,_) ← lockStoreConnectivityForReceipt stores connectivity storeId receivedAt
        backlogDrained readerCoverageOk
      return connectivity
  | observation event => updateConnectivity stores connectivity event settings

def first : ConnectivityRequest → StoreConnectivity
  | receipt storeId receivedAt backlogDrained readerCoverageOk =>
      .firstReceipt storeId receivedAt backlogDrained readerCoverageOk
  | observation event =>
      .firstReceipt event.storeId event.receivedAt event.backlogDrained event.readerCoverageOk

def change (settings : Settings) (row : StoreConnectivity) : ConnectivityRequest → StoreConnectivity
  | receipt _ receivedAt backlogDrained readerCoverageOk =>
      (row.recordReceipt receivedAt backlogDrained readerCoverageOk).1
  | observation event =>
      let (row,isCurrentReceipt) :=
        row.recordReceipt event.receivedAt event.backlogDrained event.readerCoverageOk
      row.applyObservation event settings isCurrentReceipt

end ConnectivityRequest

variable {stores : Table Store.id} {settings : Settings} {connectivity after : Connectivity}
  {storeId : Uuid} {receivedAt : Time} {backlogDrained readerCoverageOk : Bool}
  {request : ConnectivityRequest}

/-- The row that a lock finds or inserts, changed by the receipt. No other row changes. -/
theorem find?_lockStoreConnectivityForReceipt {isCurrentReceipt : Bool}
    (locked : lockStoreConnectivityForReceipt stores connectivity storeId receivedAt backlogDrained
      readerCoverageOk = .ok (after,isCurrentReceipt)) :
    ∃ row : StoreConnectivity,
      row = (connectivity.find? storeId).getD
        (.firstReceipt storeId receivedAt backlogDrained readerCoverageOk) ∧
      isCurrentReceipt = (row.recordReceipt receivedAt backlogDrained readerCoverageOk).2 ∧
      ∀ other, after.find? other = if other = storeId then
        some (row.recordReceipt receivedAt backlogDrained readerCoverageOk).1
        else connectivity.find? other := by
  have recorded (middle : Connectivity) (row : StoreConnectivity)
      (found : middle.find? storeId = some row) (other : Uuid) :
      Table.find? (middle.modify storeId
        (fun row => (row.recordReceipt receivedAt backlogDrained readerCoverageOk).1)
        (fun row => row.recordReceipt_storeId receivedAt backlogDrained readerCoverageOk)) other =
          if other = storeId then
            some (row.recordReceipt receivedAt backlogDrained readerCoverageOk).1
          else middle.find? other := by
    rw [Table.find?_modify,found]
    rfl
  unfold lockStoreConnectivityForReceipt at locked
  split at locked
  · rename_i row found
    dsimp only [bind,Except.bind] at locked
    rw [found] at locked
    cases locked
    exact ⟨row,by rw [found]; rfl,rfl,recorded connectivity row found⟩
  · rename_i absent
    split at locked
    · cases locked
    · obtain ⟨middle,inserted,locked⟩ := bind_eq_ok.mp locked
      have added := orIntegrityError_eq_ok.mp inserted
      have found : middle.find? storeId =
          some (.firstReceipt storeId receivedAt backlogDrained readerCoverageOk) := by
        rw [Table.find?_insert added,if_pos (by rfl)]
      dsimp only at locked
      rw [found] at locked
      cases locked
      refine ⟨_,by rw [absent]; rfl,rfl,?_⟩
      intro other
      refine (recorded middle _ found other).trans ?_
      by_cases same : other = storeId
      · rw [if_pos same,if_pos same]
      · rw [if_neg same,if_neg same,Table.find?_insert added]
        exact if_neg (Ne.symm same)

theorem find?_updateConnectivity {event : RfidObservationEvent}
    (updated : updateConnectivity stores connectivity event settings = .ok after) (other : Uuid) :
    after.find? other = if other = event.storeId then
        some ((ConnectivityRequest.observation event).change settings
          ((connectivity.find? event.storeId).getD (ConnectivityRequest.observation event).first))
      else connectivity.find? other := by
  obtain ⟨⟨middle,isCurrentReceipt⟩,locked,done⟩ := bind_eq_ok.mp updated
  cases done
  obtain ⟨row,met,current,rows⟩ := find?_lockStoreConnectivityForReceipt locked
  have stored := rows event.storeId
  rw [if_pos rfl] at stored
  refine (Table.find?_modify middle event.storeId other _ _).trans ?_
  by_cases same : other = event.storeId
  · rw [if_pos same,if_pos same,stored,current,met]
    rfl
  · rw [if_neg same,if_neg same,rows other,if_neg same]

/-- A request changes the row of its store, or the first row of it, and no other row. -/
theorem ConnectivityRequest.find?_apply
    (applied : request.apply stores settings connectivity = .ok after) (other : Uuid) :
    after.find? other = if other = request.storeId then
        some (request.change settings ((connectivity.find? request.storeId).getD request.first))
      else connectivity.find? other := by
  cases request with
  | receipt storeId receivedAt backlogDrained readerCoverageOk =>
      obtain ⟨⟨middle,isCurrentReceipt⟩,locked,done⟩ := bind_eq_ok.mp applied
      cases done
      obtain ⟨row,met,-,rows⟩ := find?_lockStoreConnectivityForReceipt locked
      rw [rows other,met]
      rfl
  | observation event => exact find?_updateConnectivity applied other

theorem ConnectivityRequest.first_heardAt (request : ConnectivityRequest) :
    request.first.HeardAt request.receivedAt := by
  cases request <;> exact StoreConnectivity.firstReceipt_heardAt _

theorem ConnectivityRequest.change_heardAt {row : StoreConnectivity} {latest : Time}
    (heard : row.HeardAt latest) (request : ConnectivityRequest) :
    (request.change settings row).HeardAt (max latest request.receivedAt) := by
  cases request with
  | receipt storeId receivedAt backlogDrained readerCoverageOk =>
      exact StoreConnectivity.recordReceipt_heardAt heard
  | observation event =>
      exact StoreConnectivity.applyObservation_heardAt
        (StoreConnectivity.recordReceipt_heardAt heard)

/-- A request with an older receipt keeps the status. -/
theorem ConnectivityRequest.change_sameStatus {row : StoreConnectivity}
    (older : request.receivedAt < row.statusReceivedAt) :
    row.SameStatus (request.change settings row) := by
  cases request with
  | receipt storeId receivedAt backlogDrained readerCoverageOk =>
      have earlier : receivedAt < row.statusReceivedAt := older
      rw [change,StoreConnectivity.recordReceipt_older earlier]
      exact row.heard_sameStatus receivedAt
  | observation event =>
      have earlier : event.receivedAt < row.statusReceivedAt := older
      rw [change,StoreConnectivity.recordReceipt_older earlier]
      exact (row.heard_sameStatus event.receivedAt).trans
        (StoreConnectivity.applyObservation_sameStatus _ event settings)

end Requests

section Runs

variable {stores : Table Store.id} {settings : Settings} {connectivity after : Connectivity}
  {storeId : Uuid} {requests : List ConnectivityRequest}

/-- The store has no row, or its row stems from receipts of which this is the latest. -/
def Connectivity.HeardAt (connectivity : Connectivity) (storeId : Uuid) (latest : Option Time) :
    Prop :=
  (connectivity.find? storeId).map StoreConnectivity.statusReceivedAt = latest ∧
    (connectivity.find? storeId).bind StoreConnectivity.gatewayLastHeartbeat = latest

theorem Connectivity.heardAt_none (absent : connectivity.find? storeId = none) :
    connectivity.HeardAt storeId none := by
  rw [Connectivity.HeardAt,absent]
  exact ⟨rfl,rfl⟩

theorem Connectivity.heardAt_some {latest : Time} : connectivity.HeardAt storeId (some latest) ↔
    ∃ row, connectivity.find? storeId = some row ∧ row.HeardAt latest := by
  unfold Connectivity.HeardAt
  cases found : connectivity.find? storeId with
  | none => simp
  | some row =>
      constructor
      · rintro ⟨status,heartbeat⟩
        exact ⟨row,rfl,Option.some.inj status,heartbeat⟩
      · rintro ⟨other,same,status,heartbeat⟩
        cases same
        exact ⟨congrArg some status,heartbeat⟩

def receiptTimes (requests : List ConnectivityRequest) (storeId : Uuid) : List Time :=
  (requests.filter fun request => request.storeId = storeId).map ConnectivityRequest.receivedAt

def Connectivity.run (stores : Table Store.id) (settings : Settings) (connectivity : Connectivity)
    (requests : List ConnectivityRequest) : Attempt Connectivity :=
  requests.foldlM (ConnectivityRequest.apply stores settings) connectivity

/-- One request of the store moves its latest receipt to the later of the two. -/
theorem ConnectivityRequest.apply_heardAt {request : ConnectivityRequest} {earlier : Option Time}
    (heard : connectivity.HeardAt request.storeId earlier)
    (applied : request.apply stores settings connectivity = .ok after) :
    after.HeardAt request.storeId
      (some (earlier.elim request.receivedAt fun latest => max latest request.receivedAt)) := by
  apply Connectivity.heardAt_some.mpr
  have stored := request.find?_apply applied request.storeId
  rw [if_pos rfl] at stored
  refine ⟨_,stored,?_⟩
  cases found : connectivity.find? request.storeId with
  | none =>
      have missing : earlier = none := by
        rw [← heard.1,found]
        rfl
      subst missing
      have changed : (request.change settings request.first).HeardAt _ :=
        request.change_heardAt request.first_heardAt
      rw [max_self] at changed
      exact changed
  | some row =>
      obtain ⟨status,heartbeat⟩ := heard
      rw [found] at status heartbeat
      subst status
      exact request.change_heardAt ⟨rfl,heartbeat⟩

theorem Connectivity.run_heardAt {earlier : Option Time}
    (heard : connectivity.HeardAt storeId earlier)
    (ran : connectivity.run stores settings requests = .ok after) :
    after.HeardAt storeId (earlier.toList ++ receiptTimes requests storeId).max? := by
  induction requests generalizing connectivity earlier with
  | nil =>
      cases ran
      cases earlier <;> exact heard
  | cons request requests ih =>
      rw [Connectivity.run,List.foldlM_cons] at ran
      obtain ⟨middle,applied,rest⟩ := bind_eq_ok.mp ran
      by_cases same : request.storeId = storeId
      · subst same
        have later := ih (request.apply_heardAt heard applied) rest
        have times : receiptTimes (request :: requests) request.storeId =
            request.receivedAt :: receiptTimes requests request.storeId := by
          simp [receiptTimes]
        rw [times]
        cases earlier with
        | none => exact later
        | some latest =>
            simpa [List.max?] using later
      · have kept : middle.HeardAt storeId earlier := by
          have frame := request.find?_apply applied storeId
          rw [if_neg (Ne.symm same)] at frame
          rw [Connectivity.HeardAt,frame]
          exact heard
        have times :
            receiptTimes (request :: requests) storeId = receiptTimes requests storeId := by
          simp [receiptTimes,same]
        rw [times]
        exact ih kept rest

theorem mem_receiptTimes {time : Time} : time ∈ receiptTimes requests storeId ↔
    ∃ request ∈ requests, request.storeId = storeId ∧ request.receivedAt = time := by
  simp [receiptTimes,and_assoc]

def Connectivity.Carries (connectivity : Connectivity) (storeId : Uuid) (receivedAt : Time)
    (backlogDrained readerCoverageOk : Bool) : Prop :=
  ∃ row, connectivity.find? storeId = some row ∧ row.statusReceivedAt = receivedAt ∧
    row.backlogDrained = backlogDrained ∧ row.readerCoverageOk = readerCoverageOk

variable {receivedAt : Time} {backlogDrained readerCoverageOk : Bool}

/-- Requests with older receipts keep the flags. -/
theorem Connectivity.run_carries
    (carries : connectivity.Carries storeId receivedAt backlogDrained readerCoverageOk)
    (older : ∀ request ∈ requests, request.storeId = storeId → request.receivedAt < receivedAt)
    (ran : connectivity.run stores settings requests = .ok after) :
    after.Carries storeId receivedAt backlogDrained readerCoverageOk := by
  induction requests generalizing connectivity with
  | nil =>
      cases ran
      exact carries
  | cons request requests ih =>
      rw [Connectivity.run,List.foldlM_cons] at ran
      obtain ⟨middle,applied,rest⟩ := bind_eq_ok.mp ran
      have rest_older :
          ∀ other ∈ requests, other.storeId = storeId → other.receivedAt < receivedAt :=
        fun other member => older other (List.mem_cons_of_mem _ member)
      refine ih ?_ rest_older rest
      obtain ⟨row,found,status,drained,coverage⟩ := carries
      by_cases same : request.storeId = storeId
      · subst same
        have earlier : request.receivedAt < row.statusReceivedAt := by
          rw [status]
          exact older request (List.mem_cons_self ..) rfl
        have stored := request.find?_apply applied request.storeId
        rw [if_pos rfl,found] at stored
        have kept : row.SameStatus (request.change settings row) :=
          request.change_sameStatus earlier
        exact ⟨_,stored,kept.statusReceivedAt.trans status,kept.backlogDrained.trans drained,
          kept.readerCoverageOk.trans coverage⟩
      · have frame := request.find?_apply applied storeId
        rw [if_neg (Ne.symm same),found] at frame
        exact ⟨row,frame,status,drained,coverage⟩

/-- A receipt that no recorded one is newer than brings its flags. -/
theorem ConnectivityRequest.receipt_carries {earlier : Option Time}
    (heard : connectivity.HeardAt storeId earlier) (newest : ∀ time ∈ earlier, time ≤ receivedAt)
    (applied : (ConnectivityRequest.receipt storeId receivedAt backlogDrained
      readerCoverageOk).apply stores settings connectivity = .ok after) :
    after.Carries storeId receivedAt backlogDrained readerCoverageOk := by
  have stored := find?_apply applied storeId
  rw [if_pos (by rfl)] at stored
  refine ⟨_,stored,?_⟩
  have current : ((connectivity.find? storeId).getD (.firstReceipt storeId receivedAt backlogDrained
      readerCoverageOk)).statusReceivedAt ≤ receivedAt := by
    cases found : connectivity.find? storeId with
    | none => exact le_rfl
    | some row =>
        apply newest
        rw [Option.mem_def,← heard.1,found]
        rfl
  rw [ConnectivityRequest.change]
  dsimp only [ConnectivityRequest.storeId,ConnectivityRequest.first]
  rw [StoreConnectivity.recordReceipt_current current]
  exact ⟨rfl,rfl,rfl⟩

/-- The newest receipt decides: the latest receipt is the status and the heartbeat, its flags stay,
and the evidence of an older one changes no part of the status. -/
theorem newest_receipt_decides {earlier : Option Time}
    (heard : connectivity.HeardAt storeId earlier)
    (ran : connectivity.run stores settings requests = .ok after) :
    after.HeardAt storeId (earlier.toList ++ receiptTimes requests storeId).max? ∧
    (∀ before later receivedAt backlogDrained readerCoverageOk,
      requests = before ++ .receipt storeId receivedAt backlogDrained readerCoverageOk :: later →
      (∀ time ∈ earlier, time < receivedAt) →
      (∀ request ∈ before ++ later, request.storeId = storeId → request.receivedAt < receivedAt) →
      after.Carries storeId receivedAt backlogDrained readerCoverageOk) ∧
    ∀ event row next, after.find? event.storeId = some row →
      event.receivedAt < row.statusReceivedAt →
      updateConnectivity stores after event settings = .ok next →
      ∃ nextRow, next.find? event.storeId = some nextRow ∧ row.SameStatus nextRow := by
  refine ⟨Connectivity.run_heardAt heard ran,?_,?_⟩
  · intro before later receivedAt backlogDrained readerCoverageOk split newest older
    rw [split,Connectivity.run,List.foldlM_append] at ran
    obtain ⟨met,first,ran⟩ := bind_eq_ok.mp ran
    rw [List.foldlM_cons] at ran
    obtain ⟨recorded,applied,rest⟩ := bind_eq_ok.mp ran
    have reached := Connectivity.run_heardAt heard first
    have carries : recorded.Carries storeId receivedAt backlogDrained readerCoverageOk := by
      refine ConnectivityRequest.receipt_carries reached ?_ applied
      intro time latest
      rcases List.mem_append.mp (List.max?_mem latest) with known | listed
      · exact (newest time (Option.mem_toList.mp known)).le
      · obtain ⟨request,member,store,rfl⟩ := mem_receiptTimes.mp listed
        exact (older request (List.mem_append_left _ member) store).le
    exact Connectivity.run_carries carries
      (fun request member => older request (List.mem_append_right _ member)) rest
  · intro event row next found older updated
    have stored := find?_updateConnectivity updated event.storeId
    rw [if_pos rfl,found] at stored
    exact ⟨_,stored,ConnectivityRequest.change_sameStatus older⟩

end Runs

namespace Sample

/-- Two receipts out of order, and the worker at the older one's event after both. -/
def delayedReceipts : List ConnectivityRequest :=
  [.receipt storeId 5 true true,.receipt storeId 3 false true,
    .observation (read floorReader floorId "first" 2 3)]

def noConnectivity : Connectivity := Table.empty

theorem delayedReceipts_run : ∃ after,
    noConnectivity.run registry.stores settings delayedReceipts = .ok after := by
  obtain ⟨after,ran,-⟩ : ∃ after,
      noConnectivity.run registry.stores settings delayedReceipts = .ok after ∧
        (after.find? storeId).isSome = true := exists_of_any (by decide +kernel)
  exact ⟨after,ran⟩

end Sample

theorem newest_receipt_decides_sample : ∃ after : Connectivity,
    after.HeardAt Sample.storeId (some 5) ∧ after.Carries Sample.storeId 5 true true := by
  obtain ⟨after,ran⟩ := Sample.delayedReceipts_run
  have unheard : Sample.noConnectivity.HeardAt Sample.storeId none := Connectivity.heardAt_none rfl
  obtain ⟨latest,flags,-⟩ := newest_receipt_decides unheard ran
  refine ⟨after,latest,flags [] _ 5 true true rfl (fun _ none => (by cases none)) ?_⟩
  intro request member _
  simp only [List.nil_append,List.mem_cons,List.not_mem_nil,or_false] at member
  rcases member with rfl | rfl
  · decide
  · decide

end Abacus
