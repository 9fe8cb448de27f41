import Abacus.Model.ItemSessions

/-! Sessions with nobody in between.
A session that runs alone is the transaction that the other machines take as one step.
-/
set_option autoImplicit false

namespace Abacus

open Relational Transaction

theorem run_lockItem (epc : Epc) (next : Option CurrentItemState → ItemProgram) (db : Database) :
    (lockItem epc next).run db = (next (db.inventory.items.find? epc)).run db := by
  rw [lockItem,Program.run_read]
  split
  · rename_i absent
    rw [Option.isNone_iff_eq_none.mp absent]
  · rfl

variable (platform : Platform) (settings : Settings) (db : Database)

def atomicRemoval (storeId : Uuid) (request : BusinessEventCreate) (clock : Clock) (eventId : Uuid) :
    ItemProgram :=
  commit fun db => (acceptAuthoritativeRemoval platform settings db.registry db.ingress db.inventory
    storeId request clock eventId).map fun accepted =>
      (ItemResponse.accepted accepted.1,{ db with inventory := accepted.2 })

/-- With no other session, a removal is the atomic one. -/
theorem removal_alone (storeId : Uuid) (request : BusinessEventCreate) (clock : Clock)
    (eventId : Uuid) :
    (removal platform settings storeId request clock eventId).run db =
      (atomicRemoval platform settings storeId request clock eventId).run db := by
  rw [removal,Program.run_read,run_ensure]
  by_cases present : (db.registry.stores.find? storeId).isSome = true
  · have stored : ¬(db.registry.stores.find? storeId).isNone = true := by
      simp [← Option.not_isSome,present]
    rw [if_pos present,run_ensure]
    by_cases inTime : request.occurredAt ≤
        clock.processor + seconds settings.rfidMaxFutureSkewSeconds
    · have timely := not_lt_of_ge inTime
      rw [if_pos inTime,Program.run_lock,Program.run_read]
      cases known : findBusinessEvent db.inventory request.sourceSystem request.externalEventId with
      | some existing =>
          rw [Option.elim_some,run_ensure]
          by_cases content : existing.requestFingerprint = request.fingerprint platform storeId
          · rw [if_pos content]
            symm
            apply run_commit_ok
            rw [acceptAuthoritativeRemoval,if_neg stored,if_neg timely,known]
            simp only [content,ne_eq,not_true_eq_false,if_false]
            rfl
          · rw [if_neg content]
            symm
            apply run_commit_error
            rw [acceptAuthoritativeRemoval,if_neg stored,if_neg timely,known]
            simp only [ne_eq,content,not_false_eq_true,if_true]
            rfl
      | none =>
          rw [Option.elim_none,removeItem,run_lockItem]
          cases found : db.inventory.items.find? request.epc with
          | none =>
              symm
              apply run_commit_error
              rw [acceptAuthoritativeRemoval,if_neg stored,if_neg timely,known]
              dsimp only
              rw [found]
              rfl
          | some state =>
              rw [Option.elim_some,Program.run_read]
              cases removable : removableBucket db.ingress state storeId request.occurredAt with
              | error failure =>
                  symm
                  apply run_commit_error
                  rw [acceptAuthoritativeRemoval,if_neg stored,if_neg timely,known]
                  dsimp only
                  rw [found]
                  dsimp only
                  rw [removable]
                  rfl
              | ok bucket =>
                  apply run_commit_congr
                  rw [Database.remove,acceptAuthoritativeRemoval,if_neg stored,if_neg timely,known]
                  dsimp only
                  rw [found]
                  dsimp only
                  rw [removable]
                  simp only [Option.isSome_none,Bool.false_eq_true,if_false,bind,Except.bind]
                  cases storeRemoval platform db.registry db.inventory state bucket storeId request
                      eventId clock.started with
                  | ok result => rfl
                  | error failure => cases failure <;> rfl
    · rw [if_neg inTime]
      symm
      apply run_commit_error
      rw [acceptAuthoritativeRemoval,if_neg stored,if_pos (lt_of_not_ge inTime)]
      rfl
  · rw [if_neg present]
    symm
    apply run_commit_error
    rw [acceptAuthoritativeRemoval,if_pos]
    · rfl
    · simpa using present

/-- An item that is looked up and moved at once has no row of another session. -/
theorem locateReadItem_alone (event resolved : RfidObservationEvent) (binding : EpcBinding)
    (evidenceStart : Option Time) (recent : RecentObservationState) (clock : Clock)
    (evidenceId : Uuid) :
    locateReadItem platform settings db event resolved binding evidenceStart recent clock evidenceId
        (db.inventory.items.find? event.epc) db.ingress =
      locateItem platform settings db event resolved binding evidenceStart recent clock
        evidenceId := by
  unfold locateReadItem locateItem
  dsimp only
  split
  · rfl
  · split
    · rfl
    · cases decided : decideLocation platform settings db event binding.skuId
          (db.inventory.items.find? event.epc)
          (durableWatermark db.ingress (db.inventory.items.find? event.epc) event.epc)
          (recent.add resolved settings.rfidMoveConfirmationWindowSeconds evidenceStart).1
          (recent.add resolved settings.rfidMoveConfirmationWindowSeconds evidenceStart).2 clock
          evidenceId with
      | error failure => rfl
      | ok effect =>
          simp only [bind,Except.bind]
          rw [if_neg]
          · rfl
          · cases db.inventory.items.find? event.epc <;> simp

/-- An attempt at an observation, without the worker's memory. -/
def withoutMemory (attempt : ProcessingResult × Database × RecentObservationState) :
    ItemResponse × Database := (.processed attempt.1,attempt.2.1)

theorem freshObservation_alone (recent : RecentObservationState) (event : RfidObservationEvent)
    (clock : Clock) (quarantineId evidenceId : Uuid) :
    (freshObservation platform settings recent event clock quarantineId evidenceId).run db =
      (commit fun db => (processFreshObservation platform settings db recent event clock quarantineId
        evidenceId).map withoutMemory : ItemProgram).run db := by
  unfold freshObservation
  by_cases future : tooFarInFuture event settings clock.processor = true
  · rw [if_pos future]
    apply run_commit_congr
    rw [processFreshObservation,if_pos future]
    simp only [bind,Except.bind]
    cases db.quarantine event .observedAtTooFarInFuture quarantineId clock.finalized with
    | ok result => rfl
    | error failure => rfl
  · rw [if_neg future,Program.run_read]
    cases assigned : resolveEffectiveAssignment db.registry event with
    | error reason =>
        apply run_commit_congr
        rw [processFreshObservation,if_neg future,assigned]
        simp only [bind,Except.bind]
        cases db.quarantine event reason quarantineId clock.finalized with
        | ok result => rfl
        | error failure => rfl
    | ok assignment =>
        dsimp only
        rw [Program.run_read]
        cases bound : resolveBinding db.registry db.ingress event clock.replay with
        | none =>
            apply run_commit_congr
            rw [processFreshObservation,if_neg future,assigned]
            simp only [bind,Except.bind,withConnectivity]
            cases updateConnectivity db.registry.stores db.connectivity
                { event with storeId := assignment.storeId, zoneId := assignment.zoneId } settings with
            | error failure => rfl
            | ok connectivity =>
                dsimp only [pure,Except.pure]
                rw [bound]
                dsimp only
                cases Database.quarantine { db with connectivity := connectivity } event .unknownEpc
                    quarantineId clock.finalized with
                | ok result => rfl
                | error failure => rfl
        | some found =>
            dsimp only
            rw [run_lockItem,Program.run_read]
            apply run_commit_congr
            rw [observeItem,processFreshObservation,if_neg future,assigned]
            simp only [bind,Except.bind,withConnectivity]
            cases updateConnectivity db.registry.stores db.connectivity
                { event with storeId := assignment.storeId, zoneId := assignment.zoneId } settings with
            | error failure => rfl
            | ok connectivity =>
                dsimp only [pure,Except.pure]
                rw [bound]
                dsimp only
                have located := locateReadItem_alone platform settings
                  { db with connectivity := connectivity } event
                  { event with storeId := assignment.storeId, zoneId := assignment.zoneId } found.1
                  found.2 recent clock evidenceId
                dsimp only at located
                rw [located]
                cases locateItem platform settings { db with connectivity := connectivity } event
                    { event with storeId := assignment.storeId, zoneId := assignment.zoneId } found.1
                    found.2 recent clock evidenceId with
                | error failure => rfl
                | ok effect =>
                    dsimp only
                    cases Database.finalize { db with
                        connectivity := connectivity, inventory := effect.inventory,
                        replenishment := effect.replenishment } event effect.result
                        clock.finalized with
                    | ok result => rfl
                    | error failure => rfl

def atomicObservation (recent : RecentObservationState) (event : RfidObservationEvent)
    (clock : Clock) (quarantineId evidenceId : Uuid) : ItemProgram :=
  commit fun db => (processObservation platform settings db recent event clock quarantineId
    evidenceId).map withoutMemory

/-- With no other session, an observation is the atomic one. -/
theorem observation_alone (recent : RecentObservationState) (event : RfidObservationEvent)
    (clock : Clock) (quarantineId evidenceId : Uuid) :
    (observation platform settings recent event clock quarantineId evidenceId).run db =
      (atomicObservation platform settings recent event clock quarantineId evidenceId).run db := by
  unfold observation
  cases remembered : (recent.released event).rememberEvent event with
  | mk fresh memory =>
      cases fresh with
      | true =>
          apply (freshObservation_alone platform settings db memory event clock quarantineId
            evidenceId).trans
          apply run_commit_congr
          rw [processObservation,remembered]
      | false =>
          apply run_commit_congr
          rw [processObservation,remembered]
          simp only [bind,Except.bind]
          cases db.finalize event { disposition := .duplicate } clock.finalized with
          | ok result => rfl
          | error failure => rfl

end Abacus
