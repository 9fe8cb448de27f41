import Mathlib.Data.Rat.Floor
import Mathlib.Data.List.Sort
import Mathlib.Tactic.Linarith
import Mathlib.Tactic.Positivity
import Abacus.Library.OrderedDict
import Abacus.Model.Schema

/-! The worker's in-memory evidence windows and the zone they confirm
(`RecentObservationState` and `infer_stable_zone`).
-/
set_option autoImplicit false

namespace Abacus

open Relational (OrderedDict)

section Windows

/-- The one event worker serves every tenant, so keys carry the tenant. -/
structure RecentObservationState where
  windows : OrderedDict (Uuid × Epc) (List RfidObservationEvent)
  eventIds : OrderedDict (Uuid × EventId) Unit
  maximumEpcs : ℕ := 100000
  maximumEventIds : ℕ := 500000

def RfidObservationEvent.eventKey (event : RfidObservationEvent) : Uuid × EventId :=
  (event.tenantId,event.eventId)

def RfidObservationEvent.windowKey (event : RfidObservationEvent) : Uuid × Epc :=
  (event.tenantId,event.epc)

namespace RecentObservationState

def rememberEvent (recent : RecentObservationState) (event : RfidObservationEvent) :
    Bool × RecentObservationState :=
  if recent.eventIds.contains event.eventKey then
    (false,{ recent with eventIds := recent.eventIds.moveToEnd event.eventKey })
  else
    let eventIds := recent.eventIds.set event.eventKey ()
    (true,{ recent with
      eventIds :=
        if recent.maximumEventIds < eventIds.rows.length then eventIds.popFirst else eventIds })

def forgetEvent (recent : RecentObservationState) (event : RfidObservationEvent) :
    RecentObservationState :=
  { recent with eventIds := recent.eventIds.erase event.eventKey }

def retained (window : List RfidObservationEvent) (event : RfidObservationEvent)
    (windowSeconds : ℕ) (evidenceNotBefore : Option Time) : List RfidObservationEvent :=
  let appended := window ++ [event]
  let newest := appended.foldl (fun newest item => max newest item.observedAt) event.observedAt
  appended.filter fun item =>
    decide (newest - seconds windowSeconds ≤ item.observedAt) &&
      evidenceNotBefore.all fun start => decide (start ≤ item.observedAt)

def add (recent : RecentObservationState) (event : RfidObservationEvent) (windowSeconds : ℕ)
    (evidenceNotBefore : Option Time) : List RfidObservationEvent × RecentObservationState :=
  let window := (recent.windows.get? event.windowKey).getD []
  let kept := retained window event windowSeconds evidenceNotBefore
  let windows := ((recent.windows.set event.windowKey window).moveToEnd event.windowKey).set
    event.windowKey kept
  (kept,{ recent with
    windows := if recent.maximumEpcs < windows.rows.length then windows.popFirst else windows })

end RecentObservationState

structure RecentObservationCheckpoint where
  eventKey : Uuid × EventId
  eventPreexisting : Bool
  oldestEventKey : Option (Uuid × EventId)
  windowKey : Uuid × Epc
  windowBefore : Option (List RfidObservationEvent)
  oldestWindow : Option ((Uuid × Epc) × List RfidObservationEvent)

namespace RecentObservationState

/-- The bounded state one event can change before a database transaction. -/
def checkpoint (recent : RecentObservationState) (event : RfidObservationEvent) :
    RecentObservationCheckpoint where
  eventKey := event.eventKey
  eventPreexisting := recent.eventIds.contains event.eventKey
  oldestEventKey := recent.eventIds.first?.map Prod.fst
  windowKey := event.windowKey
  windowBefore := recent.windows.get? event.windowKey
  oldestWindow := recent.windows.first?

def restoreEventIds (eventIds : OrderedDict (Uuid × EventId) Unit)
    (checkpoint : RecentObservationCheckpoint) : OrderedDict (Uuid × EventId) Unit :=
  let eventIds :=
    if checkpoint.eventPreexisting then eventIds.set checkpoint.eventKey ()
    else eventIds.erase checkpoint.eventKey
  match checkpoint.oldestEventKey with
  | none => eventIds
  | some oldest => (eventIds.set oldest ()).moveToFront oldest

def restoreWindows (windows : OrderedDict (Uuid × Epc) (List RfidObservationEvent))
    (checkpoint : RecentObservationCheckpoint) :
    OrderedDict (Uuid × Epc) (List RfidObservationEvent) :=
  let windows :=
    match checkpoint.windowBefore with
    | none => windows.erase checkpoint.windowKey
    | some before => windows.set checkpoint.windowKey before
  match checkpoint.oldestWindow with
  | none => windows
  | some (oldestKey,oldestValues) =>
      let windows :=
        if oldestKey ≠ checkpoint.windowKey ∨ checkpoint.windowBefore.isSome then
          windows.set oldestKey oldestValues
        else windows
      windows.moveToFront oldestKey

def restore (recent : RecentObservationState) (checkpoint : RecentObservationCheckpoint) :
    RecentObservationState :=
  { recent with
    eventIds := restoreEventIds recent.eventIds checkpoint
    windows := restoreWindows recent.windows checkpoint }

end RecentObservationState

end Windows

section Inference

/-- `statistics.median`. -/
def median (values : List ℚ) : ℚ :=
  let sorted := values.insertionSort (· ≤ ·)
  let half := sorted.length / 2
  if sorted.length % 2 = 1 then sorted.getD half 0
  else (sorted.getD (half - 1) 0 + sorted.getD half 0) / 2

/-- `round(value, 4)`, ties to even. -/
def round4 (value : ℚ) : ℚ :=
  let scaled := value * 10000
  let floor := ⌊scaled⌋
  let rest := scaled - floor
  let rounded := if rest < 1 / 2 ∨ (rest = 1 / 2 ∧ floor % 2 = 0) then floor else floor + 1
  rounded / 10000

theorem round4_nonneg {value : ℚ} (nonneg : 0 ≤ value) : 0 ≤ round4 value := by
  have floor : (0 : ℤ) ≤ ⌊value * 10000⌋ := Int.floor_nonneg.mpr (by positivity)
  have rounded : ∀ p : Prop, [Decidable p] → (0 : ℤ) ≤
      if p then ⌊value * 10000⌋ else ⌊value * 10000⌋ + 1 := by
    intro p _
    split <;> omega
  exact div_nonneg (by exact_mod_cast rounded _) (by norm_num)

theorem round4_le_one {value : ℚ} (bound : value ≤ 1) : round4 value ≤ 1 := by
  unfold round4
  rw [div_le_one (by norm_num)]
  have floor : (⌊value * 10000⌋ : ℚ) ≤ value * 10000 := Int.floor_le _
  split
  · linarith
  · rename_i above
    have strict : ⌊value * 10000⌋ < 10000 := by
      by_contra large
      have large : (10000 : ℚ) ≤ ⌊value * 10000⌋ := by exact_mod_cast not_lt.mp large
      apply above
      left
      linarith
    exact_mod_cast Int.add_one_le_iff.mpr strict

structure StableZoneDecision where
  location : Location
  confidence : Confidence
  observedAt : Time
  receivedAt : Time
deriving DecidableEq

def RfidObservationEvent.location (event : RfidObservationEvent) : Location :=
  ⟨event.storeId,event.zoneId⟩

structure Group where
  location : Location
  reads : List RfidObservationEvent

def Group.median (group : Group) : ℚ := Abacus.median (group.reads.map RfidObservationEvent.rssi)

/-- The descending order of `(len, median, str(zone_id))`. -/
def Group.ranksAtLeast (left right : Group) : Bool :=
  if left.reads.length ≠ right.reads.length then decide (right.reads.length < left.reads.length)
  else if left.median ≠ right.median then decide (right.median < left.median)
  else decide (right.location.zoneId ≤ left.location.zoneId)

def ranked (observations : List RfidObservationEvent) : List Group :=
  ((OrderedDict.groupBy RfidObservationEvent.location observations).rows.map fun entry => Group.mk entry.1 entry.2).insertionSort
    fun left right => left.ranksAtLeast right

/-- Python's `<` on `(observed_at, received_at, event_id)`. -/
def RfidObservationEvent.olderThan (left right : RfidObservationEvent) : Bool :=
  if left.observedAt ≠ right.observedAt then decide (left.observedAt < right.observedAt)
  else if left.receivedAt ≠ right.receivedAt then decide (left.receivedAt < right.receivedAt)
  else decide (left.eventId < right.eventId)

def newestOf (first : RfidObservationEvent) (rest : List RfidObservationEvent) :
    RfidObservationEvent :=
  rest.foldl (fun newest item => if newest.olderThan item then item else newest) first

/-- `_confidence`, with the clamp and the rounding it ends with. -/
def observationConfidence (readCount requiredReads : ℕ) (rssiSeparation : Option ℚ)
    (newest : RfidObservationEvent) (windowSeconds : ℕ) : Confidence :=
  let consistency := min 1 ((readCount : ℚ) / requiredReads)
  let separation := match rssiSeparation with
    | none => 1
    | some separation => min 1 (max 0 separation / 12)
  let age : ℚ := max 0 ((newest.receivedAt - newest.observedAt : ℤ) / 1000000)
  let recency := max 0 (1 - age / windowSeconds)
  let score := 40 / 100 * consistency + 25 / 100 * separation + 25 / 100 * recency +
    10 / 100 * newest.readerHealth.val
  ⟨round4 (Confidence.clamp score),round4_nonneg (Confidence.clamp score).2.1,
    round4_le_one (Confidence.clamp score).2.2⟩

/-- `infer_stable_zone` under the two settings that it reads. -/
def inferZone (observations : List RfidObservationEvent) (confirmationReads windowSeconds : ℕ) :
    Option StableZoneDecision :=
  match ranked observations with
  | [] => none
  | winner :: others =>
      match winner.reads with
      | [] => none
      | first :: rest =>
          if winner.reads.length < confirmationReads then none
          else if others.head?.any fun second =>
              decide (winner.reads.length = second.reads.length) &&
                decide (winner.median - second.median < 3) then none
          else
            let newest := newestOf first rest
            some {
              location := winner.location
              confidence := observationConfidence winner.reads.length confirmationReads
                (others.head?.map fun second => winner.median - second.median) newest windowSeconds
              observedAt := newest.observedAt
              receivedAt := newest.receivedAt }

def inferStableZone (observations : List RfidObservationEvent) (settings : Settings) :
    Option StableZoneDecision :=
  inferZone observations settings.rfidMoveConfirmationReads
    settings.rfidMoveConfirmationWindowSeconds

end Inference

end Abacus
