import Abacus.Ingress.RawEvents

/-! The raw half of a worker's pass (`process_tenant_once`): the pending rows of a tenant one by one,
each in a transaction of its own, with a bookkeeping transaction after a failure.
Whatever can go wrong with a row in a pass is given with the pass.
-/
set_option autoImplicit false

namespace Abacus

open Relational (Table)
open Transition (Machine)

/-- A failure of the transaction, or of hearing that it was committed. -/
inductive Fault where
  | beforeCommit | afterCommit
deriving DecidableEq, Repr

/-- One attempt at a row: the values it draws, and how it fails if it does. -/
structure RawAttempt where
  clock : Clock
  quarantineId : Uuid
  evidenceId : Uuid
  fault : Option Fault
  progress : Progress
  error : String
  terminalId : Uuid
  failedAt : Time

inductive RawOutcome where
  | skipped | published | counted | terminalized | lost
deriving DecidableEq, Repr

def RawOutcome.stops : RawOutcome → Bool
  | .counted | .lost => true
  | .skipped | .published | .terminalized => false

def RawOutcome.fails : RawOutcome → Bool
  | .counted | .terminalized => true
  | .skipped | .published | .lost => false

structure RawStep where
  before : RawState
  eventId : EventId
  outcome : RawOutcome
  after : RawState

section Pass

variable (platform : Platform) (settings : Settings)

def RawAttempt.committed (attempt : RawAttempt) (state : RawState) (eventId : EventId) :
    Option (Database × RecentObservationState) :=
  if attempt.fault = some .beforeCommit then none
  else (handleRaw platform settings state.database state.recent eventId attempt.clock
    attempt.quarantineId attempt.evidenceId).toOption

def restored (before reached : RecentObservationState) : StoredPayload → RecentObservationState
  | .invalid => before
  | .event event => reached.restore (before.checkpoint event)

/-- One iteration of the loop over the pending rows. It fails only if the bookkeeping does. -/
def attemptRaw (state : RawState) (eventId : EventId) (attempt : RawAttempt) :
    Attempt (RawOutcome × RawState) :=
  match unpublishedRow state.database.ingress eventId with
  | none => .ok (if attempt.fault = none then .skipped else .lost,state)
  | some row =>
      match attempt.committed platform settings state eventId with
      | some (database,recent) =>
          if attempt.fault = none then .ok (.published,{ state with database, recent })
          else .ok (.lost,{ state with database, recent := restored state.recent recent row.payload })
      | none => do
          let ingress ← failRaw settings state.database.registry state.database.ingress eventId
            attempt.error attempt.terminalId attempt.failedAt
          return (if settings.workerMaxAttempts ≤ row.publishAttempts + 1 then .terminalized
              else .counted,
            { state with
              database := { state.database with ingress }
              recent := rolledBack state.recent row.payload attempt.progress })

def drainRaw (attempts : EventId → RawAttempt) :
    RawState → List EventId → Attempt (List RawStep × RawState)
  | state, [] => .ok ([],state)
  | state, eventId :: rest => do
      let (outcome,after) ← attemptRaw platform settings state eventId (attempts eventId)
      if outcome.stops then return ([⟨state,eventId,outcome,after⟩],after)
      else do
        let (steps,final) ← drainRaw attempts after rest
        return (⟨state,eventId,outcome,after⟩ :: steps,final)

def rawPass (state : RawState) (limit : ℕ) (attempts : EventId → RawAttempt) :
    Attempt (List RawStep × RawState) :=
  drainRaw platform settings attempts state (pendingRawEvents state.database.ingress limit)

end Pass

/-- A payload that the worker's schema does not accept. -/
def RfidObservationOutbox.poison (row : RfidObservationOutbox) : RfidObservationOutbox :=
  { row with payload := .invalid }

@[simp] theorem RfidObservationOutbox.poison_eventId (row : RfidObservationOutbox) :
    row.poison.eventId = row.eventId := rfl

def Ingress.poison (ingress : Ingress) (eventId : EventId) : Ingress :=
  { ingress with
    outbox := ingress.outbox.modify eventId RfidObservationOutbox.poison
      RfidObservationOutbox.poison_eventId }

/-- The pipeline, and the steps of every pass so far. -/
structure PassState where
  raw : RawState
  passes : List (List RawStep)

/-- Between its passes the worker changes no row. -/
inductive PassEvent where
  | pass (limit : ℕ) (attempts : EventId → RawAttempt)
  | between (event : RawEvent)
  | poison (eventId : EventId)

def RawEvent.isWorkers : RawEvent → Bool
  | .handle .. | .fail .. => true
  | _ => false

def PassState.next (platform : Platform) (settings : Settings) (state : PassState) :
    PassEvent → Option PassState
  | .pass limit attempts =>
      match rawPass platform settings state.raw limit attempts with
      | .error _ => none
      | .ok (steps,raw) => some ⟨raw,state.passes ++ [steps]⟩
  | .between event =>
      if event.isWorkers then none
      else some { state with raw := state.raw.next platform settings event }
  | .poison eventId =>
      some { state with
        raw := state.raw.withIngress (state.raw.database.ingress.poison eventId) }

def workerPasses (platform : Platform) (settings : Settings) : Machine PassState PassEvent where
  initial state := state.raw.database.ingress = Ingress.empty ∧ state.raw.accepted = [] ∧
    state.passes = []
  next := PassState.next platform settings

def PassEvent.replays (state : PassState) (eventId : EventId) : PassEvent → Bool
  | .between (.replay quarantineId) =>
      (state.raw.database.ingress.quarantine.find? quarantineId).any fun row =>
        decide (row.eventId = some eventId)
  | _ => false

def RawStep.fails (step : RawStep) (eventId : EventId) : Bool :=
  decide (step.eventId = eventId) && step.outcome.fails

def PassState.failures (state : PassState) (eventId : EventId) : ℕ :=
  state.passes.countP fun steps => steps.any fun step => step.fails eventId

/-- The failures that the unpublished rows can still take. -/
def Ingress.attemptsLeft (ingress : Ingress) (settings : Settings) : ℕ :=
  ingress.outbox.total fun row =>
    if row.publishedAt = none then settings.workerMaxAttempts - row.publishAttempts else 0

end Abacus
