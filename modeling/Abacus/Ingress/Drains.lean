import Abacus.Ingress.Attempts

/-! The steps of one pass over the pending raw rows: each row is tried once, a terminal failure lets
the pass go on, and what a step committed is there when the pass ends.
-/
set_option autoImplicit false

namespace Abacus

open Relational (Table)

section Attempts

variable {platform : Platform} {settings : Settings} {state after : RawState} {eventId : EventId}

def Ingress.Below (ingress : Ingress) (settings : Settings) : Prop :=
  ∀ row ∈ ingress.outbox.rows, row.publishedAt = none →
    row.publishAttempts < settings.workerMaxAttempts

structure RawState.Fit (state : RawState) (settings : Settings) : Prop where
  sound : state.Sound
  below : state.database.ingress.Below settings

theorem Ingress.Below.row {ingress : Ingress} (below : ingress.Below settings)
    {row : RfidObservationOutbox} (unpublished : unpublishedRow ingress eventId = some row) :
    row.publishAttempts < settings.workerMaxAttempts := by
  obtain ⟨stored,open_⟩ := unpublishedRow_eq_some.mp unpublished
  exact below row (Table.mem_of_find? stored) open_

/-- A row that advances is published or still has attempts left. -/
theorem Ingress.Below.advance {ingress later : Ingress} (below : ingress.Below settings)
    {row next : RfidObservationOutbox} (advances : ingress.Advances later eventId row next)
    (left : next.publishedAt = none → next.publishAttempts < settings.workerMaxAttempts) :
    later.Below settings := by
  intro other member open_
  have found := Table.find?_of_mem member
  by_cases same : other.eventId = eventId
  · rw [same,advances.stored] at found
    cases found
    exact left open_
  · rw [advances.spares.outbox _ same] at found
    exact below other (Table.mem_of_find? found) open_

/-- What one iteration of the loop over the pending rows does. -/
inductive RawState.Tries (settings : Settings) (state : RawState) (eventId : EventId) :
    RawOutcome → RawState → Prop where
  | absent (outcome : RawOutcome)
      (gone : unpublishedRow state.database.ingress eventId = none)
      (named : outcome = .skipped ∨ outcome = .lost) : Tries settings state eventId outcome state
  | handled (outcome : RawOutcome) (after : RawState) (row later : RfidObservationOutbox)
      (unpublished : unpublishedRow state.database.ingress eventId = some row)
      (advances : state.database.ingress.Advances after.database.ingress eventId row later)
      (published : later.publishedAt.isSome = true)
      (named : outcome = .published ∨ outcome = .lost) : Tries settings state eventId outcome after
  | counted (after : RawState) (row later : RfidObservationOutbox)
      (unpublished : unpublishedRow state.database.ingress eventId = some row)
      (advances : state.database.ingress.Advances after.database.ingress eventId row later)
      (alone : after.database = { state.database with ingress := after.database.ingress })
      (below : row.publishAttempts + 1 < settings.workerMaxAttempts)
      (waits : later.publishedAt = none) : Tries settings state eventId .counted after
  | terminalized (after : RawState) (row later : RfidObservationOutbox)
      (unpublished : unpublishedRow state.database.ingress eventId = some row)
      (advances : state.database.ingress.Advances after.database.ingress eventId row later)
      (alone : after.database = { state.database with ingress := after.database.ingress })
      (last : row.publishAttempts + 1 = settings.workerMaxAttempts)
      (published : later.publishedAt.isSome = true)
      (exhausted : after.database.ingress.Exhausted settings eventId) :
      Tries settings state eventId .terminalized after

theorem RawState.Tries.below {outcome : RawOutcome}
    (tries : state.Tries settings eventId outcome after)
    (below : state.database.ingress.Below settings) : after.database.ingress.Below settings := by
  cases tries with
  | absent outcome gone named => exact below
  | handled outcome after row later unpublished advances published named =>
      refine below.advance advances fun open_ => ?_
      rw [open_] at published
      cases published
  | counted after row later unpublished advances alone less waits =>
      refine below.advance advances fun _ => ?_
      rw [advances.attempts]
      exact less
  | terminalized after row later unpublished advances alone last published exhausted =>
      refine below.advance advances fun open_ => ?_
      rw [open_] at published
      cases published

theorem committed_eq_some {attempt : RawAttempt} {database : Database}
    {recent : RecentObservationState}
    (committed : attempt.committed platform settings state eventId = some (database,recent)) :
    handleRaw platform settings state.database state.recent eventId attempt.clock
      attempt.quarantineId attempt.evidenceId = .ok (database,recent) := by
  unfold RawAttempt.committed at committed
  split at committed
  · cases committed
  · cases handled : handleRaw platform settings state.database state.recent eventId attempt.clock
      attempt.quarantineId attempt.evidenceId with
    | error failure =>
        rw [handled] at committed
        cases committed
    | ok reached =>
        rw [handled] at committed
        cases committed
        rfl

theorem attemptRaw_tries {attempt : RawAttempt} {outcome : RawOutcome} (fit : state.Fit settings)
    (attempted : attemptRaw platform settings state eventId attempt = .ok (outcome,after)) :
    state.Tries settings eventId outcome after ∧ after.Sound := by
  unfold attemptRaw at attempted
  cases unpublished : unpublishedRow state.database.ingress eventId with
  | none =>
      rw [unpublished] at attempted
      cases attempted
      refine ⟨.absent _ unpublished ?_,fit.sound⟩
      by_cases fine : attempt.fault = none
      · rw [if_pos fine]
        exact .inl rfl
      · rw [if_neg fine]
        exact .inr rfl
  | some row =>
      rw [unpublished] at attempted
      dsimp only at attempted
      cases committed : attempt.committed platform settings state eventId with
      | some reached =>
          obtain ⟨database,recent⟩ := reached
          rw [committed] at attempted
          dsimp only at attempted
          have handled := committed_eq_some committed
          have advances := handleRaw_advances fit.sound.lockstep unpublished handled
          obtain ⟨lockstep,keeps⟩ := handleRaw_lockstep fit.sound.lockstep handled
          have stored := fun other member => keeps other (fit.sound.stored other member)
          split at attempted
          · cases attempted
            exact ⟨.handled _ _ row _ unpublished advances rfl (.inl rfl),lockstep,stored⟩
          · cases attempted
            exact ⟨.handled _ _ row _ unpublished advances rfl (.inr rfl),lockstep,stored⟩
      | none =>
          rw [committed] at attempted
          obtain ⟨ingress,failed,done⟩ := bind_eq_ok.mp attempted
          obtain ⟨later,advances,verdict⟩ := failRaw_advances fit.sound.lockstep unpublished
            (fit.below.row unpublished) failed
          obtain ⟨lockstep,keeps⟩ := failRaw_lockstep fit.sound.lockstep failed
          have stored := fun other member => keeps other (fit.sound.stored other member)
          rcases verdict with ⟨less,waits⟩ | ⟨last,published,exhausted⟩
          · rw [if_neg (by omega)] at done
            cases done
            exact ⟨.counted _ row later unpublished advances rfl less waits,lockstep,stored⟩
          · rw [if_pos (by omega)] at done
            cases done
            exact ⟨.terminalized _ row later unpublished advances rfl last published exhausted,
              lockstep,stored⟩

theorem attemptRaw_fit {attempt : RawAttempt} {outcome : RawOutcome} (fit : state.Fit settings)
    (attempted : attemptRaw platform settings state eventId attempt = .ok (outcome,after)) :
    state.Tries settings eventId outcome after ∧ after.Fit settings := by
  obtain ⟨tries,sound⟩ := attemptRaw_tries fit attempted
  exact ⟨tries,sound,tries.below fit.below⟩

end Attempts

section Drains

variable {platform : Platform} {settings : Settings} {attempts : EventId → RawAttempt}
  {state after : RawState} {ids : List EventId} {steps : List RawStep} {eventId : EventId}

structure Ingress.SameAt (ingress after : Ingress) (eventId : EventId) : Prop where
  outbox : after.outbox.find? eventId = ingress.outbox.find? eventId
  ledger : after.ledger.find? eventId = ingress.ledger.find? eventId
  quarantine : ∀ row ∈ ingress.quarantine.rows, row ∈ after.quarantine.rows

theorem Ingress.SameAt.refl (ingress : Ingress) (eventId : EventId) :
    ingress.SameAt ingress eventId :=
  ⟨rfl,rfl,fun _ => id⟩

theorem Ingress.SameAt.trans {first second third : Ingress} (one : first.SameAt second eventId)
    (two : second.SameAt third eventId) : first.SameAt third eventId :=
  ⟨two.outbox.trans one.outbox,two.ledger.trans one.ledger,
    fun row member => two.quarantine row (one.quarantine row member)⟩

theorem Ingress.Spares.sameAt {ingress after : Ingress} {other : EventId}
    (spares : ingress.Spares after eventId) (apart : other ≠ eventId) :
    ingress.SameAt after other :=
  ⟨spares.outbox other apart,spares.ledger other apart,spares.quarantine⟩

theorem Ingress.SameAt.unpublishedRow {ingress after : Ingress}
    (same : ingress.SameAt after eventId) :
    unpublishedRow after eventId = unpublishedRow ingress eventId := by
  rw [Abacus.unpublishedRow,Abacus.unpublishedRow,same.outbox]

theorem RawState.Tries.spares {outcome : RawOutcome}
    (tries : state.Tries settings eventId outcome after) :
    state.database.ingress.Spares after.database.ingress eventId := by
  cases tries with
  | absent outcome gone named => exact .refl _ _
  | handled outcome after row later unpublished advances published named => exact advances.spares
  | counted after row later unpublished advances alone below waits => exact advances.spares
  | terminalized after row later unpublished advances alone last published exhausted =>
      exact advances.spares

/-- A failing step writes nothing but raw-event records. -/
theorem RawState.Tries.alone {outcome : RawOutcome}
    (tries : state.Tries settings eventId outcome after) (fails : outcome.fails = true) :
    after.database = { state.database with ingress := after.database.ingress } := by
  cases tries with
  | absent outcome gone named => rfl
  | handled outcome after row later unpublished advances published named =>
      rcases named with rfl | rfl
      · cases fails
      · cases fails
  | counted after row later unpublished advances alone below waits => exact alone
  | terminalized after row later unpublished advances alone last published exhausted => exact alone

/-- The steps of a pass over the given rows. -/
inductive RawState.Drains (settings : Settings) :
    RawState → List EventId → List RawStep → RawState → Prop where
  | done (state : RawState) : Drains settings state [] [] state
  | stopped (state : RawState) (eventId : EventId) (rest : List EventId) (outcome : RawOutcome)
      (after : RawState) (tried : state.Tries settings eventId outcome after)
      (stops : outcome.stops = true) :
      Drains settings state (eventId :: rest) [⟨state,eventId,outcome,after⟩] after
  | continued (state : RawState) (eventId : EventId) (rest : List EventId) (outcome : RawOutcome)
      (middle : RawState) (steps : List RawStep) (after : RawState)
      (tried : state.Tries settings eventId outcome middle) (goes : outcome.stops = false)
      (others : Drains settings middle rest steps after) :
      Drains settings state (eventId :: rest) (⟨state,eventId,outcome,middle⟩ :: steps) after

theorem drainRaw_drains (fit : state.Fit settings)
    (drained : drainRaw platform settings attempts state ids = .ok (steps,after)) :
    state.Drains settings ids steps after ∧ after.Fit settings := by
  induction ids generalizing state steps with
  | nil =>
      cases drained
      exact ⟨.done _,fit⟩
  | cons eventId rest ih =>
      obtain ⟨⟨outcome,middle⟩,attempted,drained⟩ := bind_eq_ok.mp drained
      obtain ⟨tried,still⟩ := attemptRaw_fit fit attempted
      dsimp only at drained
      cases stops : outcome.stops with
      | true =>
          rw [if_pos stops] at drained
          cases drained
          exact ⟨.stopped _ _ _ _ _ tried stops,still⟩
      | false =>
          rw [if_neg (by rw [stops]; decide)] at drained
          obtain ⟨⟨others,final⟩,rest_drained,done⟩ := bind_eq_ok.mp drained
          cases done
          obtain ⟨drains,still⟩ := ih still rest_drained
          exact ⟨.continued _ _ _ _ _ _ _ tried stops drains,still⟩

/-- A pass gets to all its rows, unless it ends with a failure that is not terminal. -/
theorem RawState.Drains.listed (drains : state.Drains settings ids steps after) :
    ∃ rest, ids = steps.map RawStep.eventId ++ rest ∧
      (rest = [] ∨ ∃ last, steps.getLast? = some last ∧ last.outcome.stops = true) := by
  induction drains with
  | done state => exact ⟨[],rfl,.inl rfl⟩
  | stopped state eventId rest outcome after tried stops =>
      exact ⟨rest,rfl,.inr ⟨_,rfl,stops⟩⟩
  | continued state eventId rest outcome middle steps after tried goes others ih =>
      obtain ⟨left,listed,ending⟩ := ih
      refine ⟨left,by rw [listed]; rfl,ending.imp id ?_⟩
      rintro ⟨last,ends,stops⟩
      refine ⟨last,?_,stops⟩
      rw [List.getLast?_cons,ends]
      rfl

theorem RawState.Drains.tried (drains : state.Drains settings ids steps after) :
    ∀ step ∈ steps, step.before.Tries settings step.eventId step.outcome step.after := by
  induction drains with
  | done state =>
      intro step member
      cases member
  | stopped state eventId rest outcome after tried stops =>
      intro step member
      rw [List.mem_singleton.mp member]
      exact tried
  | continued state eventId rest outcome middle steps after tried goes others ih =>
      intro step member
      rcases List.mem_cons.mp member with rfl | later
      · exact tried
      · exact ih step later

theorem RawState.Drains.untouched (drains : state.Drains settings ids steps after)
    (absent : eventId ∉ steps.map RawStep.eventId) :
    state.database.ingress.SameAt after.database.ingress eventId := by
  induction drains with
  | done state => exact .refl _ _
  | stopped state other rest outcome after tried stops =>
      refine tried.spares.sameAt fun same => absent ?_
      rw [same]
      exact List.mem_cons_self
  | continued state other rest outcome middle steps after tried goes others ih =>
      rw [List.map_cons,List.mem_cons,not_or] at absent
      exact (tried.spares.sameAt absent.1).trans (ih absent.2)

/-- A row has at most one step in a pass: until then it is as before the pass, and from then on as
after it. -/
theorem RawState.Drains.alone (drains : state.Drains settings ids steps after)
    (distinct : (steps.map RawStep.eventId).Nodup) : ∀ step ∈ steps,
    state.database.ingress.SameAt step.before.database.ingress step.eventId ∧
      step.after.database.ingress.SameAt after.database.ingress step.eventId := by
  induction drains with
  | done state =>
      intro step member
      cases member
  | stopped state eventId rest outcome after tried stops =>
      intro step member
      rw [List.mem_singleton.mp member]
      exact ⟨.refl _ _,.refl _ _⟩
  | continued state eventId rest outcome middle steps after tried goes others ih =>
      rw [List.map_cons,List.nodup_cons] at distinct
      intro step member
      rcases List.mem_cons.mp member with rfl | later
      · exact ⟨.refl _ _,others.untouched distinct.1⟩
      · obtain ⟨before,final⟩ := ih distinct.2 step later
        refine ⟨(tried.spares.sameAt fun same => distinct.1 ?_).trans before,final⟩
        exact List.mem_map.mpr ⟨step,later,same⟩

end Drains

section Passes

variable {platform : Platform} {settings : Settings} {attempts : EventId → RawAttempt}
  {state after : RawState} {ids : List EventId} {steps : List RawStep} {eventId : EventId}
  {limit : ℕ}

theorem pendingRawEvents_nodup (ingress : Ingress) (limit : ℕ) :
    (pendingRawEvents ingress limit).Nodup := by
  unfold pendingRawEvents
  refine List.Nodup.sublist (List.take_sublist _ _) ?_
  refine ((List.perm_insertionSort _ _).map RfidObservationOutbox.eventId).nodup_iff.mpr ?_
  exact List.Nodup.sublist (List.filter_sublist.map _) ingress.outbox.unique

theorem unpublished_of_pending {ingress : Ingress}
    (pending : eventId ∈ pendingRawEvents ingress limit) :
    ∃ row, unpublishedRow ingress eventId = some row := by
  obtain ⟨row,sorted,rfl⟩ := List.mem_map.mp (List.mem_of_mem_take pending)
  obtain ⟨member,open_⟩ := Table.mem_select.mp ((List.perm_insertionSort _ _).mem_iff.mp sorted)
  exact ⟨row,unpublishedRow_eq_some.mpr
    ⟨Table.find?_of_mem member,Option.isNone_iff_eq_none.mp open_⟩⟩

/-- A pass without pending rows finds everything published. -/
theorem published_of_idle {ingress : Ingress} (positive : 1 ≤ limit)
    (idle : pendingRawEvents ingress limit = []) :
    ∀ row ∈ ingress.outbox.rows, row.publishedAt.isSome = true := by
  intro row member
  cases published : row.publishedAt with
  | some _ => rfl
  | none =>
      have selected : row ∈ ingress.outbox.select fun row => row.publishedAt.isNone :=
        Table.mem_select.mpr ⟨member,by rw [published]; rfl⟩
      have listed := List.mem_map_of_mem (f := RfidObservationOutbox.eventId)
        ((List.perm_insertionSort (fun left right : RfidObservationOutbox =>
          left.acceptanceSequence ≤ right.acceptanceSequence) _).mem_iff.mpr selected)
      rcases List.take_eq_nil_iff.mp idle with zero | empty
      · omega
      · rw [empty] at listed
        cases listed

theorem rawPass_drains (fit : state.Fit settings)
    (passed : rawPass platform settings state limit attempts = .ok (steps,after)) :
    state.Drains settings (pendingRawEvents state.database.ingress limit) steps after ∧
      (steps.map RawStep.eventId).Nodup ∧ after.Fit settings := by
  obtain ⟨drains,still⟩ := drainRaw_drains fit passed
  obtain ⟨rest,listed,-⟩ := drains.listed
  have distinct := pendingRawEvents_nodup state.database.ingress limit
  rw [listed] at distinct
  exact ⟨drains,(List.nodup_append.mp distinct).1,still⟩

theorem Ingress.Advances.attemptsLeft {ingress later : Ingress} {row next : RfidObservationOutbox}
    (advances : ingress.Advances later eventId row next) (open_ : row.publishedAt = none)
    (below : row.publishAttempts < settings.workerMaxAttempts) :
    later.attemptsLeft settings < ingress.attemptsLeft settings := by
  have moved := advances.total fun row =>
    if row.publishedAt = none then settings.workerMaxAttempts - row.publishAttempts else 0
  have counts := advances.attempts
  rw [if_pos open_] at moved
  rw [Ingress.attemptsLeft,Ingress.attemptsLeft]
  split at moved <;> omega

/-- An attempt at an unpublished row uses one of the attempts up, or publishes the row. -/
theorem RawState.Tries.attemptsLeft_lt {outcome : RawOutcome} {row : RfidObservationOutbox}
    (tries : state.Tries settings eventId outcome after) (below : state.database.ingress.Below settings)
    (unpublished : unpublishedRow state.database.ingress eventId = some row) :
    after.database.ingress.attemptsLeft settings < state.database.ingress.attemptsLeft settings := by
  have drop : ∀ {first next : RfidObservationOutbox},
      unpublishedRow state.database.ingress eventId = some first →
      state.database.ingress.Advances after.database.ingress eventId first next →
      after.database.ingress.attemptsLeft settings <
        state.database.ingress.attemptsLeft settings := by
    intro first next here advances
    exact advances.attemptsLeft (unpublishedRow_eq_some.mp here).2 (below.row here)
  cases tries with
  | absent outcome gone named =>
      rw [gone] at unpublished
      cases unpublished
  | handled outcome after row later here advances published named => exact drop here advances
  | counted after row later here advances alone less waits => exact drop here advances
  | terminalized after row later here advances alone last published exhausted =>
      exact drop here advances

theorem RawState.Tries.attemptsLeft_le {outcome : RawOutcome}
    (tries : state.Tries settings eventId outcome after)
    (below : state.database.ingress.Below settings) :
    after.database.ingress.attemptsLeft settings ≤ state.database.ingress.attemptsLeft settings := by
  cases unpublished : unpublishedRow state.database.ingress eventId with
  | some row => exact (tries.attemptsLeft_lt below unpublished).le
  | none =>
      cases tries with
      | absent outcome gone named => exact le_rfl
      | handled outcome after row later here advances published named =>
          rw [unpublished] at here
          cases here
      | counted after row later here advances alone less waits =>
          rw [unpublished] at here
          cases here
      | terminalized after row later here advances alone last published exhausted =>
          rw [unpublished] at here
          cases here

theorem RawState.Drains.attemptsLeft_le (drains : state.Drains settings ids steps after)
    (below : state.database.ingress.Below settings) :
    after.database.ingress.attemptsLeft settings ≤ state.database.ingress.attemptsLeft settings := by
  induction drains with
  | done state => exact le_rfl
  | stopped state eventId rest outcome after tried stops => exact tried.attemptsLeft_le below
  | continued state eventId rest outcome middle steps after tried goes others ih =>
      exact (ih (tried.below below)).trans (tried.attemptsLeft_le below)

/-- The first step of a pass is at the first pending row. -/
theorem RawState.Drains.first {first : EventId} {others : List EventId}
    (drains : state.Drains settings (first :: others) steps after) :
    ∃ outcome middle more, steps = ⟨state,first,outcome,middle⟩ :: more ∧
      state.Tries settings first outcome middle ∧ (outcome.stops = true → more = []) ∧
      ∃ rest, middle.Drains settings rest more after := by
  cases drains with
  | stopped state eventId rest outcome after tried stops =>
      exact ⟨outcome,_,[],rfl,tried,fun _ => rfl,[],.done _⟩
  | continued state eventId rest outcome middle steps after tried goes others =>
      refine ⟨outcome,middle,steps,rfl,tried,fun stops => ?_,_,others⟩
      rw [goes] at stops
      cases stops

/-- A pass with pending rows uses an attempt up, or publishes a row. -/
theorem RawState.Drains.attemptsLeft_lt {first : EventId} {others : List EventId}
    (drains : state.Drains settings (first :: others) steps after)
    (below : state.database.ingress.Below settings) {row : RfidObservationOutbox}
    (unpublished : unpublishedRow state.database.ingress first = some row) :
    after.database.ingress.attemptsLeft settings < state.database.ingress.attemptsLeft settings := by
  obtain ⟨outcome,middle,more,-,tried,-,rest,later⟩ := drains.first
  exact (later.attemptsLeft_le (tried.below below)).trans_lt (tried.attemptsLeft_lt below unpublished)

/-- Every pass publishes its first row, or counts an attempt at it and ends. -/
theorem RawState.Drains.first_row {first : EventId} {others : List EventId}
    (drains : state.Drains settings (first :: others) steps after)
    (distinct : (steps.map RawStep.eventId).Nodup) {row : RfidObservationOutbox}
    (unpublished : unpublishedRow state.database.ingress first = some row) :
    ∃ later, after.database.ingress.outbox.find? first = some later ∧
      later.publishAttempts = row.publishAttempts + 1 ∧
      (later.publishedAt.isSome = true ∨
        later.publishedAt = none ∧ steps.map RawStep.outcome = [.counted]) := by
  obtain ⟨outcome,middle,more,rfl,tried,ends,-⟩ := drains.first
  have kept := (drains.alone distinct _ List.mem_cons_self).2.outbox
  dsimp only at kept
  cases tried with
  | absent outcome gone named =>
      rw [gone] at unpublished
      cases unpublished
  | handled outcome middle found later here advances published named =>
      rw [unpublished] at here
      cases here
      exact ⟨later,kept.trans advances.stored,advances.attempts,.inl published⟩
  | counted middle found later here advances alone less waits =>
      rw [unpublished] at here
      cases here
      refine ⟨later,kept.trans advances.stored,advances.attempts,.inr ⟨waits,?_⟩⟩
      rw [ends rfl]
      rfl
  | terminalized middle found later here advances alone last published exhausted =>
      rw [unpublished] at here
      cases here
      exact ⟨later,kept.trans advances.stored,advances.attempts,.inl published⟩

end Passes

end Abacus
