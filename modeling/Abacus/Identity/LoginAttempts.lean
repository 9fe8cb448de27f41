import Abacus.Identity.LoginWindows
import Abacus.Library.Machine

/-! The accounts of the login throttle over whole runs.
The charges of a window are its attempts in flight, and the finished ones whose outcome uses up its
budget.
-/
set_option autoImplicit false

namespace Abacus

open Python (Text)
open Relational (Table)
open Transition (Machine)

section Reservations

open LoginThrottle (Accounted)

/-- The budgets that an outcome uses up: the address's unless the attempt was aborted, and the
account's if authentication failed. -/
def ThrottleKey.retains : ThrottleKey → LoginAttemptOutcome → Bool
  | .ip _,outcome => outcome = .success || outcome = .authenticationFailed
  | .account _,outcome => outcome = .authenticationFailed

structure IssuedReservation where
  reservation : LoginAttemptReservation
  outcome : Option LoginAttemptOutcome
deriving DecidableEq

namespace IssuedReservation

variable {settings : LoginThrottleSettings} {throttle : LoginThrottle} {rest : List Charge}

def madeIn (issued : IssuedReservation) (window : LoginAttemptWindow) : Bool :=
  (issued.reservation.ipKey = window.key && issued.reservation.ipWindow = window.identity) ||
    (issued.reservation.accountKey = window.key &&
      issued.reservation.accountWindow = window.identity)

def inFlightIn (window : LoginAttemptWindow) (issued : IssuedReservation) : Bool :=
  issued.madeIn window && !issued.reservation.finalized

def retainedIn (window : LoginAttemptWindow) (issued : IssuedReservation) : Bool :=
  issued.madeIn window && issued.outcome.any window.key.retains

def charges (issued : IssuedReservation) : List Charge :=
  (if issued.outcome.all issued.reservation.accountKey.retains then
    [(issued.reservation.accountKey,issued.reservation.accountWindow)] else []) ++
  if issued.outcome.all issued.reservation.ipKey.retains then
    [(issued.reservation.ipKey,issued.reservation.ipWindow)] else []

structure Sound (issued : IssuedReservation) : Prop where
  ip : ∃ address, issued.reservation.ipKey = .ip address
  account : ∃ digest, issued.reservation.accountKey = .account digest
  finalized : issued.reservation.finalized = issued.outcome.isSome

def finish (issued : IssuedReservation) (throttle : LoginThrottle) (outcome : LoginAttemptOutcome) :
    LoginThrottle × IssuedReservation :=
  let (throttle,reservation) := throttle.finishAttempt issued.reservation outcome
  (throttle,⟨reservation,issued.outcome.or (some outcome)⟩)

theorem finish_finalized {issued : IssuedReservation} (sound : issued.Sound)
    (finalized : issued.outcome.isSome = true) (outcome : LoginAttemptOutcome) :
    issued.finish throttle outcome = (throttle,issued) := by
  have done := sound.finalized.trans finalized
  obtain ⟨first,same⟩ := Option.isSome_iff_exists.mp finalized
  rw [finish,LoginThrottle.finishAttempt,if_pos done,same]
  cases issued
  cases same
  rfl

/-- Finishing gives back exactly the charges that the outcome does not retain. -/
theorem finish_accounted {issued : IssuedReservation} (sound : issued.Sound)
    (accounted : Accounted settings [] throttle (issued.charges ++ rest))
    (outcome : LoginAttemptOutcome) :
    Accounted settings [] (issued.finish throttle outcome).1
        ((issued.finish throttle outcome).2.charges ++ rest) ∧
      (issued.finish throttle outcome).2.Sound := by
  cases known : issued.outcome with
  | some first =>
      rw [finish_finalized sound (by rw [known]; rfl)]
      exact ⟨accounted,sound⟩
  | none =>
      obtain ⟨⟨ipKey,accountKey,ipWindow,accountWindow,finalized⟩,unknown⟩ := issued
      obtain ⟨⟨address,ip⟩,⟨digest,account⟩,flag⟩ := sound
      dsimp only at known ip account flag
      subst known ip account flag
      have before : Accounted settings [] throttle
        ((.account digest,accountWindow) :: (.ip address,ipWindow) :: rest) := accounted
      have tagged : IssuedReservation.Sound
          ⟨⟨.ip address,.account digest,ipWindow,accountWindow,true⟩,some outcome⟩ :=
        ⟨⟨address,rfl⟩,⟨digest,rfl⟩,rfl⟩
      rw [finish,LoginThrottle.finishAttempt,if_neg (by simp)]
      cases outcome with
      | success =>
          refine ⟨?_,tagged⟩
          simpa [LoginThrottle.retainedKeys,charges,ThrottleKey.retains] using before.release
      | authenticationFailed =>
          refine ⟨?_,tagged⟩
          simpa [LoginThrottle.retainedKeys,charges,ThrottleKey.retains] using before
      | aborted =>
          refine ⟨?_,tagged⟩
          have both := (before.perm (List.Perm.swap ..)).release.release
          simpa [LoginThrottle.retainedKeys,charges,ThrottleKey.retains] using both

theorem count_charges {issued : IssuedReservation} (sound : issued.Sound)
    (window : LoginAttemptWindow) :
    issued.charges.count (window.key,window.identity) =
      (if issued.inFlightIn window then 1 else 0) + if issued.retainedIn window then 1 else 0 := by
  obtain ⟨⟨ipKey,accountKey,ipWindow,accountWindow,finalized⟩,outcome⟩ := issued
  obtain ⟨⟨address,ip⟩,⟨digest,account⟩,flag⟩ := sound
  dsimp only at ip account flag
  subst ip account flag
  obtain ⟨key,identity,startedAt,attempts⟩ := window
  cases key with
  | ip other =>
      cases outcome with
      | none => simp [charges,inFlightIn,retainedIn,madeIn,List.count_cons]
      | some outcome =>
          cases outcome <;>
            simp [charges,inFlightIn,retainedIn,madeIn,ThrottleKey.retains,List.count_cons]
  | account other =>
      cases outcome with
      | none => simp [charges,inFlightIn,retainedIn,madeIn,List.count_cons]
      | some outcome =>
          cases outcome <;>
            simp [charges,inFlightIn,retainedIn,madeIn,ThrottleKey.retains,List.count_cons]

/-- The charges of a window are its attempts in flight and those that finished in its budget. -/
theorem count_flatMap_charges {issued : List IssuedReservation}
    (sound : ∀ one ∈ issued, one.Sound) (window : LoginAttemptWindow) :
    (issued.flatMap charges).count (window.key,window.identity) =
      issued.countP (inFlightIn window) + issued.countP (retainedIn window) := by
  induction issued with
  | nil => rfl
  | cons one issued ih =>
      rw [List.flatMap_cons,List.count_append,count_charges (sound one (List.mem_cons_self ..)),
        ih fun other member => sound other (List.mem_cons_of_mem _ member),List.countP_cons,
        List.countP_cons]
      omega

end IssuedReservation

end Reservations

section Runs

open LoginThrottle (Accounted)

structure LoginState where
  throttle : LoginThrottle
  issued : List IssuedReservation

/-- A call, for a reservation by its place among those given out. -/
inductive LoginCall where
  | beginAttempt (sourceIp tenantCode email : Text) (now : ℚ)
  | finishAttempt (index : ℕ) (outcome : LoginAttemptOutcome)

namespace LoginState

/-- Finishing without a reservation does nothing. -/
def finish (state : LoginState) (index : ℕ) (outcome : LoginAttemptOutcome) : LoginState :=
  match state.issued[index]? with
  | none => state
  | some issued =>
      let (throttle,issued) := issued.finish state.throttle outcome
      ⟨throttle,state.issued.set index issued⟩

def apply (text : LoginText) (settings : LoginThrottleSettings) (state : LoginState) :
    LoginCall → LoginState
  | .beginAttempt sourceIp tenantCode email now =>
      let (throttle,decision) :=
        state.throttle.beginAttempt text settings sourceIp tenantCode email now
      ⟨throttle,state.issued ++ (decision.reservation.map fun one => ⟨one,none⟩).toList⟩
  | .finishAttempt index outcome => state.finish index outcome

def empty : LoginState := ⟨⟨Table.empty,0⟩,[]⟩

structure Sound (settings : LoginThrottleSettings) (state : LoginState) : Prop where
  accounted : Accounted settings [] state.throttle (state.issued.flatMap IssuedReservation.charges)
  issued : ∀ one ∈ state.issued, one.Sound

end LoginState

/-- The throttle under calls in any order, at times in any order. -/
def loginThrottle (text : LoginText) (settings : LoginThrottleSettings) :
    Machine LoginState LoginCall where
  initial state := state = .empty
  next state call := some (state.apply text settings call)

variable {text : LoginText} {settings : LoginThrottleSettings} {state after : LoginState}
  {index : ℕ} {outcome : LoginAttemptOutcome}

namespace LoginState

theorem empty_sound : empty.Sound settings where
  accounted :=
    { bounded := Nat.zero_le _
      counted := fun _ member => (by cases member)
      inBounds := fun _ member => (by cases member)
      identities := fun _ member => (by cases member)
      charged := fun _ member => (by cases member) }
  issued _ member := by cases member

theorem exists_split_of_getElem? {Element : Type} {elements : List Element} {one : Element}
    (met : elements[index]? = some one) : ∃ before later, elements = before ++ one :: later ∧
      ∀ other, elements.set index other = before ++ other :: later := by
  obtain ⟨inside,rfl⟩ := List.getElem?_eq_some_iff.mp met
  refine ⟨elements.take index,elements.drop (index + 1),by simp,?_⟩
  intro other
  rw [List.set_eq_take_append_cons_drop,if_pos inside]

theorem Sound.finish (sound : state.Sound settings) (index : ℕ) (outcome : LoginAttemptOutcome) :
    (state.finish index outcome).Sound settings := by
  unfold LoginState.finish
  split
  · exact sound
  · rename_i issued met
    obtain ⟨before,later,split,replaced⟩ := exists_split_of_getElem? met
    have first : ∀ other, ((before ++ other :: later).flatMap IssuedReservation.charges).Perm
        (other.charges ++ (before.flatMap IssuedReservation.charges ++
          later.flatMap IssuedReservation.charges)) := by
      intro other
      rw [List.flatMap_append,List.flatMap_cons,← List.append_assoc,← List.append_assoc]
      exact List.perm_append_comm.append_right _
    have accounted := sound.accounted
    rw [split] at accounted
    have known : issued.Sound := sound.issued issued (List.mem_of_getElem? met)
    obtain ⟨finished,tagged⟩ :=
      IssuedReservation.finish_accounted known (accounted.perm (first issued)) outcome
    refine ⟨?_,?_⟩
    · dsimp only
      rw [replaced]
      exact finished.perm (first _).symm
    · intro one member
      rcases List.mem_or_eq_of_mem_set member with stays | rfl
      · exact sound.issued one stays
      · exact tagged

theorem Sound.apply (sound : state.Sound settings) (call : LoginCall) :
    (state.apply text settings call).Sound settings := by
  cases call with
  | finishAttempt index outcome => exact sound.finish index outcome
  | beginAttempt sourceIp tenantCode email now =>
      unfold LoginState.apply
      dsimp only
      rcases sound.accounted.beginAttempt text sourceIp tenantCode email now with
        ⟨refused,accounted⟩ | ⟨ipWindow,accountWindow,reserved,accounted⟩
      · rw [refused]
        refine ⟨?_,?_⟩
        · simpa using accounted
        · simpa using sound.issued
      · rw [reserved]
        refine ⟨accounted.perm ?_,?_⟩
        · rw [List.flatMap_append]
          have swapped : ([(accountKey text tenantCode email,accountWindow),
              (ipKey text sourceIp,ipWindow)] ++
                state.issued.flatMap IssuedReservation.charges).Perm _ := List.perm_append_comm
          exact swapped
        · intro one member
          rcases List.mem_append.mp member with stays | new
          · exact sound.issued one stays
          · rw [List.mem_singleton.mp new]
            exact ⟨⟨_,rfl⟩,⟨_,rfl⟩,rfl⟩

def Finalized (state : LoginState) (index : ℕ) : Prop :=
  ∃ issued, state.issued[index]? = some issued ∧ issued.outcome.isSome = true

theorem finish_finalized (inside : index < state.issued.length) (outcome : LoginAttemptOutcome) :
    (state.finish index outcome).Finalized index := by
  unfold LoginState.finish
  rw [List.getElem?_eq_getElem inside]
  refine ⟨_,List.getElem?_set_self inside,?_⟩
  cases known : state.issued[index].outcome <;> simp [IssuedReservation.finish,known]

theorem Finalized.apply (finalized : state.Finalized index) (call : LoginCall) :
    (state.apply text settings call).Finalized index := by
  obtain ⟨issued,met,known⟩ := finalized
  obtain ⟨inside,-⟩ := List.getElem?_eq_some_iff.mp met
  cases call with
  | beginAttempt sourceIp tenantCode email now =>
      exact ⟨issued,(List.getElem?_append_left inside).trans met,known⟩
  | finishAttempt other outcome =>
      by_cases same : other = index
      · subst same
        exact finish_finalized inside outcome
      · unfold LoginState.apply LoginState.finish
        dsimp only
        split
        · exact ⟨issued,met,known⟩
        · exact ⟨issued,(List.getElem?_set_ne same).trans met,known⟩

theorem Finalized.finish (finalized : state.Finalized index) (sound : state.Sound settings)
    (outcome : LoginAttemptOutcome) : state.finish index outcome = state := by
  obtain ⟨issued,met,known⟩ := finalized
  obtain ⟨before,later,split,replaced⟩ := exists_split_of_getElem? met
  have one := sound.issued issued (List.mem_of_getElem? met)
  unfold LoginState.finish
  rw [met]
  dsimp only
  rw [IssuedReservation.finish_finalized one known,replaced,← split]

/-- A key whose stored window the reservation was not made in keeps that window. -/
theorem find?_finish_of_gone {issued : IssuedReservation}
    (met : state.issued[index]? = some issued) (outcome : LoginAttemptOutcome) (key : ThrottleKey)
    (gone : ∀ window ∈ state.throttle.entries.find? key, issued.madeIn window = false) :
    (state.finish index outcome).throttle.entries.find? key =
      state.throttle.entries.find? key := by
  have ip : key = issued.reservation.ipKey →
      ∀ window ∈ state.throttle.entries.find? issued.reservation.ipKey,
        window.identity ≠ issued.reservation.ipWindow := by
    rintro rfl window found same
    have keyed : window.key = issued.reservation.ipKey := Table.key_of_find? found
    have other := gone window found
    simp [IssuedReservation.madeIn,keyed,same] at other
  have account : key = issued.reservation.accountKey →
      ∀ window ∈ state.throttle.entries.find? issued.reservation.accountKey,
        window.identity ≠ issued.reservation.accountWindow := by
    rintro rfl window found same
    have keyed : window.key = issued.reservation.accountKey := Table.key_of_find? found
    have other := gone window found
    simp [IssuedReservation.madeIn,keyed,same] at other
  unfold LoginState.finish
  rw [met]
  exact LoginThrottle.find?_finishAttempt_of_gone outcome ip account

theorem run_finalized {calls : List LoginCall} (finalized : state.Finalized index)
    (ran : (loginThrottle text settings).run state calls = some after) :
    after.Finalized index := by
  have step : ∀ state call after, state.Finalized index →
      (loginThrottle text settings).next state call = some after → after.Finalized index := by
    intro state call after finalized taken
    cases taken
    exact finalized.apply call
  exact Machine.run_invariant step finalized ran

end LoginState

/-- The entries are bounded, every stored window counts its attempts in flight and those finished in
its budget, a second finish does nothing, and finishing leaves a key alone whose stored window is
not the one that the reservation was made in. -/
theorem login_throttle_accounting (reachable : (loginThrottle text settings).Reachable state) :
    state.throttle.entries.rows.length ≤ settings.maxEntries ∧
    (∀ window ∈ state.throttle.entries.rows,
      window.attempts = (state.issued.countP (IssuedReservation.inFlightIn window) : ℤ) +
          state.issued.countP (IssuedReservation.retainedIn window) ∧
        1 ≤ window.attempts ∧ window.attempts ≤ LoginThrottle.limit settings window.key) ∧
    (∀ index first second calls after, index < state.issued.length →
      (loginThrottle text settings).run (state.finish index first) calls = some after →
      after.finish index second = after) ∧
    ∀ index issued outcome key, state.issued[index]? = some issued →
      (∀ window ∈ state.throttle.entries.find? key, issued.madeIn window = false) →
      (state.finish index outcome).throttle.entries.find? key =
        state.throttle.entries.find? key := by
  have started : ∀ state, (loginThrottle text settings).initial state → state.Sound settings := by
    rintro state rfl
    exact LoginState.empty_sound
  have stepped : ∀ state call after, state.Sound settings →
      (loginThrottle text settings).next state call = some after → after.Sound settings := by
    intro state call after sound taken
    cases taken
    exact sound.apply call
  have sound : state.Sound settings := reachable.invariant started stepped
  refine ⟨sound.accounted.bounded,?_,?_,?_⟩
  · intro window member
    have counted := sound.accounted.counted window member
    rw [IssuedReservation.count_flatMap_charges sound.issued window,Int.natCast_add] at counted
    have bounds := sound.accounted.inBounds window member
    rw [LoginThrottle.InBounds,if_neg List.not_mem_nil] at bounds
    exact ⟨counted,bounds⟩
  · intro index first second calls after inside ran
    have finalized := LoginState.run_finalized (LoginState.finish_finalized inside first) ran
    have later : after.Sound settings :=
      Machine.run_invariant stepped (sound.finish index first) ran
    exact finalized.finish later second
  · intro index issued outcome key met gone
    exact LoginState.find?_finish_of_gone met outcome key gone

end Runs

namespace Sample

def loginText : LoginText := ⟨id,id⟩

/-- A minute's window with room for two attempts of an account. -/
def loginSettings : LoginThrottleSettings :=
  ⟨true,60,10,2,100,by decide,by decide,by decide,by decide⟩

/-- Two attempts at once, and one for other keys when their windows have expired. -/
def threeCalls : List LoginCall :=
  [.beginAttempt [1] [2] [3] 0,.beginAttempt [1] [2] [3] 0,.beginAttempt [4] [5] [6] 60]

def threeAttempts : LoginState :=
  threeCalls.foldl (LoginState.apply loginText loginSettings) .empty

def sharedWindow : LoginAttemptWindow := ⟨.ip [1],0,0,2⟩

theorem threeAttempts_reachable : (loginThrottle loginText loginSettings).Reachable threeAttempts :=
  ⟨.empty,threeCalls,rfl,rfl⟩

end Sample

/-- A window that has expired is still the stored one until its key is used again, and finishing
an attempt made in it lowers its count. -/
theorem finish_changes_expired_window :
    (loginThrottle Sample.loginText Sample.loginSettings).Reachable Sample.threeAttempts ∧
    ∃ issued window changed, Sample.threeAttempts.issued[0]? = some issued ∧
      issued.madeIn window = true ∧
      LoginThrottle.expired Sample.loginSettings 60 window = true ∧
      Sample.threeAttempts.throttle.entries.find? window.key = some window ∧
      (Sample.threeAttempts.finish 0 .aborted).throttle.entries.find? window.key = some changed ∧
      window.attempts = 2 ∧ changed.attempts = 1 := by
  refine ⟨Sample.threeAttempts_reachable,⟨⟨.ip [1],.account [2,0,3],0,1,false⟩,none⟩,
    Sample.sharedWindow,⟨.ip [1],0,0,1⟩,?_⟩
  decide +kernel

theorem login_throttle_accounting_sample :
    Sample.sharedWindow.attempts =
        (Sample.threeAttempts.issued.countP
            (IssuedReservation.inFlightIn Sample.sharedWindow) : ℤ) +
          Sample.threeAttempts.issued.countP
            (IssuedReservation.retainedIn Sample.sharedWindow) ∧
      1 ≤ Sample.sharedWindow.attempts ∧
        Sample.sharedWindow.attempts ≤
          LoginThrottle.limit Sample.loginSettings Sample.sharedWindow.key :=
  (login_throttle_accounting Sample.threeAttempts_reachable).2.1 Sample.sharedWindow
    (by decide +kernel)

end Abacus
