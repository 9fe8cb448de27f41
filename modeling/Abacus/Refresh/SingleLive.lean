import Abacus.Refresh.Steps
import Abacus.Identity.LastAdmin

/-! One live session in a family, and one rotation of a token.
A refresh judges its session again once it holds the lock of the row, and nobody writes the
row until it commits.
-/
set_option autoImplicit false

namespace Abacus

open Relational Transition Transaction

variable {library : TokenLibrary} {request : AuthRequest} {held : List AuthLock}
  {db : AuthDatabase}

section Locks

theorem unrotated_error (request : AuthRequest) (failure : Failure) :
    request.Unrotated (.error failure) := by
  cases request <;> trivial

theorem auth_refuses : Refuses (authDiscipline library) := by
  intro request held db failure
  exact .spared (AuthDatabase.SparesSessions.of_same rfl) (unrotated_error request failure)

variable {d : Discipline AuthDatabase AuthLock (Attempt AuthResponse) AuthRequest}

def TakesAuthSteps (library : TokenLibrary)
    (d : Discipline AuthDatabase AuthLock (Attempt AuthResponse) AuthRequest) : Prop :=
  ∀ request held db after outcome, d.Commits request held db after outcome →
    AuthStep library held db request after outcome

theorem auth_steps : TakesAuthSteps library (authDiscipline library) := fun _ _ _ _ _ step => step

/-- The row of a held lock stays as it is. -/
theorem rely_session (steps : TakesAuthSteps library d) {after : AuthDatabase}
    (rely : d.Rely held db after) {sessionId : Uuid} (locked : .session sessionId ∈ held)
    {session : StoredAuthSession} (found : db.authSessions.find? sessionId = some session) :
    after.authSessions.find? sessionId = some session := by
  apply rely.stable _ found
  rintro before next ⟨-,request,others,outcome,apart,step⟩ stored
  exact (steps _ _ _ _ _ step).session (fun theirs => apart _ theirs locked) stored

structure KnowsSession (held : List AuthLock) (db : AuthDatabase) (session : StoredAuthSession) :
    Prop where
  locked : .session session.key ∈ held
  found : db.authSessions.find? session.key = some session

theorem KnowsSession.rely (steps : TakesAuthSteps library d) {after : AuthDatabase}
    {session : StoredAuthSession} (knows : KnowsSession held db session)
    (rely : d.Rely held db after) : KnowsSession held after session :=
  ⟨knows.locked,rely_session steps rely knows.locked knows.found⟩

theorem KnowsSession.more {session : StoredAuthSession} (knows : KnowsSession held db session)
    (lock : AuthLock) : KnowsSession (lock :: held) db session :=
  ⟨List.mem_cons_of_mem _ knows.locked,knows.found⟩

theorem safe_lockAuthSession {sessionId : Uuid} {next : Option StoredAuthSession → AuthProgram}
    (absent : ∀ kept after, d.Safe request kept (next none) after)
    (present : ∀ after session, KnowsSession (.session sessionId :: held) after session →
      session.key = sessionId →
      d.Safe request (.session sessionId :: held) (next (some session)) after) :
    d.Safe request held (lockAuthSession sessionId next) db := by
  intro seen toSeen _
  dsimp only
  split
  · exact absent held seen
  · intro locked toLocked _
    dsimp only
    cases stored : locked.authSessions.find? sessionId with
    | none => exact absent _ locked
    | some session =>
        have keyed : session.key = sessionId := Table.key_of_find? stored
        have knows : KnowsSession (.session sessionId :: held) locked session :=
          ⟨by simp [keyed],by rw [keyed]; exact stored⟩
        exact present locked session knows keyed

theorem safe_lockUser (steps : TakesAuthSteps library d) {session : StoredAuthSession}
    (knows : KnowsSession held db session) {tenantId userId : Uuid}
    {next : Option User → AuthProgram} (safe : ∀ kept after user, KnowsSession kept after session →
      d.Safe request kept (next user) after) :
    d.Safe request held (lockUser tenantId userId next) db := by
  intro seen toSeen _
  dsimp only
  split
  · exact safe held seen none (knows.rely steps toSeen)
  · intro locked toLocked _
    exact safe _ locked _ ((knows.rely steps toSeen).rely steps toLocked |>.more _)

end Locks

section Rotation

variable {rotation : AuthSessionRotation} {session : StoredAuthSession}

/-- Every row of the `UPDATE` is locked when it counts. -/
theorem safe_lockUnrevoked {family : StoredAuthSession} {next : List Uuid → AuthProgram}
    (safe : ∀ kept after sessionIds, (∀ sessionId ∈ sessionIds, .session sessionId ∈ kept) →
      (authDiscipline library).Safe request kept (next sessionIds) after)
    (rest sessionIds : List Uuid) (locked : ∀ sessionId ∈ sessionIds, .session sessionId ∈ held) :
    (authDiscipline library).Safe request held (lockUnrevoked family rest sessionIds next) db := by
  induction rest generalizing held db sessionIds with
  | nil => exact safe held db sessionIds locked
  | cons sessionId rest ih =>
      intro after toAfter _
      have kept : ∀ other ∈ sessionIds, AuthLock.session other ∈ .session sessionId :: held :=
        fun other member => List.mem_cons_of_mem _ (locked other member)
      dsimp only
      split
      · apply ih
        intro other member
        rcases List.mem_cons.mp member with rfl | earlier
        · exact List.mem_cons_self ..
        · exact kept other earlier
      · exact ih _ kept

theorem safe_revokeFamily :
    (authDiscipline library).Safe (.refresh rotation) held (revokeFamily rotation session) db := by
  intro seen toSeen _
  apply safe_lockUnrevoked
  · intro kept after sessionIds locked later toLater _
    exact .revoked locked (unrotated_error _ _)
  · simp

theorem safe_revokeRefused (knows : KnowsSession held db session) :
    (authDiscipline library).Safe (.refresh rotation) held (revokeRefused rotation session) db := by
  intro after toAfter _
  apply AuthStep.revoked _ (unrotated_error _ _)
  intro sessionId member
  rw [List.mem_singleton.mp member]
  exact knows.locked

theorem safe_replaceSession (presented : rotation.presents library = some session.key)
    (knows : KnowsSession held db session) (live : session.Live) (user : User) :
    (authDiscipline library).Safe (.refresh rotation) held
      (replaceSession library rotation session user) db := by
  apply auth_refuses.commitOr
  intro after written toAfter _ wrote
  have atAfter := knows.rely auth_steps toAfter
  have fresh : (newAuthSessionToken library rotation user session.tenantId
      session.familyId).session.Live := ⟨rfl,rfl⟩
  refine .rotated presented atAfter.locked atAfter.found live ?_ fresh wrote
  exact ⟨rfl,rfl⟩

theorem safe_refreshSession (presented : rotation.presents library = some session.key)
    (knows : KnowsSession held db session) (secret : String) :
    (authDiscipline library).Safe (.refresh rotation) held
      (refreshSession library rotation secret session) db := by
  apply auth_refuses.ensure
  intro genuine
  split
  · exact safe_revokeFamily
  · rename_i unrotated
    apply auth_refuses.ensure
    rintro ⟨unrevoked,-⟩
    apply safe_lockUser auth_steps knows
    intro kept locked user atLocked later toLater _
    have atLater := atLocked.rely auth_steps toLater
    have live : session.Live := ⟨by simpa using unrotated,unrevoked⟩
    cases user with
    | none => exact safe_revokeRefused atLater
    | some user =>
        dsimp only [Option.elim]
        split
        · exact safe_revokeRefused atLater
        · exact safe_replaceSession presented atLater live user

theorem safe_rotateAuthSession :
    (authDiscipline library).Safe (.refresh rotation) [] (rotateAuthSession library rotation) db := by
  unfold rotateAuthSession
  cases parsed : parseRefreshToken library rotation.rawRefreshToken with
  | none => exact auth_refuses.abandon _
  | some presented =>
      have presents : rotation.presents library = some presented.1 := by
        simp [AuthSessionRotation.presents,parsed]
      have locking : ∀ before, (authDiscipline library).Safe (.refresh rotation) []
          (lockAuthSession presented.1 fun found =>
            found.elim (abandon (invalidRefreshToken false))
              (refreshSession library rotation presented.2)) before := by
        intro before
        apply safe_lockAuthSession
        · exact fun kept after => auth_refuses.abandon _
        · intro after session knows keyed
          exact safe_refreshSession (by rw [keyed]; exact presents) knows presented.2
      dsimp only [Option.elim,resolveLoginTenant]
      split
      · intro before toBefore _
        apply auth_refuses.ensure
        exact fun _ => locking before
      · exact locking db

end Rotation

section Logout

variable {principal : Principal} {now : Time}

theorem safe_answer {response : AuthResponse} :
    (authDiscipline library).Safe (.logout principal now) held (answer response) db :=
  fun _ _ _ => .spared (AuthDatabase.SparesSessions.of_same rfl) trivial

theorem sessionOf_eq_some {sessionId : Uuid} {session : StoredAuthSession}
    (found : db.sessionOf principal sessionId = some session) :
    db.authSessions.find? sessionId = some session := (Option.filter_eq_some_iff.mp found).1

theorem safe_revokeAuthSession :
    (authDiscipline library).Safe (.logout principal now) [] (revokeAuthSession principal now) db := by
  unfold revokeAuthSession
  cases named : principal.sessionId with
  | none =>
      intro seen toSeen _
      dsimp only
      split
      · exact safe_answer
      · intro locked toLocked _
        dsimp only
        cases locked.userOf principal.tenantId principal.userId with
        | none => exact safe_answer
        | some user =>
            intro after toAfter _
            exact .spared (AuthDatabase.SparesSessions.of_same rfl) trivial
  | some sessionId =>
      intro seen toSeen _
      dsimp only
      split
      · exact safe_answer
      · intro locked toLocked _
        dsimp only
        cases stored : locked.sessionOf principal sessionId with
        | none => exact safe_answer
        | some session =>
            have keyed : session.key = sessionId := Table.key_of_find? (sessionOf_eq_some stored)
            dsimp only [Option.elim]
            split
            · intro after toAfter _
              have locked : ∀ other ∈ [session.key], AuthLock.session other ∈ [.session sessionId] := by
                simp [keyed]
              exact AuthStep.revoked locked trivial
            · exact safe_answer

end Logout

theorem auth_verifies : (authDiscipline library).Verifies (authService library) := by
  intro request db _
  cases request with
  | refresh rotation => exact safe_rotateAuthSession
  | logout principal now => exact safe_revokeAuthSession
  | other work => exact fun after _ _ => .spared (work.spares after) trivial

section Runs

variable {system : System AuthDatabase AuthLock (Attempt AuthResponse) AuthRequest}

/-- A rotated session stays rotated in every later state. -/
theorem rotated_stays {later : System AuthDatabase AuthLock (Attempt AuthResponse) AuthRequest}
    (reachable : (machine (authService library) AuthDatabase.SingleLive).Reachable system)
    {events : List (Event AuthRequest)}
    (ran : (machine (authService library) AuthDatabase.SingleLive).run system events = some later)
    {sessionId : Uuid} (rotated : system.committed.Rotated sessionId) :
    later.committed.Rotated sessionId := by
  have kept := Machine.Reachable.run_relation
    (fun before after : System AuthDatabase AuthLock (Attempt AuthResponse) AuthRequest =>
      before.committed.Rotated sessionId → after.committed.Rotated sessionId)
    (fun _ holds => holds) (fun _ _ _ first second holds => second (first holds)) ?_ reachable ran
  · exact kept rotated
  · intro before event after earlier taken holds
    rcases auth_verifies.commits (fun _ single => single) earlier taken with
      same | ⟨_,_,_,commits⟩
    · rw [same]
      exact holds
    · exact AuthStep.keepsRotated commits holds

/-- However rotations, replays and logouts interleave, a family never has two live sessions, and
no two refreshes succeed with the token of one session. -/
theorem one_live_session_per_family
    (reachable : (machine (authService library) AuthDatabase.SingleLive).Reachable system) :
    system.committed.SingleLive ∧
      ∀ (first second : ℕ) (middle later : System AuthDatabase AuthLock (Attempt AuthResponse)
          AuthRequest) (events : List (Event AuthRequest)) (rotation again : AuthSessionRotation)
        (response other : AuthResponse),
        system.ending first = some (.refresh rotation,.ok response) →
        (machine (authService library) AuthDatabase.SingleLive).next system (.step first) =
          some middle →
        (machine (authService library) AuthDatabase.SingleLive).run middle events = some later →
        later.ending second = some (.refresh again,.ok other) →
        again.presents library ≠ rotation.presents library := by
  constructor
  · exact (auth_verifies.holds (fun _ single => single) reachable).sound
  · intro first second middle later events rotation again response other ends taken ran endsAgain same
    have sound : ∀ state : AuthDatabase, state.SingleLive → (authDiscipline library).Sound state :=
      fun _ single => single
    obtain ⟨held,step⟩ := auth_verifies.ends sound reachable ends taken
    obtain ⟨sessionId,presented,-,rotated⟩ := AuthStep.rotates step
    have rotatedLater := rotated_stays (reachable.step taken) ran rotated
    have laterReachable := (reachable.step taken).after ran
    obtain ⟨othersHeld,after,stepAgain⟩ := (auth_verifies.holds sound laterReachable).ends endsAgain
    obtain ⟨otherId,presentedAgain,unrotated,-⟩ := AuthStep.rotates stepAgain
    rw [same,presented] at presentedAgain
    cases presentedAgain
    exact unrotated rotatedLater

end Runs

namespace Sample

def tokenLibrary : TokenLibrary where
  uuid := fun raw => some raw.length
  showUuid := fun sessionId => String.ofList (List.replicate sessionId '0')
  sha256 := id
  normalizedCode := id

def refreshSecret : String := "an unguessable secret of thirty-two letters"

def loggedIn : AuthDatabase where
  tenantId := 1
  tenantCode := "orange"
  tenantStatus := .active
  users := Table.empty.put (adminUser 1)
  authSessions := Table.empty.put
    { id := 1, tenantId := 1, userId := 1, tokenVersion := firstTokenVersion, expiresAt := 100,
      rotatedAt := none, revokedAt := none, familyId := 1, refreshTokenHash := refreshSecret,
      lastUsedAt := none }

def refreshOf (newSessionId : Uuid) (newSecret : String) : AuthSessionRotation where
  tenantSession := true
  tenantCode := "orange"
  rawRefreshToken := "0." ++ refreshSecret
  lifetime := 100
  now := 10
  createdAt := 10
  newSessionId := newSessionId
  newSecret := newSecret

/-- Two refreshes present one token: the first rotates it, and the second, which has waited for
the row, finds it rotated and revokes the family. -/
def doubleRefresh : List (Event AuthRequest) :=
  [.start 1 (.refresh (refreshOf 2 "first")),.start 2 (.refresh (refreshOf 3 "second")),
    .step 2,.step 2] ++ List.replicate 7 (.step 1) ++ List.replicate 5 (.step 2)

def loggedInSystem : System AuthDatabase AuthLock (Attempt AuthResponse) AuthRequest :=
  ⟨loggedIn,Table.empty⟩

def afterDoubleRefresh : System AuthDatabase AuthLock (Attempt AuthResponse) AuthRequest :=
  ((machine (authService tokenLibrary) AuthDatabase.SingleLive).run loggedInSystem
    doubleRefresh).getD loggedInSystem

theorem loggedIn_singleLive : loggedIn.SingleLive := by
  unfold AuthDatabase.SingleLive
  decide +kernel

theorem doubleRefresh_runs : ((machine (authService tokenLibrary) AuthDatabase.SingleLive).run
    loggedInSystem doubleRefresh).isSome = true := by
  decide +kernel

end Sample

theorem one_live_session_per_family_sample : Sample.afterDoubleRefresh.committed.SingleLive :=
  (one_live_session_per_family ⟨_,_,⟨Sample.loggedIn_singleLive,rfl⟩,
    Machine.run_getD Sample.doubleRefresh_runs⟩).1

example : Sample.afterDoubleRefresh.committed.authSessions.rows.map
    (fun session => (session.rotatedAt,session.revokedAt)) =
      [(some 10,some 10),(none,some 10)] := by decide +kernel

end Abacus
