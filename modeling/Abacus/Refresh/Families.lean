import Abacus.Refresh.SingleLive

/-! When a session family that was revoked stays dead.
The `UPDATE` of a reuse detection revokes the rows that its snapshot has. A refresh that
commits after the snapshot leaves a successor that the `UPDATE` never sees, and a logout
revokes its own session even if that has a successor by then.
-/
set_option autoImplicit false

namespace Abacus

open Relational Transition Transaction

section Families

variable {library : TokenLibrary} {held : List AuthLock} {db after : AuthDatabase}
  {request : AuthRequest} {outcome : Attempt AuthResponse}
  {session other family : StoredAuthSession}

theorem StoredAuthSession.SameFamily.symm (same : session.SameFamily other) :
    other.SameFamily session := ⟨same.1.symm,same.2.symm⟩

theorem StoredAuthSession.SameFamily.trans (same : session.SameFamily other)
    (further : other.SameFamily family) : session.SameFamily family :=
  ⟨same.1.trans further.1,same.2.trans further.2⟩

structure AuthDatabase.Dead (db : AuthDatabase) (family : StoredAuthSession) : Prop where
  stored : ∃ session ∈ db.authSessions.rows, session.SameFamily family
  lifeless : ∀ session ∈ db.authSessions.rows, session.SameFamily family → ¬session.Live

/-- A session that a step finds or leaves in the family of a stored one was stored before, or is the
successor of a live session. -/
theorem AuthStep.origin (step : AuthStep library held db request after outcome)
    (member : other ∈ db.authSessions.rows) (stored : session ∈ after.authSessions.rows)
    (live : session.Live) (same : session.SameFamily other) :
    session ∈ db.authSessions.rows ∨ (∃ rotation response, request = .refresh rotation ∧
      outcome = .ok response ∧
        ∃ rotated ∈ db.authSessions.rows, rotated.Live ∧ rotated.SameFamily other) := by
  cases step with
  | spared spares unrotated =>
      by_cases old : session ∈ db.authSessions.rows
      · exact .inl old
      · have this := spares.opens session stored old other (spares.keeps other member) same.symm
        exact .inl (this ▸ member)
  | revoked locked unrotated =>
      obtain ⟨old,before,rfl⟩ := AuthDatabase.mem_revokeSessions.mp stored
      split at live
      · cases live.2
      · next spared =>
          rw [if_neg spared]
          exact .inl before
  | @rotated rotation rotated replacement _ response presented locked found wasLive succeeds fresh
      written =>
      rcases (AuthDatabase.mem_rotateSession written).mp stored with rfl | ⟨old,before,rfl⟩
      · exact .inr ⟨_,_,rfl,rfl,rotated,Table.mem_of_find? found,wasLive,succeeds.symm.trans same⟩
      · split at live
        · cases live.1
        · next apart =>
            rw [if_neg apart]
            exact .inl before

theorem AuthStep.keepsStored (step : AuthStep library held db request after outcome)
    {sessionId : Uuid} (found : db.authSessions.find? sessionId = some session) :
    ∃ later, after.authSessions.find? sessionId = some later ∧ later.SameFamily session ∧
      later.tenantId = session.tenantId ∧ later.userId = session.userId := by
  cases step with
  | spared spares unrotated =>
      have stored := Table.find?_of_mem (spares.keeps session (Table.mem_of_find? found))
      rw [Table.key_of_find? found] at stored
      exact ⟨session,stored,⟨rfl,rfl⟩,rfl,rfl⟩
  | revoked locked unrotated =>
      refine ⟨_,by rw [AuthDatabase.find?_revokeSessions,found,Option.map_some],?_⟩
      split <;> exact ⟨⟨rfl,rfl⟩,rfl,rfl⟩
  | rotated presented locked rotatedFound live succeeds fresh written =>
      refine ⟨_,AuthDatabase.find?_rotateSession written found,?_⟩
      split <;> exact ⟨⟨rfl,rfl⟩,rfl,rfl⟩

theorem AuthStep.keepsFamily (step : AuthStep library held db request after outcome)
    (member : session ∈ db.authSessions.rows) (same : session.SameFamily family) :
    ∃ later ∈ after.authSessions.rows, later.SameFamily family := by
  obtain ⟨later,found,kept,-⟩ := step.keepsStored (Table.find?_of_mem member)
  exact ⟨later,Table.mem_of_find? found,kept.trans same⟩

/-- Nothing brings a family back to life. -/
theorem AuthStep.keepsDead (step : AuthStep library held db request after outcome)
    (dead : db.Dead family) : after.Dead family := by
  obtain ⟨member,present,same⟩ := dead.stored
  refine ⟨step.keepsFamily present same,?_⟩
  intro session stored within live
  rcases step.origin present stored live (within.trans same.symm) with
    old | ⟨_,_,_,_,rotated,old,wasLive,kin⟩
  · exact dead.lifeless session old within live
  · exact dead.lifeless rotated old (kin.trans same) wasLive

/-- A refresh that succeeds presents a live session. -/
theorem AuthStep.presentsLive {rotation : AuthSessionRotation} {response : AuthResponse}
    (step : AuthStep library held db (.refresh rotation) after (.ok response)) :
    ∃ session ∈ db.authSessions.rows, rotation.presents library = some session.key ∧
      session.Live := by
  cases step with
  | spared spares unrotated => cases unrotated
  | revoked locked unrotated => cases unrotated
  | @rotated _ session _ _ _ presented locked found live succeeds fresh written =>
      exact ⟨session,Table.mem_of_find? found,presented,live⟩

end Families

section Endings

variable {library : TokenLibrary} {held : List AuthLock} {db after : AuthDatabase}
  {session presented : StoredAuthSession}

def AuthDatabase.Ends (after : AuthDatabase) (session : StoredAuthSession) : Prop :=
  ∀ later ∈ after.authSessions.rows, later.key = session.key → ¬later.Live

/-- What a reuse detection and a logout revoke among the sessions that they have locked. -/
def EndsLocked (library : TokenLibrary) (held : List AuthLock) (db after : AuthDatabase) :
    AuthRequest → Attempt AuthResponse → Prop
  | .refresh rotation,.error failure => failure = invalidRefreshToken true →
      ∃ presented ∈ db.authSessions.rows, rotation.presents library = some presented.key ∧
        presented.rotatedAt ≠ none ∧ ∀ session ∈ db.authSessions.rows,
          session.SameFamily presented → session.Live → .session session.key ∈ held →
            after.Ends session
  | .logout _ _,.ok _ => ∀ session ∈ db.authSessions.rows, session.Live →
      .session session.key ∈ held → after.Ends session
  | _,_ => True

def familyDiscipline (library : TokenLibrary) :
    Discipline AuthDatabase AuthLock (Attempt AuthResponse) AuthRequest where
  Sound := AuthDatabase.SingleLive
  Commits := fun request held db after outcome =>
    AuthStep library held db request after outcome ∧
      EndsLocked library held db after request outcome
  keeps := fun _ _ _ _ _ sound commits => AuthStep.singleLive commits.1 sound

theorem family_steps : TakesAuthSteps library (familyDiscipline library) :=
  fun _ _ _ _ _ commits => commits.1

theorem ends_revokeSessions {sessionIds : List Uuid} {now : Time}
    (listed : session.key ∈ sessionIds) : (db.revokeSessions sessionIds now).Ends session := by
  intro later stored same live
  obtain ⟨old,-,rfl⟩ := AuthDatabase.mem_revokeSessions.mp stored
  split at live
  · cases live.2
  · next spared =>
      rw [if_neg spared] at same
      exact spared (same ▸ listed)

def Judged (family : StoredAuthSession) (held : List AuthLock) (db : AuthDatabase)
    (sessionIds : List Uuid) : Prop :=
  ∀ sessionId, .session sessionId ∈ held → ∃ session,
    db.authSessions.find? sessionId = some session ∧
      (session.SameFamily family → session.Live → sessionId ∈ sessionIds)

theorem Judged.rely {sessionIds : List Uuid} (judged : Judged presented held db sessionIds)
    (rely : (familyDiscipline library).Rely held db after) :
    Judged presented held after sessionIds := by
  intro sessionId locked
  obtain ⟨session,found,counts⟩ := judged sessionId locked
  exact ⟨session,rely_session family_steps rely locked found,counts⟩

theorem rely_stored (rely : (familyDiscipline library).Rely held db after) {sessionId : Uuid}
    (stored : (db.authSessions.find? sessionId).isSome = true) :
    (after.authSessions.find? sessionId).isSome = true := by
  apply rely.stable _ stored
  rintro before next ⟨-,request,others,outcome,-,step⟩ present
  obtain ⟨session,found⟩ := Option.isSome_iff_exists.mp present
  obtain ⟨later,kept,-⟩ := (family_steps _ _ _ _ _ step).keepsStored found
  rw [kept]
  rfl

/-- The `UPDATE` locks the rows of its snapshot one by one, and judges each again. -/
theorem safe_lockFamily {request : AuthRequest} {next : List Uuid → AuthProgram}
    (safe : ∀ kept after sessionIds, (∀ sessionId ∈ sessionIds, .session sessionId ∈ kept) →
      Judged presented kept after sessionIds → KnowsSession kept after presented →
      (familyDiscipline library).Safe request kept (next sessionIds) after)
    (rest sessionIds : List Uuid)
    (stored : ∀ sessionId ∈ rest, (db.authSessions.find? sessionId).isSome = true)
    (locked : ∀ sessionId ∈ sessionIds, .session sessionId ∈ held)
    (judged : Judged presented held db sessionIds) (knows : KnowsSession held db presented) :
    (familyDiscipline library).Safe request held (lockUnrevoked presented rest sessionIds next)
      db := by
  induction rest generalizing held db sessionIds with
  | nil => exact safe held db sessionIds locked judged knows
  | cons sessionId rest ih =>
      intro after toAfter _
      obtain ⟨session,found⟩ := Option.isSome_iff_exists.mp
        (rely_stored toAfter (stored sessionId (List.mem_cons_self ..)))
      have later : ∀ other ∈ rest, (after.authSessions.find? other).isSome = true :=
        fun other member => rely_stored toAfter (stored other (List.mem_cons_of_mem _ member))
      have kept : ∀ other ∈ sessionIds, AuthLock.session other ∈ .session sessionId :: held :=
        fun other member => List.mem_cons_of_mem _ (locked other member)
      have knowsAfter := (knows.rely family_steps toAfter).more (.session sessionId)
      have judgedAfter := judged.rely toAfter
      dsimp only
      split
      · refine ih (sessionId :: sessionIds) later ?_ ?_ knowsAfter
        · intro other member
          rcases List.mem_cons.mp member with rfl | earlier
          · exact List.mem_cons_self ..
          · exact kept other earlier
        · intro other member
          rcases List.mem_cons.mp member with same | earlier
          · cases same
            exact ⟨session,found,fun _ _ => List.mem_cons_self ..⟩
          · obtain ⟨row,place,counts⟩ := judgedAfter other earlier
            exact ⟨row,place,fun same live => List.mem_cons_of_mem _ (counts same live)⟩
      · next spared =>
          refine ih sessionIds later kept ?_ knowsAfter
          intro other member
          rcases List.mem_cons.mp member with same | earlier
          · cases same
            refine ⟨session,found,fun same live => absurd ?_ spared⟩
            rw [found]
            exact decide_eq_true ⟨same,live.2⟩
          · exact judgedAfter other earlier

end Endings

section Services

variable {library : TokenLibrary} {held : List AuthLock} {db after : AuthDatabase}
  {session presented : StoredAuthSession} {rotation : AuthSessionRotation} {principal : Principal}
  {now : Time}

/-- A refresh may fail without a trace, but not with the report of a reuse. -/
theorem refresh_refuses {failure : Failure} (other : failure ≠ invalidRefreshToken true) :
    (familyDiscipline library).Commits (.refresh rotation) held db db (.error failure) :=
  ⟨.spared (AuthDatabase.SparesSessions.of_same rfl) (unrotated_error _ _),
    fun same => absurd same other⟩

theorem invalid_ne_reused : invalidRefreshToken false ≠ invalidRefreshToken true := by decide

theorem family_revokeFamily (named : rotation.presents library = some presented.key)
    (knows : KnowsSession [.session presented.key] db presented)
    (rotated : presented.rotatedAt ≠ none) :
    (familyDiscipline library).Safe (.refresh rotation) [.session presented.key]
      (revokeFamily rotation presented) db := by
  intro seen toSeen _
  have atSeen := knows.rely family_steps toSeen
  apply safe_lockFamily
  · intro kept locked sessionIds mine judged atLocked after toAfter _
    have atAfter := atLocked.rely family_steps toAfter
    refine ⟨.revoked mine (unrotated_error _ _),?_⟩
    intro _
    refine ⟨presented,Table.mem_of_find? atAfter.found,named,rotated,?_⟩
    intro session stored same live taken
    obtain ⟨row,found,counts⟩ := judged.rely toAfter session.key taken
    rw [Table.find?_of_mem stored] at found
    cases found
    exact ends_revokeSessions (counts same live)
  · intro sessionId member
    obtain ⟨session,chosen,rfl⟩ := List.mem_map.mp member
    rw [Table.find?_of_mem (Table.mem_select.mp chosen).1]
    rfl
  · exact nofun
  · intro sessionId locked
    cases List.mem_singleton.mp locked
    exact ⟨presented,atSeen.found,fun _ live => absurd live.1 rotated⟩
  · exact atSeen

theorem family_revokeRefused (knows : KnowsSession held db session) :
    (familyDiscipline library).Safe (.refresh rotation) held (revokeRefused rotation session)
      db := by
  intro after toAfter _
  refine ⟨.revoked ?_ (unrotated_error _ _),fun same => absurd same invalid_ne_reused⟩
  intro sessionId member
  rw [List.mem_singleton.mp member]
  exact knows.locked

theorem family_replaceSession (named : rotation.presents library = some session.key)
    (knows : KnowsSession held db session) (live : session.Live) (user : User) :
    (familyDiscipline library).Safe (.refresh rotation) held
      (replaceSession library rotation session user) db := by
  apply safe_commitOr
  · exact fun after _ => refresh_refuses (by decide)
  · intro after written toAfter _ wrote
    have atAfter := knows.rely family_steps toAfter
    have fresh : (newAuthSessionToken library rotation user session.tenantId
        session.familyId).session.Live := ⟨rfl,rfl⟩
    have succeeds : (newAuthSessionToken library rotation user session.tenantId
        session.familyId).session.SameFamily session := ⟨rfl,rfl⟩
    exact ⟨.rotated named atAfter.locked atAfter.found live succeeds fresh wrote,trivial⟩

theorem family_refreshSession (named : rotation.presents library = some session.key)
    (knows : KnowsSession [.session session.key] db session) (secret : String) :
    (familyDiscipline library).Safe (.refresh rotation) [.session session.key]
      (refreshSession library rotation secret session) db := by
  apply safe_ensure
  · exact fun _ after _ => refresh_refuses invalid_ne_reused
  · intro genuine
    split
    · next rotated =>
        exact family_revokeFamily named knows (Option.isSome_iff_ne_none.mp rotated)
    · next unrotated =>
        apply safe_ensure
        · exact fun _ after _ => refresh_refuses invalid_ne_reused
        · rintro ⟨unrevoked,-⟩
          apply safe_lockUser family_steps knows
          intro kept locked user atLocked later toLater _
          have atLater := atLocked.rely family_steps toLater
          have live : session.Live := ⟨by simpa using unrotated,unrevoked⟩
          cases user with
          | none => exact family_revokeRefused atLater
          | some user =>
              dsimp only [Option.elim]
              split
              · exact family_revokeRefused atLater
              · exact family_replaceSession named atLater live user

theorem family_rotateAuthSession :
    (familyDiscipline library).Safe (.refresh rotation) [] (rotateAuthSession library rotation)
      db := by
  have refuses : ∀ kept before, (familyDiscipline library).Safe (.refresh rotation) kept
      (abandon (invalidRefreshToken false)) before :=
    fun kept before => safe_abandon fun after _ => refresh_refuses invalid_ne_reused
  unfold rotateAuthSession
  cases parsed : parseRefreshToken library rotation.rawRefreshToken with
  | none => exact refuses [] db
  | some token =>
      have names : rotation.presents library = some token.1 := by
        simp [AuthSessionRotation.presents,parsed]
      have locking : ∀ before, (familyDiscipline library).Safe (.refresh rotation) []
          (lockAuthSession token.1 fun found =>
            found.elim (abandon (invalidRefreshToken false))
              (refreshSession library rotation token.2)) before := by
        intro before
        apply safe_lockAuthSession
        · exact refuses
        · intro after session knows keyed
          rw [← keyed] at knows names ⊢
          exact family_refreshSession names knows token.2
      dsimp only [Option.elim,resolveLoginTenant]
      split
      · intro before toBefore _
        apply safe_ensure
        · exact fun _ after _ => refresh_refuses invalid_ne_reused
        · exact fun _ => locking before
      · exact locking db

theorem logout_answers {response : AuthResponse}
    (ends : ∀ after, (familyDiscipline library).Rely held db after →
      EndsLocked library held after after (.logout principal now) (.ok response)) :
    (familyDiscipline library).Safe (.logout principal now) held (answer response) db :=
  fun after toAfter _ =>
    ⟨.spared (AuthDatabase.SparesSessions.of_same rfl) trivial,ends after toAfter⟩

/-- A session keeps its tenant and its user. -/
theorem rely_sessionOf {sessionId : Uuid} (rely : (familyDiscipline library).Rely held db after)
    (stored : (db.sessionOf principal sessionId).isSome = true) :
    (after.sessionOf principal sessionId).isSome = true := by
  apply rely.stable _ stored
  rintro before next ⟨-,request,others,outcome,-,step⟩ present
  obtain ⟨session,belongs⟩ := Option.isSome_iff_exists.mp present
  obtain ⟨found,owned⟩ := Option.filter_eq_some_iff.mp belongs
  obtain ⟨later,kept,-,tenant,user⟩ := (family_steps _ _ _ _ _ step).keepsStored found
  rw [AuthDatabase.sessionOf,kept,Option.filter_some,if_pos]
  · rfl
  · rw [tenant,user]
    exact owned

theorem family_revokeAuthSession :
    (familyDiscipline library).Safe (.logout principal now) [] (revokeAuthSession principal now)
      db := by
  unfold revokeAuthSession
  cases named : principal.sessionId with
  | none =>
      -- only the user is locked
      intro seen toSeen _
      dsimp only
      split
      · exact logout_answers fun after _ session _ _ locked => nomatch locked
      · intro locked toLocked _
        dsimp only
        cases locked.userOf principal.tenantId principal.userId with
        | none => exact logout_answers fun after _ session _ _ taken => by simp at taken
        | some user =>
            intro after toAfter _
            refine ⟨.spared (AuthDatabase.SparesSessions.of_same rfl) trivial,?_⟩
            intro session _ _ taken
            simp at taken
  | some sessionId =>
      intro seen toSeen _
      dsimp only
      split
      · exact logout_answers fun after _ session _ _ locked => nomatch locked
      · next present =>
          intro locked toLocked _
          dsimp only
          have belongs : (locked.sessionOf principal sessionId).isSome = true :=
            rely_sessionOf toLocked (by simpa [Option.isSome_iff_ne_none] using present)
          cases stored : locked.sessionOf principal sessionId with
          | none =>
              rw [stored] at belongs
              cases belongs
          | some session =>
              have found := sessionOf_eq_some stored
              have keyed : session.key = sessionId := Table.key_of_find? found
              have knows : KnowsSession [.session sessionId] locked session :=
                ⟨by simp [keyed],by rw [keyed]; exact found⟩
              dsimp only [Option.elim]
              split
              · intro after toAfter _
                refine ⟨.revoked (by simp [keyed]) trivial,?_⟩
                intro other _ _ taken
                apply ends_revokeSessions
                simpa [keyed] using taken
              · next revoked =>
                  apply logout_answers
                  intro after toAfter other listed live taken
                  have place := (knows.rely family_steps toAfter).found
                  have same : other.key = session.key := by simpa [keyed] using taken
                  rw [← same,Table.find?_of_mem listed] at place
                  cases place
                  exact absurd live.2 revoked

theorem family_verifies : (familyDiscipline library).Verifies (authService library) := by
  intro request db _
  cases request with
  | refresh rotation => exact family_rotateAuthSession
  | logout principal now => exact family_revokeAuthSession
  | other work => exact fun after _ _ => ⟨.spared (work.spares after) trivial,trivial⟩

end Services

section Acceptance

theorem AuthDatabase.authSessions_unique (db : AuthDatabase) :
    ((db.authSessions.rows.map StoredAuthSession.toAuthSession).map AuthSession.id).Nodup := by
  rw [List.map_map]
  exact db.authSessions.unique

/-- The tenant and the sessions that `get_current_principal` reads. -/
def AuthDatabase.authState (db : AuthDatabase) : AuthState where
  tenantStatus := db.tenantStatus
  authSessions := ⟨_,db.authSessions_unique⟩

theorem AuthDatabase.find?_authState (db : AuthDatabase) {session : StoredAuthSession}
    (member : session ∈ db.authSessions.rows) :
    db.authState.authSessions.find? session.key = some session.toAuthSession :=
  db.authState.authSessions.find?_of_mem (List.mem_map_of_mem member)

/-- An access token of a session that is not live is refused. -/
theorem currentPrincipal_lifeless {db : AuthDatabase} {session : StoredAuthSession}
    (member : session ∈ db.authSessions.rows) (lifeless : ¬session.Live)
    (identity : IdentityDatabase) (now : Time) {claims : AccessTokenClaims}
    (bound : claims.sessionId = some session.key) :
    currentPrincipal identity db.authState now claims = .error invalidAccessToken := by
  have refused : db.authState.sessionAccepts now claims session.key = false := by
    rw [AuthState.sessionAccepts,db.find?_authState member,Option.any_some,decide_eq_false_iff_not]
    rintro ⟨-,-,-,unrevoked,unrotated,-⟩
    exact lifeless ⟨unrotated,unrevoked⟩
  unfold currentPrincipal
  split
  · rfl
  · dsimp only
    split
    · rfl
    · rw [bound,Option.any_some,refused]
      rfl

end Acceptance

section Runs

abbrev AuthSystem := System AuthDatabase AuthLock (Attempt AuthResponse) AuthRequest

/-- What is to revoke a family: the detection of a reuse, or the logout of one of its sessions, which
may have been rotated since its principal was let in. -/
inductive RevokesFamily (library : TokenLibrary) (db : AuthDatabase) (family : StoredAuthSession) :
    AuthRequest → Attempt AuthResponse → Prop where
  | reuse (rotation : AuthSessionRotation) (presented : StoredAuthSession)
      (stored : presented ∈ db.authSessions.rows)
      (named : rotation.presents library = some presented.key)
      (same : presented.SameFamily family) :
      RevokesFamily library db family (.refresh rotation) (.error (invalidRefreshToken true))
  | logout (principal : Principal) (now : Time) (session : StoredAuthSession)
      (named : principal.sessionId = some session.key)
      (owned : db.sessionOf principal session.key = some session)
      (same : session.SameFamily family) :
      RevokesFamily library db family (.logout principal now) (.ok .loggedOut)

/-- The transaction has locked the rows of the live sessions of the family. -/
def Covers (system : AuthSystem) (id : ℕ) (family : StoredAuthSession) : Prop :=
  ∀ party ∈ system.sessions.find? id, ∀ session ∈ system.committed.authSessions.rows,
    session.SameFamily family → session.Live → .session session.key ∈ party.held

/-- No refresh token of the family rotates, and no access token of it is accepted. -/
def TokensRefused (library : TokenLibrary) (system : AuthSystem) (family : StoredAuthSession) :
    Prop :=
  ∀ session ∈ system.committed.authSessions.rows, session.SameFamily family →
    (∀ id rotation response, system.ending id = some (.refresh rotation,.ok response) →
      rotation.presents library ≠ some session.key) ∧
    ∀ identity now claims, claims.sessionId = some session.key →
      currentPrincipal identity system.committed.authState now claims = .error invalidAccessToken

variable {library : TokenLibrary} {held : List AuthLock} {db after : AuthDatabase}
  {request : AuthRequest} {outcome : Attempt AuthResponse} {family : StoredAuthSession}
  {system middle later : AuthSystem} {id : ℕ}

/-- A commit that revokes a family ends all its live sessions if it has locked them. -/
theorem dead_of_locked
    (commits : (familyDiscipline library).Commits request held db after outcome)
    (revokes : RevokesFamily library db family request outcome)
    (locked : ∀ session ∈ db.authSessions.rows, session.SameFamily family → session.Live →
      .session session.key ∈ held) : after.Dead family := by
  obtain ⟨step,ends⟩ := commits
  have unrotated : ¬∃ rotation response, request = .refresh rotation ∧ outcome = .ok response := by
    rintro ⟨rotation,response,rfl,rfl⟩
    cases revokes
  obtain ⟨member,present,kin,every⟩ : ∃ member ∈ db.authSessions.rows, member.SameFamily family ∧
      ∀ session ∈ db.authSessions.rows, session.SameFamily family → session.Live →
        after.Ends session := by
    cases revokes with
    | reuse rotation presented stored named same =>
        obtain ⟨row,place,names,-,revoked⟩ := ends rfl
        rw [named] at names
        have this : presented = row :=
          Table.eq_of_key _ stored place (Option.some.inj names)
        subst this
        refine ⟨presented,stored,same,?_⟩
        intro session listed within live
        exact revoked session listed (within.trans same.symm) live
          (locked session listed within live)
    | logout principal now session named owned same =>
        refine ⟨session,Table.mem_of_find? (sessionOf_eq_some owned),same,?_⟩
        intro other listed within live
        exact ends other listed live (locked other listed within live)
  refine ⟨step.keepsFamily present kin,?_⟩
  intro session stored within live
  rcases step.origin present stored live (within.trans kin.symm) with
    old | ⟨rotation,response,requested,succeeded,_⟩
  · exact every session old within live session stored rfl live
  · exact unrotated ⟨rotation,response,requested,succeeded⟩

/-- A live session that the transaction has not locked stays live. -/
theorem locked_of_dead (step : AuthStep library held db request after outcome)
    (dead : after.Dead family) : ∀ session ∈ db.authSessions.rows, session.SameFamily family →
      session.Live → .session session.key ∈ held := by
  intro session member same live
  by_contra apart
  have kept := step.session apart (Table.find?_of_mem member)
  exact dead.lifeless session (Table.mem_of_find? kept) same live

/-- A dead family stays dead in every later state. -/
theorem dead_stays (reachable : (machine (authService library) AuthDatabase.SingleLive).Reachable
      system) {events : List (Event AuthRequest)}
    (ran : (machine (authService library) AuthDatabase.SingleLive).run system events = some later)
    (dead : system.committed.Dead family) : later.committed.Dead family := by
  have kept := Machine.Reachable.run_relation
    (fun before after : AuthSystem => before.committed.Dead family → after.committed.Dead family)
    (fun _ holds => holds) (fun _ _ _ first second holds => second (first holds)) ?_ reachable ran
  · exact kept dead
  · intro before event after earlier taken holds
    rcases family_verifies.commits (fun _ single => single) earlier taken with
      same | ⟨_,_,_,commits⟩
    · rw [same]
      exact holds
    · exact commits.1.keepsDead holds

theorem tokensRefused_of_dead
    (reachable : (machine (authService library) AuthDatabase.SingleLive).Reachable system)
    (dead : system.committed.Dead family) : TokensRefused library system family := by
  have sound : ∀ state : AuthDatabase, state.SingleLive → (familyDiscipline library).Sound state :=
    fun _ single => single
  intro session member same
  have lifeless := dead.lifeless session member same
  constructor
  · intro id rotation response ends presented
    obtain ⟨held,after,step,-⟩ := (family_verifies.holds sound reachable).ends ends
    obtain ⟨live,stored,names,alive⟩ := step.presentsLive
    rw [presented] at names
    have this : session = live := Table.eq_of_key _ member stored (Option.some.inj names)
    exact lifeless (this ▸ alive)
  · intro identity now claims bound
    exact currentPrincipal_lifeless member lifeless identity now bound

/-- A commit that revokes a family leaves it dead, for ever, exactly if it has locked the live
sessions of the family. -/
theorem revoked_family_stays_dead (library : TokenLibrary) (system middle : AuthSystem)
    (reachable : (machine (authService library) AuthDatabase.SingleLive).Reachable system)
    (id : ℕ) (request : AuthRequest) (outcome : Attempt AuthResponse) (family : StoredAuthSession)
    (ending : system.ending id = some (request,outcome))
    (revokes : RevokesFamily library system.committed family request outcome)
    (taken : (machine (authService library) AuthDatabase.SingleLive).next system (.step id) =
      some middle) :
    (middle.committed.Dead family ↔ Covers system id family) ∧
      (Covers system id family → ∀ events later,
        (machine (authService library) AuthDatabase.SingleLive).run middle events = some later →
          TokensRefused library later family) := by
  have sound : ∀ state : AuthDatabase, state.SingleLive → (familyDiscipline library).Sound state :=
    fun _ single => single
  obtain ⟨party,found,commits⟩ := family_verifies.ends_holding sound reachable ending taken
  have covers : Covers system id family ↔ ∀ session ∈ system.committed.authSessions.rows,
      session.SameFamily family → session.Live → .session session.key ∈ party.held := by
    unfold Covers
    rw [found]
    simp
  have dead : Covers system id family → middle.committed.Dead family :=
    fun locked => dead_of_locked commits revokes (covers.mp locked)
  refine ⟨⟨fun lifeless => covers.mpr (locked_of_dead commits.1 lifeless),dead⟩,?_⟩
  intro locked events later ran
  have next := reachable.step taken
  exact tokensRefused_of_dead (next.after ran) (dead_stays next ran (dead locked))

end Runs

namespace Sample

def secondSecret : String := "another unguessable secret of thirty-two letters"

def thirdSecret : String := "one more unguessable secret of thirty-two letters"

def successorRefresh : AuthSessionRotation :=
  { refreshOf 3 thirdSecret with rawRefreshToken := "00." ++ secondSecret }

def lastRefresh : AuthSessionRotation :=
  { refreshOf 5 "fifth" with rawRefreshToken := "000." ++ thirdSecret }

/-- The first token is reused while a refresh of its successor is about to commit. -/
def lateReuse : List (Event AuthRequest) :=
  [.start 1 (.refresh (refreshOf 2 secondSecret))] ++ List.replicate 7 (.step 1) ++
    [.start 2 (.refresh successorRefresh)] ++ List.replicate 6 (.step 2) ++
    [.start 3 (.refresh (refreshOf 4 "fourth"))] ++ List.replicate 5 (.step 3) ++ [.step 2,.step 3]

def lateRefresh : List (Event AuthRequest) :=
  [.start 4 (.refresh lastRefresh)] ++ List.replicate 6 (.step 4)

/-- The reuse of the double refresh is about to commit. -/
def promptReuse : List (Event AuthRequest) :=
  [.start 1 (.refresh (refreshOf 2 "first")),.start 2 (.refresh (refreshOf 3 "second")),
    .step 2,.step 2] ++ List.replicate 7 (.step 1) ++ List.replicate 4 (.step 2)

def loginSession : StoredAuthSession :=
  { id := 1, tenantId := 1, userId := 1, tokenVersion := firstTokenVersion, expiresAt := 100,
    rotatedAt := none, revokedAt := none, familyId := 1, refreshTokenHash := refreshSecret,
    lastUsedAt := none }

def authRun (events : List (Event AuthRequest)) : AuthSystem :=
  ((machine (authService tokenLibrary) AuthDatabase.SingleLive).run loggedInSystem events).getD
    loggedInSystem

theorem authRun_reached {events : List (Event AuthRequest)}
    (ran : ((machine (authService tokenLibrary) AuthDatabase.SingleLive).run loggedInSystem
      events).isSome = true) :
    (machine (authService tokenLibrary) AuthDatabase.SingleLive).run loggedInSystem events =
      some (authRun events) := Machine.run_getD ran

theorem authRun_reachable {events : List (Event AuthRequest)}
    (ran : ((machine (authService tokenLibrary) AuthDatabase.SingleLive).run loggedInSystem
      events).isSome = true) :
    (machine (authService tokenLibrary) AuthDatabase.SingleLive).Reachable (authRun events) :=
  ⟨loggedInSystem,events,⟨loggedIn_singleLive,rfl⟩,authRun_reached ran⟩

theorem promptReuse_ends : (authRun promptReuse).ending 2 =
    some (.refresh (refreshOf 3 "second"),.error (invalidRefreshToken true)) := rfl

theorem promptReuse_commits : ((machine (authService tokenLibrary) AuthDatabase.SingleLive).run
    loggedInSystem (promptReuse ++ [.step 2])).isSome = true := by decide +kernel

theorem promptReuse_runs : ((machine (authService tokenLibrary) AuthDatabase.SingleLive).run
    loggedInSystem promptReuse).isSome = true := Machine.run_isSome_of_append promptReuse_commits

theorem promptReuse_revokes : RevokesFamily tokenLibrary (authRun promptReuse).committed
    loginSession (.refresh (refreshOf 3 "second")) (.error (invalidRefreshToken true)) :=
  .reuse _ (loginSession.rotate 10) (by decide +kernel) (by decide +kernel) ⟨rfl,rfl⟩

end Sample

theorem revoked_family_stays_dead_sample :
    (Sample.authRun (Sample.promptReuse ++ [.step 2])).committed.Dead Sample.loginSession ∧
      TokensRefused Sample.tokenLibrary (Sample.authRun (Sample.promptReuse ++ [.step 2]))
        Sample.loginSession := by
  have covered : Covers (Sample.authRun Sample.promptReuse) 2 Sample.loginSession := by
    unfold Covers
    decide +kernel
  obtain ⟨dead,refused⟩ := revoked_family_stays_dead Sample.tokenLibrary _ _
    (Sample.authRun_reachable Sample.promptReuse_runs) 2 _ _ Sample.loginSession
    Sample.promptReuse_ends Sample.promptReuse_revokes
    (Machine.next_of_run (Sample.authRun_reached Sample.promptReuse_runs)
      (Sample.authRun_reached Sample.promptReuse_commits))
  exact ⟨dead.mpr covered,refused covered [] _ rfl⟩

namespace Sample

theorem lateRefresh_runs : ((machine (authService tokenLibrary) AuthDatabase.SingleLive).run
    loggedInSystem (lateReuse ++ [.step 3] ++ lateRefresh)).isSome = true := by decide +kernel

theorem lateReuse_commits : ((machine (authService tokenLibrary) AuthDatabase.SingleLive).run
    loggedInSystem (lateReuse ++ [.step 3])).isSome = true :=
  Machine.run_isSome_of_append lateRefresh_runs

theorem lateReuse_runs : ((machine (authService tokenLibrary) AuthDatabase.SingleLive).run
    loggedInSystem lateReuse).isSome = true := Machine.run_isSome_of_append lateReuse_commits

theorem lateReuse_ends : (authRun lateReuse).ending 3 =
    some (.refresh (refreshOf 4 "fourth"),.error (invalidRefreshToken true)) := rfl

theorem lateRefresh_ends : ∃ response,
    (authRun (lateReuse ++ [.step 3] ++ lateRefresh)).ending 4 =
      some (.refresh lastRefresh,.ok response) := ⟨_,rfl⟩

theorem lateReuse_revokes : RevokesFamily tokenLibrary (authRun lateReuse).committed loginSession
    (.refresh (refreshOf 4 "fourth")) (.error (invalidRefreshToken true)) :=
  .reuse _ (loginSession.rotate 10) (by decide +kernel) (by decide +kernel) ⟨rfl,rfl⟩

end Sample

/-- The first token is reused while a refresh of its successor is about to commit: the session that
it leaves is not revoked, and its token rotates. -/
theorem successor_outlives_reuse : ¬∀ (library : TokenLibrary) (system middle later : AuthSystem)
    (id : ℕ) (request : AuthRequest) (outcome : Attempt AuthResponse)
    (family : StoredAuthSession) (events : List (Event AuthRequest)),
    (machine (authService library) AuthDatabase.SingleLive).Reachable system →
    system.ending id = some (request,outcome) →
    RevokesFamily library system.committed family request outcome →
    (machine (authService library) AuthDatabase.SingleLive).next system (.step id) = some middle →
    (machine (authService library) AuthDatabase.SingleLive).run middle events = some later →
      TokensRefused library later family := by
  intro claim
  obtain ⟨response,ends⟩ := Sample.lateRefresh_ends
  have refused := claim Sample.tokenLibrary _ _ _ 3 _ _ Sample.loginSession Sample.lateRefresh
    (Sample.authRun_reachable Sample.lateReuse_runs) Sample.lateReuse_ends Sample.lateReuse_revokes
    (Machine.next_of_run (Sample.authRun_reached Sample.lateReuse_runs)
      (Sample.authRun_reached Sample.lateReuse_commits))
    (Machine.run_of_append (Sample.authRun_reached Sample.lateReuse_commits)
      (Sample.authRun_reached Sample.lateRefresh_runs))
  obtain ⟨session,member,named⟩ : ∃ session ∈ (Sample.authRun (Sample.lateReuse ++ [.step 3] ++
      Sample.lateRefresh)).committed.authSessions.rows,
      session.SameFamily Sample.loginSession ∧
        Sample.lastRefresh.presents Sample.tokenLibrary = some session.key := by decide +kernel
  exact (refused session member named.1).1 4 _ response ends named.2

namespace Sample

def firstPrincipal : Principal where
  userId := 1
  tenantId := 1
  roleScopes := []
  sessionId := some 1

/-- A session is rotated when its logout has found it and not yet locked it. -/
def lateLogout : List (Event AuthRequest) :=
  [.start 2 (.logout firstPrincipal 11),.step 2,.start 1 (.refresh (refreshOf 2 secondSecret))] ++
    List.replicate 7 (.step 1) ++ [.step 2]

def secondRefresh : List (Event AuthRequest) :=
  [.start 3 (.refresh successorRefresh)] ++ List.replicate 6 (.step 3)

theorem lateLogout_revokes : RevokesFamily tokenLibrary (authRun lateLogout).committed loginSession
    (.logout firstPrincipal 11) (.ok .loggedOut) :=
  .logout _ _ (loginSession.rotate 10) rfl (by decide +kernel) ⟨rfl,rfl⟩

end Sample

/-- The logout is answered, and the token of the session's successor rotates. -/
theorem successor_outlives_logout :
    (Sample.authRun Sample.lateLogout).ending 2 =
      some (.logout Sample.firstPrincipal 11,.ok .loggedOut) ∧
    RevokesFamily Sample.tokenLibrary (Sample.authRun Sample.lateLogout).committed
      Sample.loginSession (.logout Sample.firstPrincipal 11) (.ok .loggedOut) ∧
    ¬Covers (Sample.authRun Sample.lateLogout) 2 Sample.loginSession ∧
    ∃ response, (Sample.authRun (Sample.lateLogout ++ [.step 2] ++ Sample.secondRefresh)).ending 3 =
      some (.refresh Sample.successorRefresh,.ok response) := by
  refine ⟨rfl,Sample.lateLogout_revokes,?_,_,rfl⟩
  unfold Covers
  decide +kernel

end Abacus
