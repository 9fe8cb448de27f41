import Abacus.Model.CurrentPrincipal

/-! Sessions of rotating refresh tokens (`services/identity.py`).
A refresh locks the session it presents and rotates it into a successor of its family. The
reuse of a rotated token revokes the family by one `UPDATE`, which sees the rows of its own
snapshot and waits for each of them.
-/
set_option autoImplicit false

namespace Abacus

open Relational Transaction

/-- A row of `auth_sessions` with the columns that the services read beside the principal's. -/
structure StoredAuthSession extends AuthSession where
  familyId : Uuid
  refreshTokenHash : String
  lastUsedAt : Option Time
deriving DecidableEq

namespace StoredAuthSession

def key (session : StoredAuthSession) : Uuid := session.id

def SameFamily (session other : StoredAuthSession) : Prop :=
  session.tenantId = other.tenantId ∧ session.familyId = other.familyId

instance (session other : StoredAuthSession) : Decidable (session.SameFamily other) :=
  inferInstanceAs (Decidable (_ ∧ _))

def Live (session : StoredAuthSession) : Prop :=
  session.rotatedAt = none ∧ session.revokedAt = none

instance (session : StoredAuthSession) : Decidable session.Live :=
  inferInstanceAs (Decidable (_ ∧ _))

def revoke (now : Time) (session : StoredAuthSession) : StoredAuthSession :=
  { session with revokedAt := some now }

def rotate (now : Time) (session : StoredAuthSession) : StoredAuthSession :=
  { session with rotatedAt := some now, lastUsedAt := some now }

@[simp] theorem revoke_key (now : Time) (session : StoredAuthSession) :
    (session.revoke now).key = session.key := rfl

@[simp] theorem rotate_key (now : Time) (session : StoredAuthSession) :
    (session.rotate now).key = session.key := rfl

end StoredAuthSession

structure AuthDatabase where
  tenantId : Uuid
  tenantCode : String
  tenantStatus : TenantStatus
  users : Table User.id
  authSessions : Table StoredAuthSession.key

inductive AuthLock where
  | session (sessionId : Uuid)
  | user (userId : Uuid)
deriving DecidableEq, Repr

structure AuthSessionToken where
  session : StoredAuthSession
  refreshToken : String
deriving DecidableEq

inductive AuthResponse where
  | rotated (user : User) (token : AuthSessionToken)
  | loggedOut
  | worked
deriving DecidableEq

abbrev AuthProgram := Service AuthDatabase AuthLock AuthResponse

namespace AuthDatabase

def userOf (db : AuthDatabase) (tenantId userId : Uuid) : Option User :=
  if tenantId = db.tenantId then db.users.find? userId else none

def revokeSessions (db : AuthDatabase) (sessionIds : List Uuid) (now : Time) : AuthDatabase :=
  { db with
    authSessions := db.authSessions.updateWhere (fun session => session.key ∈ sessionIds)
      (StoredAuthSession.revoke now) (StoredAuthSession.revoke_key now) }

/-- The session is marked as rotated and its successor inserted; identifiers and hashes are
unique. -/
def rotateSession (db : AuthDatabase) (sessionId : Uuid) (replacement : StoredAuthSession)
    (now : Time) : Option AuthDatabase :=
  let rotated := db.authSessions.modify sessionId (StoredAuthSession.rotate now)
    (StoredAuthSession.rotate_key now)
  if rotated.rows.any fun other => other.refreshTokenHash = replacement.refreshTokenHash then none
  else (rotated.insert replacement).map fun authSessions => { db with authSessions := authSessions }

def bumpTokenVersion (db : AuthDatabase) (user : User) : AuthDatabase :=
  { db with
    users := db.users.modify user.id
      (fun row => { row with tokenVersion := nextTokenVersion user.tokenVersion }) fun _ => rfl }

end AuthDatabase

/-- The library and SQL functions that read and write tokens: `uuid.UUID`, `str` of it, the
SHA-256 digest in hexadecimal, and `lower(btrim(…))` of a tenant code. -/
structure TokenLibrary where
  uuid : String → Option Uuid
  showUuid : Uuid → String
  sha256 : String → String
  normalizedCode : String → String

def invalidRefreshToken (reused : Bool) : Failure :=
  .apiError 401 "Unauthorized"
    (if reused then "The refresh token was already used; its session family has been revoked."
    else "The refresh token is missing, invalid, expired, or revoked.")
    (some (if reused then "refresh_token_reused" else "invalid_refresh_token"))

/-- `_parse_refresh_token`: the session before the first dot, and the secret after it. -/
def parseRefreshToken (library : TokenLibrary) (rawToken : String) : Option (Uuid × String) :=
  match rawToken.toList.span fun letter => letter ≠ '.' with
  | (_,[]) => none
  | (rawSessionId,_ :: secret) =>
      (library.uuid (String.ofList rawSessionId)).bind fun sessionId =>
        if secret.length < 32 then none else some (sessionId,String.ofList secret)

/-- A refresh with the clock it reads and the identifier and secret it draws. -/
structure AuthSessionRotation where
  tenantSession : Bool
  tenantCode : String
  rawRefreshToken : String
  lifetime : Time
  now : Time
  createdAt : Time
  newSessionId : Uuid
  newSecret : String

section Rotation

variable (library : TokenLibrary) (rotation : AuthSessionRotation)

/-- `_new_auth_session_token` for the family of the rotated session. -/
def newAuthSessionToken (user : User) (tenantId familyId : Uuid) : AuthSessionToken where
  session :=
    { id := rotation.newSessionId
      tenantId := tenantId
      userId := user.id
      tokenVersion := user.tokenVersion
      expiresAt := rotation.createdAt + rotation.lifetime
      rotatedAt := none
      revokedAt := none
      familyId := familyId
      refreshTokenHash := library.sha256 rotation.newSecret
      lastUsedAt := none }
  refreshToken := library.showUuid rotation.newSessionId ++ "." ++ rotation.newSecret

/-- A pinned session is one of the tenant that the code resolves to. Under another tenant none of
this one's sessions is visible. -/
def resolveLoginTenant (next : AuthProgram) : AuthProgram :=
  if rotation.tenantSession then
    .read fun db => ensure (db.tenantStatus = .active ∧
      db.tenantCode = library.normalizedCode rotation.tenantCode) (invalidRefreshToken false) next
  else next

/-- The session for update: a row that exists is locked, and then read again. -/
def lockAuthSession (sessionId : Uuid) (next : Option StoredAuthSession → AuthProgram) :
    AuthProgram :=
  .read fun seen =>
    if (seen.authSessions.find? sessionId).isNone then next none
    else .lock (.session sessionId) fun locked => next (locked.authSessions.find? sessionId)

def lockUser (tenantId userId : Uuid) (next : Option User → AuthProgram) : AuthProgram :=
  .read fun seen =>
    if (seen.userOf tenantId userId).isNone then next none
    else .lock (.user userId) fun locked => next (locked.userOf tenantId userId)

/-- The rows of an `UPDATE`: each is locked and judged again before it counts. -/
def lockUnrevoked (family : StoredAuthSession) :
    List Uuid → List Uuid → (List Uuid → AuthProgram) → AuthProgram
  | [],sessionIds,next => next sessionIds
  | sessionId :: rest,sessionIds,next => .lock (.session sessionId) fun db =>
      if (db.authSessions.find? sessionId).any fun session =>
          session.SameFamily family ∧ session.revokedAt = none then
        lockUnrevoked family rest (sessionId :: sessionIds) next
      else lockUnrevoked family rest sessionIds next

/-- The reuse of a rotated token: the family is revoked, and the failure follows the commit. -/
def revokeFamily (session : StoredAuthSession) : AuthProgram :=
  .read fun seen =>
    lockUnrevoked session
      ((seen.authSessions.select fun other =>
        other.SameFamily session ∧ other.revokedAt = none).map StoredAuthSession.key) []
      fun sessionIds => .finish fun db =>
        (db.revokeSessions sessionIds rotation.now,.error (invalidRefreshToken true))

def revokeRefused (session : StoredAuthSession) : AuthProgram :=
  .finish fun db => (db.revokeSessions [session.key] rotation.now,.error (invalidRefreshToken false))

def replaceSession (session : StoredAuthSession) (user : User) : AuthProgram :=
  let token := newAuthSessionToken library rotation user session.tenantId session.familyId
  commitOr (.integrityError "auth_sessions") (.rotated user token) fun db =>
    db.rotateSession session.key token.session rotation.now

def refreshSession (secret : String) (session : StoredAuthSession) : AuthProgram :=
  ensure (library.sha256 secret = session.refreshTokenHash) (invalidRefreshToken false)
    (if session.rotatedAt.isSome then revokeFamily rotation session
    else ensure (session.revokedAt = none ∧ rotation.now < session.expiresAt)
      (invalidRefreshToken false)
      (lockUser session.tenantId session.userId fun user =>
        .read fun tenant => user.elim (revokeRefused rotation session) fun user =>
          if user.status ≠ .active ∨ tenant.tenantStatus ≠ .active ∨
              user.tokenVersion ≠ session.tokenVersion then
            revokeRefused rotation session
          else replaceSession library rotation session user))

/-- `rotate_auth_session`. -/
def rotateAuthSession : AuthProgram :=
  (parseRefreshToken library rotation.rawRefreshToken).elim (abandon (invalidRefreshToken false))
    fun presented => resolveLoginTenant library rotation
      (lockAuthSession presented.1 fun found =>
        found.elim (abandon (invalidRefreshToken false))
          (refreshSession library rotation presented.2))

end Rotation

section Logout

variable (principal : Principal)

def AuthDatabase.sessionOf (db : AuthDatabase) (sessionId : Uuid) : Option StoredAuthSession :=
  (db.authSessions.find? sessionId).filter fun session =>
    session.tenantId = principal.tenantId ∧ session.userId = principal.userId

/-- `revoke_auth_session`. -/
def revokeAuthSession (now : Time) : AuthProgram :=
  principal.sessionId.elim
    (lockUser principal.tenantId principal.userId fun user =>
      user.elim (answer .loggedOut) fun user =>
        .finish fun db => (db.bumpTokenVersion user,.ok .loggedOut))
    fun sessionId => .read fun seen =>
      if (seen.sessionOf principal sessionId).isNone then answer .loggedOut
      else .lock (.session sessionId) fun locked =>
        (locked.sessionOf principal sessionId).elim (answer .loggedOut) fun session =>
          if session.revokedAt = none then
            .finish fun db => (db.revokeSessions [session.key] now,.ok .loggedOut)
          else answer .loggedOut

end Logout

/-- Nothing happens to the stored sessions, and a new one opens a family of its own. -/
structure AuthDatabase.SparesSessions (db after : AuthDatabase) : Prop where
  keeps : ∀ session ∈ db.authSessions.rows, session ∈ after.authSessions.rows
  opens : ∀ session ∈ after.authSessions.rows, session ∉ db.authSessions.rows →
    ∀ other ∈ after.authSessions.rows, other.SameFamily session → other = session

/-- Any other transaction: logins draw the family of their session afresh, and users and the tenant
may change in any way. -/
structure OtherAuthWork where
  write : AuthDatabase → AuthDatabase
  spares : ∀ db : AuthDatabase, db.SparesSessions (write db)

inductive AuthRequest where
  | refresh (rotation : AuthSessionRotation)
  | logout (principal : Principal) (now : Time)
  | other (work : OtherAuthWork)

def authService (library : TokenLibrary) : AuthRequest → AuthProgram
  | .refresh rotation => rotateAuthSession library rotation
  | .logout principal now => revokeAuthSession principal now
  | .other work => .finish fun db => (work.write db,.ok .worked)

end Abacus
