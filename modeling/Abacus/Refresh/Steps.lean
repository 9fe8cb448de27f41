import Abacus.Model.AuthSessions

/-! The steps of the session services.
A session is only written under the lock of its row, and a rotation only commits on a
session that is still live under that lock.
-/
set_option autoImplicit false

namespace Abacus

open Relational Transition Transaction

namespace AuthDatabase

/-- Two live sessions of one family are the same. -/
def SingleLive (db : AuthDatabase) : Prop :=
  ∀ session ∈ db.authSessions.rows, ∀ other ∈ db.authSessions.rows,
    session.Live → other.Live → session.SameFamily other → session = other

variable {db after : AuthDatabase} {sessionIds : List Uuid} {sessionId : Uuid} {now : Time}
  {session replacement : StoredAuthSession}

theorem mem_revokeSessions : session ∈ (db.revokeSessions sessionIds now).authSessions.rows ↔
    ∃ old ∈ db.authSessions.rows, session = if old.key ∈ sessionIds then old.revoke now else old := by
  rw [revokeSessions,Table.mem_updateWhere]
  simp

theorem find?_revokeSessions : (db.revokeSessions sessionIds now).authSessions.find? sessionId =
    (db.authSessions.find? sessionId).map fun old =>
      if old.key ∈ sessionIds then old.revoke now else old := by
  rw [revokeSessions,Table.find?_updateWhere]
  simp

theorem rotateSession_inserted (written : db.rotateSession sessionId replacement now = some after) :
    (db.authSessions.modify sessionId (StoredAuthSession.rotate now)
      (StoredAuthSession.rotate_key now)).insert replacement = some after.authSessions := by
  unfold rotateSession at written
  dsimp only at written
  split at written
  · cases written
  · obtain ⟨authSessions,inserted,rfl⟩ := Option.map_eq_some_iff.mp written
    exact inserted

theorem mem_rotateSession (written : db.rotateSession sessionId replacement now = some after) :
    session ∈ after.authSessions.rows ↔ session = replacement ∨
      ∃ old ∈ db.authSessions.rows, session = if old.key = sessionId then old.rotate now else old := by
  rw [Table.mem_insert (rotateSession_inserted written),Table.modify,Table.mem_updateWhere]
  simp [or_comm]

/-- The successor is new, so what was found is found again, rotated or as it was. -/
theorem find?_rotateSession {other : Uuid} {found : StoredAuthSession}
    (written : db.rotateSession sessionId replacement now = some after)
    (stored : db.authSessions.find? other = some found) :
    after.authSessions.find? other =
      some (if other = sessionId then found.rotate now else found) := by
  have inserted := rotateSession_inserted written
  have fresh := (Table.insert_eq_some inserted).1
  rw [Table.find?_modify] at fresh
  have modified : (db.authSessions.modify sessionId (StoredAuthSession.rotate now)
      (StoredAuthSession.rotate_key now)).find? other = some (if other = sessionId then found.rotate now else found) := by
    rw [Table.find?_modify]
    split
    · rename_i same
      rw [← same,stored]
      rfl
    · exact stored
  rw [Table.find?_insert inserted,if_neg,modified]
  rintro rfl
  rw [Table.find?_modify,fresh] at modified
  cases modified

end AuthDatabase

def AuthSessionRotation.presents (library : TokenLibrary) (rotation : AuthSessionRotation) :
    Option Uuid := (parseRefreshToken library rotation.rawRefreshToken).map Prod.fst

def AuthRequest.Unrotated : AuthRequest → Attempt AuthResponse → Prop
  | .refresh _,.ok _ => False
  | _,_ => True

/-- What a request may commit while it holds the locks. -/
inductive AuthStep (library : TokenLibrary) (held : List AuthLock) (db : AuthDatabase) :
    AuthRequest → AuthDatabase → Attempt AuthResponse → Prop where
  | spared {request : AuthRequest} {after : AuthDatabase} {outcome : Attempt AuthResponse}
      (spares : db.SparesSessions after) (unrotated : request.Unrotated outcome) :
      AuthStep library held db request after outcome
  | revoked {request : AuthRequest} {sessionIds : List Uuid} {now : Time}
      {outcome : Attempt AuthResponse} (locked : ∀ sessionId ∈ sessionIds, .session sessionId ∈ held)
      (unrotated : request.Unrotated outcome) :
      AuthStep library held db request (db.revokeSessions sessionIds now) outcome
  | rotated {rotation : AuthSessionRotation} {session replacement : StoredAuthSession}
      {after : AuthDatabase} {response : AuthResponse}
      (presented : rotation.presents library = some session.key)
      (locked : .session session.key ∈ held)
      (found : db.authSessions.find? session.key = some session) (live : session.Live)
      (succeeds : replacement.SameFamily session) (fresh : replacement.Live)
      (written : db.rotateSession session.key replacement rotation.now = some after) :
      AuthStep library held db (.refresh rotation) after (.ok response)

theorem AuthDatabase.SparesSessions.of_same {db after : AuthDatabase}
    (same : after.authSessions = db.authSessions) : db.SparesSessions after := by
  constructor
  · intro session stored
    rw [same]
    exact stored
  · intro session stored fresh
    rw [same] at stored
    exact absurd stored fresh

section Preservation

variable {library : TokenLibrary} {held : List AuthLock} {db after : AuthDatabase}
  {request : AuthRequest} {outcome : Attempt AuthResponse}

theorem AuthStep.singleLive (step : AuthStep library held db request after outcome)
    (single : db.SingleLive) : after.SingleLive := by
  intro session stored other otherStored live otherLive family
  cases step with
  | spared spares unrotated =>
      by_cases old : session ∈ db.authSessions.rows
      · by_cases otherOld : other ∈ db.authSessions.rows
        · exact single session old other otherOld live otherLive family
        · exact spares.opens other otherStored otherOld session stored family
      · symm
        exact spares.opens session stored old other otherStored ⟨family.1.symm,family.2.symm⟩
  | revoked locked unrotated =>
      obtain ⟨old,oldStored,rfl⟩ := AuthDatabase.mem_revokeSessions.mp stored
      obtain ⟨otherOld,otherOldStored,rfl⟩ := AuthDatabase.mem_revokeSessions.mp otherStored
      split at live
      · cases live.2
      · split at otherLive
        · cases otherLive.2
        · rename_i spared otherSpared
          rw [if_neg spared,if_neg otherSpared] at family ⊢
          exact single old oldStored otherOld otherOldStored live otherLive family
  | @rotated rotation rotated replacement _ response presented locked found wasLive succeeds fresh
      written =>
      have kept : ∀ session ∈ after.authSessions.rows, session.Live → session = replacement ∨
          session ∈ db.authSessions.rows ∧ session.key ≠ rotated.key := by
        intro session stored live
        rcases (AuthDatabase.mem_rotateSession written).mp stored with rfl | ⟨old,oldStored,rfl⟩
        · exact .inl rfl
        · right
          split at live
          · cases live.1
          · rename_i apart
            rw [if_neg apart]
            exact ⟨oldStored,apart⟩
      have lone : ∀ session ∈ db.authSessions.rows, session.key ≠ rotated.key → session.Live →
          ¬session.SameFamily rotated := by
        intro session stored apart live family
        have same := single session stored rotated (Table.mem_of_find? found) live wasLive family
        exact apart (congrArg StoredAuthSession.key same)
      rcases kept session stored live with rfl | ⟨old,apart⟩
      · rcases kept other otherStored otherLive with rfl | ⟨otherOld,otherApart⟩
        · rfl
        · exact absurd ⟨family.1.symm.trans succeeds.1,family.2.symm.trans succeeds.2⟩
            (lone other otherOld otherApart otherLive)
      · rcases kept other otherStored otherLive with rfl | ⟨otherOld,otherApart⟩
        · exact absurd ⟨family.1.trans succeeds.1,family.2.trans succeeds.2⟩
            (lone session old apart live)
        · exact single session old other otherOld live otherLive family

/-- Whatever is not locked by the step stays as it is. -/
theorem AuthStep.session (step : AuthStep library held db request after outcome) {sessionId : Uuid}
    (apart : .session sessionId ∉ held) {session : StoredAuthSession}
    (found : db.authSessions.find? sessionId = some session) :
    after.authSessions.find? sessionId = some session := by
  cases step with
  | spared spares unrotated =>
      have stored := spares.keeps session (Table.mem_of_find? found)
      rw [← Table.key_of_find? found]
      exact Table.find?_of_mem stored
  | revoked locked unrotated =>
      rw [AuthDatabase.find?_revokeSessions,found,Option.map_some,if_neg]
      rw [Table.key_of_find? found]
      exact fun member => apart (locked sessionId member)
  | rotated presented locked rotatedFound live succeeds fresh written =>
      rw [AuthDatabase.find?_rotateSession written found,if_neg]
      rintro rfl
      exact apart locked

def AuthDatabase.Rotated (db : AuthDatabase) (sessionId : Uuid) : Prop :=
  ∃ session, db.authSessions.find? sessionId = some session ∧ session.rotatedAt ≠ none

theorem AuthStep.keepsRotated (step : AuthStep library held db request after outcome)
    {sessionId : Uuid} (rotated : db.Rotated sessionId) : after.Rotated sessionId := by
  obtain ⟨session,found,marked⟩ := rotated
  cases step with
  | spared spares unrotated =>
      refine ⟨session,?_,marked⟩
      have stored := spares.keeps session (Table.mem_of_find? found)
      rw [← Table.key_of_find? found]
      exact Table.find?_of_mem stored
  | revoked locked unrotated =>
      refine ⟨_,by rw [AuthDatabase.find?_revokeSessions,found,Option.map_some],?_⟩
      split <;> exact marked
  | rotated presented locked rotatedFound live succeeds fresh written =>
      refine ⟨_,AuthDatabase.find?_rotateSession written found,?_⟩
      split
      · simp [StoredAuthSession.rotate]
      · exact marked

/-- A successful refresh finds its session unrotated and leaves it rotated. -/
theorem AuthStep.rotates {rotation : AuthSessionRotation} {response : AuthResponse}
    (step : AuthStep library held db (.refresh rotation) after (.ok response)) :
    ∃ sessionId, rotation.presents library = some sessionId ∧ ¬db.Rotated sessionId ∧
      after.Rotated sessionId := by
  cases step with
  | spared spares unrotated => cases unrotated
  | revoked locked unrotated => cases unrotated
  | @rotated _ session replacement _ _ presented locked found live succeeds fresh written =>
      refine ⟨session.key,presented,?_,?_⟩
      · rintro ⟨other,otherFound,marked⟩
        rw [found] at otherFound
        cases otherFound
        exact marked live.1
      · refine ⟨_,AuthDatabase.find?_rotateSession written found,?_⟩
        simp [StoredAuthSession.rotate]

end Preservation

section Discipline

variable (library : TokenLibrary)

def CommitsAuth (request : AuthRequest) (held : List AuthLock) (db after : AuthDatabase)
    (outcome : Attempt AuthResponse) : Prop := AuthStep library held db request after outcome

def authDiscipline :
    Discipline AuthDatabase AuthLock (Attempt AuthResponse) AuthRequest where
  Sound := AuthDatabase.SingleLive
  Commits := CommitsAuth library
  keeps := fun _ _ _ _ _ sound commits => AuthStep.singleLive commits sound

end Discipline

end Abacus
