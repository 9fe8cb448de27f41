import Abacus.Model.TenantSession

/-! The settings of a transaction are those that its session is pinned to.
A connection that goes back to the pool has nothing of the session left on it but the empty text,
which no policy takes for a tenant or a store.
-/
set_option autoImplicit false

namespace Abacus.Isolation

open Python (Text text)
open Transition (Machine)

section Blank

/-- A setting that was never made, or was made for a transaction that is over. -/
def Blank (setting : Option Text) : Prop := setting = none ∨ setting = some []

structure Context.Blank (context : Context) : Prop where
  tenantId : Isolation.Blank context.tenantId
  storeScope : Isolation.Blank context.storeScope

theorem blank_released {base current : Option Text} (blank : Blank base) :
    Blank (if current = base then base else some (base.getD [])) := by
  split
  · exact blank
  · rcases blank with rfl | rfl
    · exact .inr rfl
    · exact .inr rfl

theorem Context.Blank.release {base : Context} (blank : base.Blank) (current : Context) :
    (base.release current).Blank :=
  ⟨blank_released blank.tenantId,blank_released blank.storeScope⟩

theorem Context.blank_new : Context.Blank {} := ⟨.inl rfl,.inl rfl⟩

end Blank

section Soundness

variable (uuids : UuidText)

def Sets (setting pinned : Option Text) : Prop :=
  (pinned = none → Blank setting) ∧ ∀ value, pinned = some value → setting = some value

theorem Sets.blank {setting : Option Text} (blank : Blank setting) : Sets setting none :=
  ⟨fun _ => blank,by simp⟩

theorem Sets.value (value : Text) : Sets (some value) (some value) :=
  ⟨by simp,fun _ => id⟩

structure SessionInfo.Applied (info : SessionInfo) (current : Context) : Prop where
  tenantId : Sets current.tenantId (info.tenantId.map uuids.str)
  storeScope : Sets current.storeScope info.storeScope

structure TenantSession.Sound (session : TenantSession) : Prop where
  tenanted : session.info.tenantId = none → session.info.storeScope = none
  scope : ∀ value, session.info.storeScope = some value →
    ∃ storeIds wide, value = TenantSession.scopeText uuids storeIds wide
  applied : ∀ base current, session.transaction = .connected base current →
    base.Blank ∧ session.info.Applied uuids current

structure Process.Sound (process : Process) : Prop where
  sessions : ∀ session ∈ process.sessions, session.Sound uuids
  idle : ∀ context ∈ process.idle, context.Blank

end Soundness

section Steps

variable {uuids : UuidText} {session pinned : TenantSession} {process : Process}

/-- What the listener makes of a connection from the pool. -/
theorem applyTransactionTenantContext_applied {connection : Context}
    (tenanted : session.info.tenantId = none → session.info.storeScope = none)
    (blank : connection.Blank) :
    session.info.Applied uuids (session.applyTransactionTenantContext uuids connection) := by
  unfold TenantSession.applyTransactionTenantContext
  cases tenant : session.info.tenantId with
  | none =>
      refine ⟨?_,?_⟩
      · rw [tenant]
        exact .blank blank.tenantId
      · rw [tenanted tenant]
        exact .blank blank.storeScope
  | some tenantId =>
      cases scope : session.info.storeScope with
      | none =>
          refine ⟨?_,?_⟩
          · rw [tenant]
            exact .value _
          · rw [scope]
            exact .blank blank.storeScope
      | some storeScope =>
          refine ⟨?_,?_⟩
          · rw [tenant]
            exact .value _
          · rw [scope]
            exact .value storeScope

theorem TenantSession.Sound.connect {connection : Context} (sound : session.Sound uuids)
    (blank : connection.Blank) : (session.connect uuids connection).Sound uuids where
  tenanted := sound.tenanted
  scope := sound.scope
  applied base current taken := by
    cases taken
    exact ⟨blank,applyTransactionTenantContext_applied sound.tenanted blank⟩

theorem TenantSession.Sound.pinTenant {tenantId : Uuid} (sound : session.Sound uuids)
    (done : session.pinSessionToTenant tenantId = some pinned) : pinned.Sound uuids := by
  unfold TenantSession.pinSessionToTenant at done
  split at done
  · split at done
    · cases done
    · cases done
      exact sound
  · rename_i unpinned
    split at done
    · cases done
    · rename_i idle
      cases done
      have outside : session.transaction = .none := by
        simpa [TenantSession.inTransaction] using idle
      refine ⟨by simp,sound.scope,fun base current taken => ?_⟩
      dsimp only at taken
      rw [outside] at taken
      cases taken

theorem TenantSession.Sound.pinScope {storeIds : List Uuid} {wide : Bool} {connection : Context}
    (sound : session.Sound uuids) (blank : connection.Blank)
    (done : session.pinSessionToStoreScope uuids storeIds wide connection = some pinned) :
    pinned.Sound uuids := by
  unfold TenantSession.pinSessionToStoreScope at done
  dsimp only at done
  split at done
  · cases done
  rename_i tenant
  split at done
  · cases done
  have texts : ∀ value, some (TenantSession.scopeText uuids storeIds wide) = some value →
      ∃ storeIds wide, value = TenantSession.scopeText uuids storeIds wide := by
    intro value same
    cases same
    exact ⟨storeIds,wide,rfl⟩
  split at done
  · rename_i outside
    cases done
    refine ⟨fun missing => absurd missing tenant,texts,fun base current taken => ?_⟩
    dsimp only at taken
    rw [outside] at taken
    cases taken
  · rename_i begun
    cases done
    refine TenantSession.Sound.connect ⟨fun missing => absurd missing tenant,texts,?_⟩ blank
    intro base current taken
    dsimp only at taken
    rw [begun] at taken
    cases taken
  · rename_i base current connected
    cases done
    obtain ⟨clean,applied⟩ := sound.applied base current connected
    refine ⟨fun missing => absurd missing tenant,texts,fun base current taken => ?_⟩
    cases taken
    exact ⟨clean,applied.tenantId,.value _⟩

theorem Process.Sound.setSession (sound : process.Sound uuids) (index : ℕ)
    (new : session.Sound uuids) : (process.setSession index session).Sound uuids where
  sessions other member := by
    rcases List.mem_or_eq_of_mem_set member with old | rfl
    · exact sound.sessions other old
    · exact new
  idle := sound.idle

theorem Process.Sound.connection (sound : process.Sound uuids) (choice : Option ℕ) :
    (process.connection choice).Blank := by
  unfold Process.connection
  cases found : choice.bind fun index => process.idle[index]? with
  | none => exact Context.blank_new
  | some context =>
      obtain ⟨index,-,listed⟩ := Option.bind_eq_some_iff.mp found
      exact sound.idle context (List.mem_of_getElem? listed)

theorem Process.Sound.withoutConnection (sound : process.Sound uuids) (choice : Option ℕ) :
    ∀ context ∈ process.withoutConnection choice, context.Blank := by
  intro context member
  cases choice with
  | none => exact sound.idle context member
  | some index => exact sound.idle context (List.mem_of_mem_eraseIdx member)

/-- A session between two transactions, or in one that has no connection yet. -/
theorem TenantSession.Sound.apart (sound : session.Sound uuids) {transaction : SessionTransaction}
    (unconnected : ∀ base current, transaction ≠ .connected base current) :
    TenantSession.Sound uuids ⟨session.info,transaction⟩ where
  tenanted := sound.tenanted
  scope := sound.scope
  applied base current taken := absurd taken (unconnected base current)

theorem Process.Sound.next (sound : process.Sound uuids) (event : SessionEvent) :
    (process.next uuids event).Sound uuids := by
  have listed : ∀ {index : ℕ} {session : TenantSession},
      process.sessions[index]? = some session → session.Sound uuids :=
    fun found => sound.sessions _ (List.mem_of_getElem? found)
  cases event with
  | openSession =>
      refine ⟨fun session member => ?_,sound.idle⟩
      rcases List.mem_append.mp member with old | new
      · exact sound.sessions session old
      · rw [List.mem_singleton.mp new]
        exact ⟨fun _ => rfl,by simp,by simp⟩
  | pinSessionToTenant index tenantId =>
      rw [Process.next]
      split
      · rename_i pinned found
        obtain ⟨session,stored,done⟩ := Option.bind_eq_some_iff.mp found
        exact sound.setSession index ((listed stored).pinTenant done)
      · exact sound
  | pinSessionToStoreScope index storeIds wide choice =>
      rw [Process.next]
      split
      · exact sound
      · rename_i session stored
        split
        · exact sound
        · rename_i pinned done
          refine ⟨(sound.setSession index
            ((listed stored).pinScope (sound.connection choice) done)).sessions,?_⟩
          dsimp only
          split
          · exact sound.withoutConnection choice
          · exact sound.idle
  | begin index =>
      rw [Process.next]
      split
      · rename_i info stored
        exact sound.setSession index ((listed stored).apart (by simp))
      · exact sound
  | connect index choice =>
      rw [Process.next]
      split
      · exact sound
      · rename_i session stored
        split
        · exact sound
        · exact ⟨(sound.setSession index
            ((listed stored).connect (sound.connection choice))).sessions,
            sound.withoutConnection choice⟩
  | finish index kept =>
      rw [Process.next]
      split
      · rename_i info base current stored
        have apart : TenantSession.Sound uuids ⟨info,.none⟩ := (listed stored).apart (by simp)
        refine ⟨(sound.setSession index apart).sessions,?_⟩
        have clean := ((listed stored).applied base current rfl).1
        dsimp only
        split
        · intro context member
          rcases List.mem_append.mp member with old | new
          · exact sound.idle context old
          · rw [List.mem_singleton.mp new]
            exact clean.release current
        · exact sound.idle
      · rename_i info stored
        exact sound.setSession index ((listed stored).apart (by simp))
      · exact sound

theorem Process.Sound.run {after : Process} {events : List SessionEvent}
    (sound : process.Sound uuids)
    (reached : (sessionMachine uuids).run process events = some after) : after.Sound uuids := by
  refine Machine.run_invariant (fun before event after sound taken => ?_) sound reached
  cases taken
  exact sound.next event

theorem reachable_sound (reachable : (sessionMachine uuids).Reachable process) :
    process.Sound uuids := by
  obtain ⟨start,events,initial,reached⟩ := reachable
  cases initial
  exact Process.Sound.run ⟨by simp,by simp⟩ reached

end Steps

section Pins

variable {uuids : UuidText} {session later pinned : TenantSession} {process after : Process}

structure TenantSession.Keeps (session later : TenantSession) : Prop where
  tenantId : ∀ tenantId, session.info.tenantId = some tenantId → later.info.tenantId = some tenantId
  storeScope : ∀ scope, session.info.storeScope = some scope → later.info.storeScope = some scope

theorem TenantSession.Keeps.same (same : later.info = session.info) : session.Keeps later :=
  ⟨fun _ => by simp [same],fun _ => by simp [same]⟩

theorem TenantSession.Keeps.trans {last : TenantSession} (first : session.Keeps later)
    (second : later.Keeps last) : session.Keeps last :=
  ⟨fun tenantId here => second.tenantId tenantId (first.tenantId tenantId here),
    fun scope here => second.storeScope scope (first.storeScope scope here)⟩

theorem pinTenant_keeps {tenantId : Uuid}
    (done : session.pinSessionToTenant tenantId = some pinned) : session.Keeps pinned := by
  unfold TenantSession.pinSessionToTenant at done
  split at done
  · split at done
    · cases done
    · cases done
      exact .same rfl
  · rename_i unpinned
    split at done
    · cases done
    · cases done
      exact ⟨fun other here => by simp [unpinned] at here,fun _ here => here⟩

theorem pinScope_keeps {storeIds : List Uuid} {wide : Bool} {connection : Context}
    (done : session.pinSessionToStoreScope uuids storeIds wide connection = some pinned) :
    session.Keeps pinned ∧
      pinned.info.storeScope = some (TenantSession.scopeText uuids storeIds wide) := by
  unfold TenantSession.pinSessionToStoreScope at done
  dsimp only at done
  split at done
  · cases done
  split at done
  · cases done
  rename_i agrees
  have rebinds : ∀ scope, session.info.storeScope = some scope →
      some (TenantSession.scopeText uuids storeIds wide) = some scope := by
    intro scope here
    by_contra differs
    exact agrees ⟨by simp [here],by rw [here]; exact Ne.symm differs⟩
  split at done
  all_goals
    cases done
    exact ⟨⟨fun _ here => here,rebinds⟩,rfl⟩

theorem setSession_keeps {index other : ℕ}
    (stored : process.sessions[other]? = some session)
    (keeps : ∀ old, process.sessions[index]? = some old → old.Keeps pinned) :
    ∃ later, (process.setSession index pinned).sessions[other]? = some later ∧
      session.Keeps later := by
  rw [Process.setSession,List.getElem?_set]
  obtain ⟨inside,-⟩ := List.getElem?_eq_some_iff.mp stored
  by_cases same : index = other
  · subst same
    exact ⟨pinned,by simp [inside],keeps session stored⟩
  · exact ⟨session,by simpa [same] using stored,.same rfl⟩

theorem next_keeps {index : ℕ} (stored : process.sessions[index]? = some session)
    (event : SessionEvent) : ∃ later, (process.next uuids event).sessions[index]? = some later ∧
      session.Keeps later := by
  have unchanged : ∃ later, process.sessions[index]? = some later ∧ session.Keeps later :=
    ⟨session,stored,.same rfl⟩
  cases event with
  | openSession =>
      refine ⟨session,?_,.same rfl⟩
      obtain ⟨inside,-⟩ := List.getElem?_eq_some_iff.mp stored
      rw [Process.next,List.getElem?_append_left inside,stored]
  | pinSessionToTenant other tenantId =>
      rw [Process.next]
      split
      · rename_i pinned found
        obtain ⟨old,place,done⟩ := Option.bind_eq_some_iff.mp found
        refine setSession_keeps stored fun here same => ?_
        cases place.symm.trans same
        exact pinTenant_keeps done
      · exact unchanged
  | pinSessionToStoreScope other storeIds wide choice =>
      rw [Process.next]
      split
      · exact unchanged
      · rename_i old place
        split
        · exact unchanged
        · rename_i pinned done
          refine setSession_keeps stored fun here same => ?_
          cases place.symm.trans same
          exact (pinScope_keeps done).1
  | begin other =>
      rw [Process.next]
      split
      · rename_i info place
        refine setSession_keeps stored fun here same => ?_
        cases place.symm.trans same
        exact .same rfl
      · exact unchanged
  | connect other choice =>
      rw [Process.next]
      split
      · exact unchanged
      · rename_i old place
        split
        · exact unchanged
        · refine setSession_keeps stored fun here same => ?_
          cases place.symm.trans same
          exact .same rfl
  | finish other kept =>
      rw [Process.next]
      split
      · rename_i info base current place
        refine setSession_keeps stored fun here same => ?_
        cases place.symm.trans same
        exact .same rfl
      · rename_i info place
        refine setSession_keeps stored fun here same => ?_
        cases place.symm.trans same
        exact .same rfl
      · exact unchanged

theorem run_keeps {index : ℕ} {events : List SessionEvent}
    (stored : process.sessions[index]? = some session)
    (reached : (sessionMachine uuids).run process events = some after) :
    ∃ later, after.sessions[index]? = some later ∧ session.Keeps later := by
  have step : ∀ before event next,
      (∃ later, before.sessions[index]? = some later ∧ session.Keeps later) →
      (sessionMachine uuids).next before event = some next →
      ∃ later, next.sessions[index]? = some later ∧ session.Keeps later := by
    rintro before event next ⟨middle,place,kept⟩ taken
    cases taken
    obtain ⟨later,found,keeps⟩ := next_keeps place event
    exact ⟨later,found,kept.trans keeps⟩
  exact Machine.run_invariant step ⟨session,stored,.same rfl⟩ reached

end Pins

end Abacus.Isolation
