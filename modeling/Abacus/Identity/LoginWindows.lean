import Abacus.Model.LoginThrottle

/-! The windows of the login throttle.
A stored window counts the attempts that are charged to it, and each call charges attempts to
stored windows or gives them back.
-/
set_option autoImplicit false

namespace Abacus

open Python (Text)
open Relational (Table)

abbrev Charge := ThrottleKey × ℕ

namespace LoginThrottle

section Windows

variable {settings : LoginThrottleSettings} {entries : LoginWindows} {key other : ThrottleKey}
  {now : ℚ} {window : LoginAttemptWindow}

theorem find?_dropKey (entries : LoginWindows) (key other : ThrottleKey) :
    (dropKey entries key).find? other = if other = key then none else entries.find? other := by
  rw [dropKey,Table.find?_deleteWhere]
  cases found : entries.find? other with
  | none => simp
  | some window =>
      have keyed : window.key = other := Table.key_of_find? found
      by_cases same : other = key <;> simp [keyed,same]

theorem dropKey_sublist : (dropKey entries key).rows.Sublist entries.rows :=
  List.filter_sublist

/-- An active window is the stored one, and nothing but an expired window is dropped. -/
theorem activeWindow_spec (settings : LoginThrottleSettings) (entries : LoginWindows)
    (key : ThrottleKey) (now : ℚ) :
    (activeWindow settings entries key now).1.rows.Sublist entries.rows ∧
    (activeWindow settings entries key now).2 =
      (activeWindow settings entries key now).1.find? key ∧
    ∀ other, other ≠ key →
      (activeWindow settings entries key now).1.find? other = entries.find? other := by
  unfold activeWindow
  split
  · rename_i absent
    exact ⟨List.Sublist.refl _,absent.symm,fun _ _ => rfl⟩
  · rename_i window found
    split
    · refine ⟨dropKey_sublist,?_,?_⟩
      · rw [find?_dropKey,if_pos rfl]
      · intro other apart
        rw [find?_dropKey,if_neg apart]
    · exact ⟨List.Sublist.refl _,found.symm,fun _ _ => rfl⟩

/-- A window of the key is open, under an identity of its own if there was none. -/
theorem openWindow_spec (throttle : LoginThrottle) (key : ThrottleKey) (now : ℚ) :
    (throttle.openWindow key now (throttle.entries.find? key)).1.entries.find? key =
        some (throttle.openWindow key now (throttle.entries.find? key)).2 ∧
    (∀ other, other ≠ key →
      (throttle.openWindow key now (throttle.entries.find? key)).1.entries.find? other =
        throttle.entries.find? other) := by
  cases found : throttle.entries.find? key with
  | none =>
      refine ⟨?_,?_⟩
      · exact (Table.find?_put ..).trans (if_pos rfl)
      · exact fun other apart => (Table.find?_put ..).trans (if_neg apart.symm)
  | some window => exact ⟨found,fun _ _ => rfl⟩

end Windows

section Accounts

variable {settings : LoginThrottleSettings} {throttle : LoginThrottle} {charges rest : List Charge}
  {opening : List ThrottleKey} {key : ThrottleKey}

def limit (settings : LoginThrottleSettings) : ThrottleKey → ℕ
  | .ip _ => settings.ipLimit
  | .account _ => settings.accountLimit

/-- A window that is being opened has room for one more attempt, any other has at least one. -/
def InBounds (settings : LoginThrottleSettings) (opening : List ThrottleKey)
    (window : LoginAttemptWindow) : Prop :=
  if window.key ∈ opening then 0 ≤ window.attempts ∧ window.attempts < limit settings window.key
  else 1 ≤ window.attempts ∧ window.attempts ≤ limit settings window.key

/-- Every stored window counts its charges, and identities have not been given away in advance. -/
structure Accounted (settings : LoginThrottleSettings) (opening : List ThrottleKey)
    (throttle : LoginThrottle) (charges : List Charge) : Prop where
  bounded : throttle.entries.rows.length ≤ settings.maxEntries
  counted : ∀ window ∈ throttle.entries.rows,
    window.attempts = (charges.count (window.key,window.identity) : ℤ)
  inBounds : ∀ window ∈ throttle.entries.rows, InBounds settings opening window
  identities : ∀ window ∈ throttle.entries.rows, window.identity < throttle.windows
  charged : ∀ charge ∈ charges, charge.2 < throttle.windows

theorem Accounted.shrink {entries : LoginWindows}
    (accounted : Accounted settings opening throttle charges)
    (fewer : entries.rows.Sublist throttle.entries.rows) :
    Accounted settings opening ⟨entries,throttle.windows⟩ charges where
  bounded := fewer.length_le.trans accounted.bounded
  counted window member := accounted.counted window (fewer.subset member)
  inBounds window member := accounted.inBounds window (fewer.subset member)
  identities window member := accounted.identities window (fewer.subset member)
  charged := accounted.charged

theorem Accounted.perm {other : List Charge}
    (accounted : Accounted settings opening throttle charges) (perm : charges.Perm other) :
    Accounted settings opening throttle other where
  bounded := accounted.bounded
  counted window member := by
    rw [← perm.count_eq]
    exact accounted.counted window member
  inBounds := accounted.inBounds
  identities := accounted.identities
  charged charge member := accounted.charged charge (perm.mem_iff.mpr member)

/-- Keys with room for one more attempt may be opened. -/
theorem Accounted.reopen (accounted : Accounted settings [] throttle charges)
    (room : ∀ window ∈ throttle.entries.rows, window.key ∈ opening →
      window.attempts < limit settings window.key) :
    Accounted settings opening throttle charges where
  bounded := accounted.bounded
  counted := accounted.counted
  inBounds window member := by
    have bounds := accounted.inBounds window member
    rw [InBounds,if_neg List.not_mem_nil] at bounds
    by_cases opened : window.key ∈ opening
    · rw [InBounds,if_pos opened]
      exact ⟨Int.le_of_lt bounds.1,room window member opened⟩
    · rw [InBounds,if_neg opened]
      exact bounds
  identities := accounted.identities
  charged := accounted.charged

theorem limit_pos (settings : LoginThrottleSettings) (key : ThrottleKey) :
    0 < (limit settings key : ℤ) := by
  cases key with
  | ip address => exact Int.natCast_pos.mpr settings.ipLimitPositive
  | account digest => exact Int.natCast_pos.mpr settings.accountLimitPositive

/-- A new window has no charges, since its identity is new. -/
theorem Accounted.openWindow (accounted : Accounted settings opening throttle charges) (now : ℚ)
    (listed : key ∈ opening)
    (room : throttle.entries.rows.length +
      (if (throttle.entries.find? key).isNone then 1 else 0) ≤ settings.maxEntries) :
    Accounted settings opening
      (throttle.openWindow key now (throttle.entries.find? key)).1 charges := by
  cases found : throttle.entries.find? key with
  | some window => exact accounted
  | none =>
      rw [found,Option.isNone_none,if_pos rfl] at room
      have rows : (throttle.entries.put ⟨key,throttle.windows,now,0⟩).rows = _ :=
        Table.rows_put_of_fresh found
      have fresh : charges.count (key,throttle.windows) = 0 :=
        List.count_eq_zero.mpr fun member => lt_irrefl _ (accounted.charged _ member)
      refine ⟨?_,?_,?_,?_,?_⟩
      · change (throttle.entries.put _).rows.length ≤ _
        rw [rows,List.length_append]
        exact room
      · intro window member
        rcases Table.mem_put.mp member with rfl | ⟨stored,-⟩
        · exact (congrArg Int.ofNat fresh).symm
        · exact accounted.counted window stored
      · intro window member
        rcases Table.mem_put.mp member with rfl | ⟨stored,-⟩
        · rw [InBounds,if_pos listed]
          exact ⟨le_rfl,limit_pos settings key⟩
        · exact accounted.inBounds window stored
      · intro window member
        rcases Table.mem_put.mp member with rfl | ⟨stored,-⟩
        · exact Nat.lt_succ_self _
        · exact Nat.lt_succ_of_lt (accounted.identities window stored)
      · exact fun charge member => Nat.lt_succ_of_lt (accounted.charged charge member)

theorem mem_adjust {entries : LoginWindows} {change : ℤ} {window : LoginAttemptWindow} :
    window ∈ (adjust entries key change).rows ↔
      ∃ old ∈ entries.rows, window = if old.key = key then adjusted change old else old := by
  rw [adjust,Table.modify,Table.mem_updateWhere]
  simp only [decide_eq_true_eq]

theorem only_window {window old : LoginAttemptWindow}
    (found : throttle.entries.find? key = some window) (member : old ∈ throttle.entries.rows)
    (same : old.key = key) : old = window := by
  obtain ⟨stored,keyed⟩ := (Table.find?_eq_some_iff ..).mp found
  exact throttle.entries.eq_of_key member stored (same.trans keyed.symm)

theorem identity_adjusted {change : ℤ} {old : LoginAttemptWindow} :
    (if old.key = key then adjusted change old else old).identity = old.identity := by
  split <;> rfl

theorem count_other {window : LoginAttemptWindow} {identity : ℕ} (apart : window.key ≠ key) :
    ((key,identity) :: charges).count (window.key,window.identity) =
      charges.count (window.key,window.identity) := by
  apply List.count_cons_of_ne
  intro same
  exact apart (congrArg Prod.fst same).symm

/-- One more attempt in the open window of a key, charged to that window. -/
theorem Accounted.charge {window : LoginAttemptWindow}
    (accounted : Accounted settings (key :: opening) throttle charges) (apart : key ∉ opening)
    (found : throttle.entries.find? key = some window) :
    Accounted settings opening ⟨adjust throttle.entries key 1,throttle.windows⟩
      ((key,window.identity) :: charges) := by
  refine ⟨?_,?_,?_,?_,?_⟩
  · exact (List.length_map _).trans_le accounted.bounded
  · intro changed member
    obtain ⟨old,listed,rfl⟩ := mem_adjust.mp member
    have counted := accounted.counted old listed
    by_cases same : old.key = key
    · have equal := only_window found listed same
      subst equal
      rw [if_pos same]
      subst same
      simp [adjusted,counted]
    · rw [if_neg same,count_other same]
      exact counted
  · intro changed member
    obtain ⟨old,listed,rfl⟩ := mem_adjust.mp member
    have bounds := accounted.inBounds old listed
    by_cases same : old.key = key
    · rw [InBounds,if_pos (same ▸ List.mem_cons_self ..)] at bounds
      rw [if_pos same]
      have closed : (adjusted 1 old).key ∉ opening := same ▸ apart
      rw [InBounds,if_neg closed]
      exact ⟨Int.le_add_of_nonneg_left bounds.1,bounds.2⟩
    · have kept : old.key ∈ key :: opening ↔ old.key ∈ opening := by simp [same]
      rw [if_neg same]
      simp only [InBounds,kept] at bounds ⊢
      exact bounds
  · intro changed member
    obtain ⟨old,listed,rfl⟩ := mem_adjust.mp member
    rw [identity_adjusted]
    exact accounted.identities old listed
  · intro charge member
    rcases List.mem_cons.mp member with rfl | member
    · exact accounted.identities window (Table.mem_of_find? found)
    · exact accounted.charged charge member

/-- A charge is given back to its window, if that is still stored, and lapses otherwise. -/
theorem Accounted.release {identity : ℕ}
    (accounted : Accounted settings [] throttle ((key,identity) :: rest)) :
    Accounted settings [] ⟨release throttle.entries key identity,throttle.windows⟩ rest := by
  have charged : ∀ charge ∈ rest, charge.2 < throttle.windows :=
    fun charge member => accounted.charged charge (List.mem_cons_of_mem _ member)
  -- A window of another key, or of another identity, does not have the charge.
  have uncharged : ∀ window ∈ throttle.entries.rows,
      (window.key ≠ key ∨ window.identity ≠ identity) →
      window.attempts = (rest.count (window.key,window.identity) : ℤ) := by
    intro window member apart
    rw [accounted.counted window member,List.count_cons_of_ne]
    rintro same
    cases same
    exact apart.elim (fun other => other rfl) fun other => other rfl
  unfold LoginThrottle.release
  split
  · rename_i absent
    refine ⟨accounted.bounded,?_,accounted.inBounds,accounted.identities,charged⟩
    intro window member
    refine uncharged window member (.inl ?_)
    rintro rfl
    rw [Table.find?_of_mem member] at absent
    cases absent
  · rename_i window found
    split
    · rename_i other
      refine ⟨accounted.bounded,?_,accounted.inBounds,accounted.identities,charged⟩
      intro old member
      by_cases same : old.key = key
      · have equal := only_window found member same
        subst equal
        exact uncharged old member (.inr other)
      · exact uncharged old member (.inl same)
    · rename_i own
      have identical : window.identity = identity := not_not.mp own
      subst identical
      split
      · have fewer : (dropKey throttle.entries key).rows.Sublist throttle.entries.rows :=
          dropKey_sublist
        refine ⟨fewer.length_le.trans accounted.bounded,?_,
          fun old member => accounted.inBounds old (fewer.subset member),
          fun old member => accounted.identities old (fewer.subset member),charged⟩
        intro old member
        refine uncharged old (fewer.subset member) (.inl ?_)
        exact of_decide_eq_false (Bool.not_eq_true' _ ▸ (List.mem_filter.mp member).2)
      · rename_i more
        refine ⟨(List.length_map _).trans_le accounted.bounded,?_,?_,?_,charged⟩
        · intro changed member
          obtain ⟨old,listed,rfl⟩ := mem_adjust.mp member
          by_cases same : old.key = key
          · have equal := only_window found listed same
            subst equal
            have counted := accounted.counted old listed
            rw [if_pos same]
            subst same
            simp [adjusted,counted]
          · rw [if_neg same]
            exact uncharged old listed (.inl same)
        · intro changed member
          obtain ⟨old,listed,rfl⟩ := mem_adjust.mp member
          have bounds := accounted.inBounds old listed
          rw [InBounds,if_neg List.not_mem_nil] at bounds ⊢
          by_cases same : old.key = key
          · have equal := only_window found listed same
            subst equal
            rw [if_pos same]
            dsimp only [adjusted]
            omega
          · rw [if_neg same]
            exact bounds
        · intro changed member
          obtain ⟨old,listed,rfl⟩ := mem_adjust.mp member
          rw [identity_adjusted]
          exact accounted.identities old listed

end Accounts

section Attempts

variable {text : LoginText} {settings : LoginThrottleSettings} {throttle : LoginThrottle}
  {charges : List Charge} {ipKey accountKey : ThrottleKey} {sourceIp tenantCode email : Text}
  {now : ℚ}

theorem find?_adjust {entries : LoginWindows} {key other : ThrottleKey} {change : ℤ}
    (apart : other ≠ key) : (adjust entries key change).find? other = entries.find? other :=
  (Table.find?_modify ..).trans (if_neg apart)

theorem length_openWindow (throttle : LoginThrottle) (key : ThrottleKey) (now : ℚ) :
    (throttle.openWindow key now (throttle.entries.find? key)).1.entries.rows.length =
      throttle.entries.rows.length + if (throttle.entries.find? key).isNone then 1 else 0 := by
  cases found : throttle.entries.find? key with
  | some window => rfl
  | none =>
      have rows : (throttle.entries.put ⟨key,throttle.windows,now,0⟩).rows = _ :=
        Table.rows_put_of_fresh found
      change (throttle.entries.put _).rows.length = _
      rw [rows,List.length_append]
      rfl

/-- A reservation charges one attempt to an open window of each key. -/
theorem Accounted.reserve (accounted : Accounted settings [] throttle charges)
    (apart : accountKey ≠ ipKey)
    (ipRoom : ∀ window ∈ throttle.entries.find? ipKey,
      window.attempts < limit settings ipKey)
    (accountRoom : ∀ window ∈ throttle.entries.find? accountKey,
      window.attempts < limit settings accountKey)
    (capacity : throttle.entries.rows.length + requiredEntries (throttle.entries.find? ipKey)
      (throttle.entries.find? accountKey) ≤ settings.maxEntries) :
    ∃ ipWindow accountWindow,
      (throttle.reserve ipKey accountKey (throttle.entries.find? ipKey)
        (throttle.entries.find? accountKey) now).2 =
          { reservation := some { ipKey, accountKey, ipWindow, accountWindow } } ∧
      Accounted settings []
        (throttle.reserve ipKey accountKey (throttle.entries.find? ipKey)
          (throttle.entries.find? accountKey) now).1
        ((accountKey,accountWindow) :: (ipKey,ipWindow) :: charges) := by
  have open_ : Accounted settings [ipKey,accountKey] throttle charges := by
    refine accounted.reopen fun window member listed => ?_
    have found := Table.find?_of_mem member
    rcases List.mem_pair.mp listed with same | same
    · rw [same] at found ⊢
      exact ipRoom window found
    · rw [same] at found ⊢
      exact accountRoom window found
  obtain ⟨ipOpen,ipOthers⟩ := throttle.openWindow_spec ipKey now
  have ipLength := throttle.length_openWindow ipKey now
  have ipAccounted := open_.openWindow now (List.mem_cons_self ..)
    ((Nat.add_le_add_left (Nat.le_add_right _ _) _).trans capacity)
  rw [requiredEntries,← ipOthers accountKey apart,← Nat.add_assoc,← ipLength] at capacity
  rw [← ipOthers accountKey apart]
  rw [LoginThrottle.reserve]
  dsimp only
  generalize throttle.openWindow ipKey now (throttle.entries.find? ipKey) = opened at *
  obtain ⟨accountOpen,accountOthers⟩ := opened.1.openWindow_spec accountKey now
  have accountAccounted := ipAccounted.openWindow now
    (List.mem_cons_of_mem _ (List.mem_cons_self ..)) capacity
  generalize opened.1.openWindow accountKey now (opened.1.entries.find? accountKey) = both at *
  refine ⟨opened.2.identity,both.2.identity,rfl,?_⟩
  have ipStored := (accountOthers ipKey apart.symm).trans ipOpen
  have charged := accountAccounted.charge (by simpa using apart.symm) ipStored
  exact charged.charge List.not_mem_nil ((find?_adjust apart).trans accountOpen)

/-- No window has used up its limit if there is no time to wait for. -/
theorem retryAfter_nil {ipWindow accountWindow : Option LoginAttemptWindow}
    (none : (retryAfter settings now ipWindow accountWindow).max? = none) :
    (∀ window ∈ ipWindow, window.attempts < settings.ipLimit) ∧
      ∀ window ∈ accountWindow, window.attempts < settings.accountLimit := by
  have empty : retryAfter settings now ipWindow accountWindow = [] := List.max?_eq_none_iff.mp none
  rw [retryAfter,List.filterMap_eq_nil_iff] at empty
  have ip := empty _ (List.mem_cons_self ..)
  have account := empty _ (List.mem_cons_of_mem _ (List.mem_cons_self ..))
  simp only [Option.map_eq_none_iff,Option.filter_eq_none_iff,decide_eq_true_eq,not_le]
    at ip account
  exact ⟨ip,account⟩

/-- Two active windows, for keys of different kinds, are the stored ones. -/
theorem activeWindows_spec (settings : LoginThrottleSettings) (entries : LoginWindows)
    (apart : accountKey ≠ ipKey) (now : ℚ) :
    let first := activeWindow settings entries ipKey now
    let second := activeWindow settings first.1 accountKey now
    second.1.rows.Sublist entries.rows ∧ first.2 = second.1.find? ipKey ∧
      second.2 = second.1.find? accountKey := by
  obtain ⟨fewer,ip,-⟩ := activeWindow_spec settings entries ipKey now
  obtain ⟨evenFewer,account,others⟩ := activeWindow_spec settings
    (activeWindow settings entries ipKey now).1 accountKey now
  exact ⟨evenFewer.trans fewer,ip.trans (others ipKey apart.symm).symm,account⟩

end Attempts

section Calls

variable {settings : LoginThrottleSettings} {throttle : LoginThrottle} {charges rest : List Charge}

/-- What a smaller set of windows still stores was stored before. -/
theorem find?_of_sublist {fewer entries : LoginWindows} {key : ThrottleKey}
    {window : LoginAttemptWindow} (sub : fewer.rows.Sublist entries.rows)
    (found : fewer.find? key = some window) : entries.find? key = some window := by
  obtain ⟨member,keyed⟩ := (Table.find?_eq_some_iff ..).mp found
  exact (Table.find?_eq_some_iff ..).mpr ⟨sub.subset member,keyed⟩

/-- An attempt is charged to a window of each key, or refused without a charge. -/
theorem Accounted.beginAttempt (accounted : Accounted settings [] throttle charges)
    (text : LoginText) (sourceIp tenantCode email : Text) (now : ℚ) :
    ((throttle.beginAttempt text settings sourceIp tenantCode email now).2.reservation = none ∧
      Accounted settings []
        (throttle.beginAttempt text settings sourceIp tenantCode email now).1 charges) ∨
    ∃ ipWindow accountWindow,
      (throttle.beginAttempt text settings sourceIp tenantCode email now).2.reservation =
        some { ipKey := ipKey text sourceIp, accountKey := accountKey text tenantCode email,
               ipWindow, accountWindow } ∧
      Accounted settings []
        (throttle.beginAttempt text settings sourceIp tenantCode email now).1
        ((accountKey text tenantCode email,accountWindow) ::
          (ipKey text sourceIp,ipWindow) :: charges) := by
  have apart : accountKey text tenantCode email ≠ ipKey text sourceIp := by
    intro same
    cases same
  have spec (entries : LoginWindows) := activeWindows_spec settings entries apart now
  unfold LoginThrottle.beginAttempt
  cases settings.enabled with
  | false => exact .inl ⟨rfl,accounted⟩
  | true =>
      simp only [Bool.not_true,Bool.false_eq_true,if_false]
      obtain ⟨fewer,ip,account⟩ := spec throttle.entries
      generalize activeWindow settings throttle.entries (ipKey text sourceIp) now = first at *
      generalize activeWindow settings first.1 (accountKey text tenantCode email) now = second at *
      split
      · exact .inl ⟨rfl,accounted.shrink fewer⟩
      · rename_i below
        obtain ⟨ipRoom,accountRoom⟩ := retryAfter_nil below
        rw [ip] at ipRoom
        rw [account] at accountRoom
        have kept := accounted.shrink fewer
        split
        · obtain ⟨again,ipAgain,accountAgain⟩ := spec (removeExpiredWindows settings second.1 now)
          generalize activeWindow settings (removeExpiredWindows settings second.1 now)
            (ipKey text sourceIp) now = third at *
          generalize activeWindow settings third.1 (accountKey text tenantCode email) now =
            fourth at *
          have sub : fourth.1.rows.Sublist second.1.rows := again.trans List.filter_sublist
          split
          · exact .inl ⟨rfl,kept.shrink sub⟩
          · rename_i enough
            right
            rw [ipAgain,accountAgain] at enough ⊢
            obtain ⟨ipWindow,accountWindow,reserved,charged⟩ := (kept.shrink sub).reserve apart
              (fun window found => ipRoom window (find?_of_sublist sub found))
              (fun window found => accountRoom window (find?_of_sublist sub found))
              (not_lt.mp enough)
            exact ⟨ipWindow,accountWindow,congrArg LoginThrottleDecision.reservation reserved,
              charged⟩
        · rename_i enough
          right
          rw [ip,account] at enough ⊢
          obtain ⟨ipWindow,accountWindow,reserved,charged⟩ :=
            kept.reserve apart ipRoom accountRoom (not_lt.mp enough)
          exact ⟨ipWindow,accountWindow,congrArg LoginThrottleDecision.reservation reserved,charged⟩

/-- Giving an attempt back leaves other keys alone, and its own if the window is gone. -/
theorem find?_release_of_gone {entries : LoginWindows} {key other : ThrottleKey} {identity : ℕ}
    (gone : other = key → ∀ window ∈ entries.find? key, window.identity ≠ identity) :
    (release entries key identity).find? other = entries.find? other := by
  unfold release
  split
  · rfl
  · rename_i window found
    split
    · rfl
    · rename_i own
      have apart : other ≠ key := fun same => own (gone same window found)
      split
      · exact (find?_dropKey ..).trans (if_neg apart)
      · exact find?_adjust apart

/-- Finishing a reservation leaves a key alone whose window it does not have. -/
theorem find?_finishAttempt_of_gone {reservation : LoginAttemptReservation} {key : ThrottleKey}
    (outcome : LoginAttemptOutcome)
    (ip : key = reservation.ipKey → ∀ window ∈ throttle.entries.find? reservation.ipKey,
      window.identity ≠ reservation.ipWindow)
    (account : key = reservation.accountKey →
      ∀ window ∈ throttle.entries.find? reservation.accountKey,
        window.identity ≠ reservation.accountWindow) :
    (throttle.finishAttempt reservation outcome).1.entries.find? key =
      throttle.entries.find? key := by
  unfold finishAttempt
  split
  · rfl
  · dsimp only
    generalize kept : (if reservation.ipKey ∈ retainedKeys reservation outcome then throttle.entries
      else release throttle.entries reservation.ipKey reservation.ipWindow) = entries
    have first : entries.find? key = throttle.entries.find? key := by
      rw [← kept]
      split
      · rfl
      · exact find?_release_of_gone ip
    split
    · exact first
    · rw [find?_release_of_gone,first]
      rintro rfl window found
      rw [first] at found
      exact account rfl window found

end Calls

end LoginThrottle

end Abacus
