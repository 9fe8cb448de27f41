import Abacus.Library.Table
import Abacus.Library.Text
import Mathlib.Data.Rat.Floor

/-! The login throttle of one API process (`LoginThrottle` in `security.py`).
A window is an object: the throttle stores it under its key and a reservation refers to it, so it
has an identity of its own. The clock is read before the lock is taken and is given with each call.
-/
set_option autoImplicit false

namespace Abacus

open Python (Text)
open Relational (Table)

/-- `str.lower` and the SHA-256 digest in hexadecimal. -/
structure LoginText where
  lower : Text → Text
  digest : Text → Text

inductive ThrottleKey where
  | ip (address : Text)
  | account (digest : Text)
deriving DecidableEq

structure LoginAttemptWindow where
  key : ThrottleKey
  identity : ℕ
  startedAt : ℚ
  attempts : ℤ := 0
deriving DecidableEq

abbrev LoginWindows := Table LoginAttemptWindow.key

structure LoginAttemptReservation where
  ipKey : ThrottleKey
  accountKey : ThrottleKey
  ipWindow : ℕ
  accountWindow : ℕ
  finalized : Bool := false
deriving DecidableEq

inductive LoginAttemptOutcome where
  | success | authenticationFailed | aborted
deriving DecidableEq, Repr

structure LoginThrottleDecision where
  reservation : Option LoginAttemptReservation := none
  retryAfter : Option ℤ := none
deriving DecidableEq

structure LoginThrottleSettings where
  enabled : Bool
  windowSeconds : ℕ
  ipLimit : ℕ
  accountLimit : ℕ
  maxEntries : ℕ
  windowPositive : 1 ≤ windowSeconds
  ipLimitPositive : 1 ≤ ipLimit
  accountLimitPositive : 1 ≤ accountLimit
  twoEntries : 2 ≤ maxEntries

/-- The stored windows, and how many windows there have been. -/
structure LoginThrottle where
  entries : LoginWindows
  windows : ℕ

def ipKey (text : LoginText) (sourceIp : Text) : ThrottleKey :=
  let address := text.lower sourceIp.strip
  .ip (if address = [] then Python.text "unknown" else address)

def accountKey (text : LoginText) (tenantCode email : Text) : ThrottleKey :=
  .account (text.digest (text.lower tenantCode.strip ++ [0] ++ text.lower email.strip))

namespace LoginThrottle

def expired (settings : LoginThrottleSettings) (now : ℚ) (window : LoginAttemptWindow) : Bool :=
  (settings.windowSeconds : ℚ) ≤ now - window.startedAt

def dropKey (entries : LoginWindows) (key : ThrottleKey) : LoginWindows :=
  entries.deleteWhere fun window => window.key = key

def activeWindow (settings : LoginThrottleSettings) (entries : LoginWindows) (key : ThrottleKey)
    (now : ℚ) : LoginWindows × Option LoginAttemptWindow :=
  match entries.find? key with
  | none => (entries,none)
  | some window =>
      if expired settings now window then (dropKey entries key,none) else (entries,some window)

def newWindow (throttle : LoginThrottle) (key : ThrottleKey) (now : ℚ) :
    LoginThrottle × LoginAttemptWindow :=
  let window : LoginAttemptWindow := { key, identity := throttle.windows, startedAt := now }
  (⟨throttle.entries.put window,throttle.windows + 1⟩,window)

def openWindow (throttle : LoginThrottle) (key : ThrottleKey) (now : ℚ) :
    Option LoginAttemptWindow → LoginThrottle × LoginAttemptWindow
  | some window => (throttle,window)
  | none => throttle.newWindow key now

def removeExpiredWindows (settings : LoginThrottleSettings) (entries : LoginWindows) (now : ℚ) :
    LoginWindows :=
  entries.deleteWhere (expired settings now)

def remaining (settings : LoginThrottleSettings) (now : ℚ) (window : LoginAttemptWindow) : ℚ :=
  settings.windowSeconds - (now - window.startedAt)

def capacityRetryAfter (settings : LoginThrottleSettings) (entries : LoginWindows) (now : ℚ) : ℤ :=
  max 1 ⌈((entries.rows.map (remaining settings now)).min?.getD settings.windowSeconds)⌉

def requiredEntries (ipWindow accountWindow : Option LoginAttemptWindow) : ℕ :=
  (if ipWindow.isNone then 1 else 0) + if accountWindow.isNone then 1 else 0

/-- How long the windows that have used up their limit still last. -/
def retryAfter (settings : LoginThrottleSettings) (now : ℚ)
    (ipWindow accountWindow : Option LoginAttemptWindow) : List ℚ :=
  [(ipWindow,settings.ipLimit),(accountWindow,settings.accountLimit)].filterMap fun limited =>
    (limited.1.filter fun window => (limited.2 : ℤ) ≤ window.attempts).map (remaining settings now)

def adjusted (change : ℤ) (window : LoginAttemptWindow) : LoginAttemptWindow :=
  { window with attempts := window.attempts + change }

theorem adjusted_key (change : ℤ) (window : LoginAttemptWindow) :
    (adjusted change window).key = window.key := rfl

/-- `window.attempts += change` for the stored window of a key. -/
def adjust (entries : LoginWindows) (key : ThrottleKey) (change : ℤ) : LoginWindows :=
  entries.modify key (adjusted change) (adjusted_key change)

def reserve (throttle : LoginThrottle) (ipKey accountKey : ThrottleKey)
    (ipWindow accountWindow : Option LoginAttemptWindow) (now : ℚ) :
    LoginThrottle × LoginThrottleDecision :=
  let (throttle,ipWindow) := throttle.openWindow ipKey now ipWindow
  let (throttle,accountWindow) := throttle.openWindow accountKey now accountWindow
  let entries := adjust (adjust throttle.entries ipKey 1) accountKey 1
  ({ throttle with entries },
    { reservation := some
        { ipKey, accountKey, ipWindow := ipWindow.identity,
          accountWindow := accountWindow.identity } })

/-- Reserve an attempt in both windows, or say when to come back. -/
def beginAttempt (text : LoginText) (settings : LoginThrottleSettings) (throttle : LoginThrottle)
    (sourceIp tenantCode email : Text) (now : ℚ) : LoginThrottle × LoginThrottleDecision :=
  if !settings.enabled then (throttle,{})
  else
    let ipKey := ipKey text sourceIp
    let accountKey := accountKey text tenantCode email
    let (entries,ipWindow) := activeWindow settings throttle.entries ipKey now
    let (entries,accountWindow) := activeWindow settings entries accountKey now
    match (retryAfter settings now ipWindow accountWindow).max? with
    | some longest => ({ throttle with entries },{ retryAfter := some (max 1 ⌈longest⌉) })
    | none =>
        if settings.maxEntries < entries.rows.length + requiredEntries ipWindow accountWindow then
          let entries := removeExpiredWindows settings entries now
          let (entries,ipWindow) := activeWindow settings entries ipKey now
          let (entries,accountWindow) := activeWindow settings entries accountKey now
          if settings.maxEntries <
              entries.rows.length + requiredEntries ipWindow accountWindow then
            ({ throttle with entries },
              { retryAfter := some (capacityRetryAfter settings entries now) })
          else reserve { throttle with entries } ipKey accountKey ipWindow accountWindow now
        else reserve { throttle with entries } ipKey accountKey ipWindow accountWindow now

def retainedKeys (reservation : LoginAttemptReservation) (outcome : LoginAttemptOutcome) :
    List ThrottleKey :=
  (if outcome = .success ∨ outcome = .authenticationFailed then [reservation.ipKey] else []) ++
    if outcome = .authenticationFailed then [reservation.accountKey] else []

/-- Give an attempt back to its window, if the key still has that window. -/
def release (entries : LoginWindows) (key : ThrottleKey) (identity : ℕ) : LoginWindows :=
  match entries.find? key with
  | none => entries
  | some window =>
      if window.identity ≠ identity then entries
      else if window.attempts - 1 = 0 then dropKey entries key
      else adjust entries key (-1)

def finishAttempt (throttle : LoginThrottle) (reservation : LoginAttemptReservation)
    (outcome : LoginAttemptOutcome) : LoginThrottle × LoginAttemptReservation :=
  if reservation.finalized then (throttle,reservation)
  else
    let retained := retainedKeys reservation outcome
    let entries := if reservation.ipKey ∈ retained then throttle.entries
      else release throttle.entries reservation.ipKey reservation.ipWindow
    let entries := if reservation.accountKey ∈ retained then entries
      else release entries reservation.accountKey reservation.accountWindow
    ({ throttle with entries },{ reservation with finalized := true })

end LoginThrottle

end Abacus
