import Abacus.Library.Transaction
import Abacus.Model.Basic

/-! Services as programs of database statements. -/
set_option autoImplicit false

namespace Abacus

open Transaction

abbrev Service (State Lock Response : Type) := Program State Lock (Attempt Response)

section Programs

variable {State Lock Response : Type}

/-- An exception rolls the transaction back. -/
def abandon (failure : Failure) : Service State Lock Response :=
  .finish fun db => (db,.error failure)

/-- A return before any write. -/
def answer (response : Response) : Service State Lock Response :=
  .finish fun db => (db,.ok response)

def ensure (condition : Prop) [Decidable condition] (failure : Failure)
    (next : Service State Lock Response) : Service State Lock Response :=
  if condition then next else abandon failure

/-- An `IntegrityError` at the commit rolls back and becomes the failure. -/
def commitOr (failure : Failure) (response : Response) (write : State → Option State) :
    Service State Lock Response :=
  .finish fun db => (write db).elim (db,.error failure) fun written => (written,.ok response)

/-- The writes of a transaction and its commit; a failure rolls back. -/
def commit (write : State → Attempt (Response × State)) : Service State Lock Response :=
  .finish fun db =>
    match write db with
    | .ok (response,written) => (written,.ok response)
    | .error failure => (db,.error failure)

section Alone

variable {db : State}

theorem run_ensure (condition : Prop) [Decidable condition] (failure : Failure)
    (next : Service State Lock Response) :
    (ensure condition failure next).run db =
      if condition then next.run db else (db,.error failure) := by
  unfold ensure
  split <;> rfl

theorem run_commit_ok {write : State → Attempt (Response × State)} {written : State}
    {response : Response} (wrote : write db = .ok (response,written)) :
    (commit write : Service State Lock Response).run db = (written,.ok response) := by
  simp only [commit,Program.run_finish,wrote]

theorem run_commit_error {write : State → Attempt (Response × State)}
    {failure : Failure} (failed : write db = .error failure) :
    (commit write : Service State Lock Response).run db = (db,.error failure) := by
  simp only [commit,Program.run_finish,failed]

theorem run_commit_congr {left right : State → Attempt (Response × State)}
    (same : left db = right db) : (commit left : Service State Lock Response).run db =
      (commit right : Service State Lock Response).run db := by
  simp only [commit,Program.run_finish,same]

end Alone

end Programs

section Safety

variable {State Lock Response Request : Type}
  {d : Discipline State Lock (Attempt Response) Request}

variable {request : Request} {held : List Lock} {db : State} {next : Service State Lock Response}

theorem safe_abandon {failure : Failure}
    (fails : ∀ after, d.Rely held db after → d.Commits request held after after (.error failure)) :
    d.Safe request held (abandon failure) db := fun after rely _ => fails after rely

theorem safe_ensure {condition : Prop} [Decidable condition] {failure : Failure}
    (fails : ¬condition → ∀ after, d.Rely held db after →
      d.Commits request held after after (.error failure))
    (safe : condition → d.Safe request held next db) :
    d.Safe request held (ensure condition failure next) db := by
  unfold ensure
  split
  · exact safe ‹_›
  · exact safe_abandon (fails ‹_›)

theorem safe_commitOr {failure : Failure} {response : Response} {write : State → Option State}
    (fails : ∀ after, d.Rely held db after → d.Commits request held after after (.error failure))
    (safe : ∀ after written, d.Rely held db after → d.Sound after → write after = some written →
      d.Commits request held after written (.ok response)) :
    d.Safe request held (commitOr failure response write) db := by
  intro after rely sound
  cases wrote : write after with
  | none =>
      simp only [wrote,Option.elim_none]
      exact fails after rely
  | some written =>
      simp only [wrote,Option.elim_some]
      exact safe after written rely sound wrote

/-- In the discipline a request that fails may always leave the database as it is. -/
def Refuses (d : Discipline State Lock (Attempt Response) Request) : Prop :=
  ∀ request held db failure, d.Commits request held db db (.error failure)

variable (refuses : Refuses d)
include refuses

theorem Refuses.abandon (failure : Failure) :
    d.Safe request held (Abacus.abandon failure) db :=
  safe_abandon fun after _ => refuses request held after failure

theorem Refuses.ensure {condition : Prop} [Decidable condition] {failure : Failure}
    (safe : condition → d.Safe request held next db) :
    d.Safe request held (Abacus.ensure condition failure next) db :=
  safe_ensure (fun _ after _ => refuses request held after failure) safe

theorem Refuses.commitOr {failure : Failure} {response : Response} {write : State → Option State}
    (safe : ∀ after written, d.Rely held db after → d.Sound after → write after = some written →
      d.Commits request held after written (.ok response)) :
    d.Safe request held (Abacus.commitOr failure response write) db :=
  safe_commitOr (fun after _ => refuses request held after failure) safe

omit refuses in
theorem safe_commit {write : State → Attempt (Response × State)}
    (writes : ∀ after response written, d.Rely held db after → d.Sound after →
      write after = .ok (response,written) → d.Commits request held after written (.ok response))
    (fails : ∀ after failure, d.Rely held db after → d.Sound after →
      d.Commits request held after after (.error failure)) :
    d.Safe request held (commit write) db := by
  intro after rely sound
  dsimp only
  cases wrote : write after with
  | error failure => exact fails after failure rely sound
  | ok result => exact writes after result.1 result.2 rely sound wrote

end Safety

end Abacus
