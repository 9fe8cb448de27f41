import Mathlib.Logic.Relation
import Abacus.Library.Machine
import Abacus.Library.Table

/-! Transactions under read committed isolation.
A transaction is a program of statements. Every statement sees what is committed when it
runs, a locking statement waits until no other session holds the lock, and the last one
writes and ends the transaction. Sessions run their programs in any interleaving.
-/
set_option autoImplicit false

namespace Transaction

open Relational Transition

inductive Program (State Lock Outcome : Type) where
  | read (next : State → Program State Lock Outcome)
  | lock (lock : Lock) (next : State → Program State Lock Outcome)
  | finish (write : State → State × Outcome)

structure Session (State Lock Outcome Request : Type) where
  id : ℕ
  request : Request
  held : List Lock
  program : Program State Lock Outcome

structure System (State Lock Outcome Request : Type) where
  committed : State
  sessions : Table (Session.id : Session State Lock Outcome Request → ℕ)

inductive Event (Request : Type) where
  | start (id : ℕ) (request : Request)
  | step (id : ℕ)
  | abort (id : ℕ)

variable {State Lock Outcome Request : Type}

/-- The transaction at once, with no other session in between. -/
def Program.run : Program State Lock Outcome → State → State × Outcome
  | .read next, state => (next state).run state
  | .lock _ next, state => (next state).run state
  | .finish write, state => write state

@[simp] theorem Program.run_read (next : State → Program State Lock Outcome) (state : State) :
    (Program.read next).run state = (next state).run state := rfl

@[simp] theorem Program.run_lock (lock : Lock) (next : State → Program State Lock Outcome)
    (state : State) : (Program.lock lock next).run state = (next state).run state := rfl

@[simp] theorem Program.run_finish (write : State → State × Outcome) (state : State) :
    (Program.finish write : Program State Lock Outcome).run state = write state := rfl

section Systems

variable [DecidableEq Lock]

namespace System

def blocked (system : System State Lock Outcome Request) (id : ℕ) (lock : Lock) : Bool :=
  system.sessions.rows.any fun other => decide (other.id ≠ id) && decide (lock ∈ other.held)

def proceed (system : System State Lock Outcome Request) (id : ℕ) (held : List Lock)
    (program : Program State Lock Outcome) : System State Lock Outcome Request :=
  { system with
    sessions := system.sessions.modify id
      (fun session => { session with held := held, program := program }) fun _ => rfl }

def close (system : System State Lock Outcome Request) (id : ℕ) :
    System State Lock Outcome Request :=
  { system with sessions := system.sessions.deleteWhere fun session => session.id = id }

/-- The next statement of a session; a locking statement may have to wait. -/
def advance (system : System State Lock Outcome Request)
    (session : Session State Lock Outcome Request) :
    Option (System State Lock Outcome Request) :=
  match session.program with
  | .read next => some (system.proceed session.id session.held (next system.committed))
  | .lock lock next =>
      if system.blocked session.id lock then none
      else some (system.proceed session.id (lock :: session.held) (next system.committed))
  | .finish write => some { system.close session.id with committed := (write system.committed).1 }

def next (service : Request → Program State Lock Outcome)
    (system : System State Lock Outcome Request) :
    Event Request → Option (System State Lock Outcome Request)
  | .start id request =>
      (system.sessions.insert ⟨id,request,[],service request⟩).map fun sessions =>
        { system with sessions := sessions }
  | .step id => (system.sessions.find? id).bind system.advance
  | .abort id => (system.sessions.find? id).map fun _ => system.close id

def ending (system : System State Lock Outcome Request) (id : ℕ) : Option (Request × Outcome) :=
  (system.sessions.find? id).bind fun session =>
    match session.program with
    | .finish write => some (session.request,(write system.committed).2)
    | _ => none

end System

/-- Sessions of a service that start on a database in which nothing is in flight. -/
def machine (service : Request → Program State Lock Outcome) (initial : State → Prop) :
    Machine (System State Lock Outcome Request) (Event Request) where
  initial := fun system => initial system.committed ∧ system.sessions = Table.empty
  next := System.next service

end Systems

/-- What the sessions keep of the database, and what each says about its last statement. -/
structure Discipline (State Lock Outcome Request : Type) where
  Sound : State → Prop
  Commits : Request → List Lock → State → State → Outcome → Prop
  keeps : ∀ request held state after outcome, Sound state →
    Commits request held state after outcome → Sound after

namespace Discipline

variable (d : Discipline State Lock Outcome Request)

def Interferes (held : List Lock) (state after : State) : Prop :=
  d.Sound state ∧ ∃ request others outcome, (∀ lock ∈ others, lock ∉ held) ∧
    d.Commits request others state after outcome

def Rely (held : List Lock) : State → State → Prop := Relation.ReflTransGen (d.Interferes held)

/-- Whatever the others do between its statements, the program ends as the discipline says. -/
def Safe (request : Request) : List Lock → Program State Lock Outcome → State → Prop
  | held, .read next, state =>
      ∀ after, d.Rely held state after → d.Sound after → Safe request held (next after) after
  | held, .lock lock next, state =>
      ∀ after, d.Rely held state after → d.Sound after →
        Safe request (lock :: held) (next after) after
  | held, .finish write, state =>
      ∀ after, d.Rely held state after → d.Sound after →
        d.Commits request held after (write after).1 (write after).2

def Verifies (service : Request → Program State Lock Outcome) : Prop :=
  ∀ request state, d.Sound state → d.Safe request [] (service request) state

variable {d}

theorem Rely.refl (held : List Lock) (state : State) : d.Rely held state state :=
  Relation.ReflTransGen.refl

theorem Rely.trans {held : List Lock} {first second third : State}
    (early : d.Rely held first second) (late : d.Rely held second third) :
    d.Rely held first third := Relation.ReflTransGen.trans early late

/-- More locks leave the others fewer commits. -/
theorem Rely.weaken {held kept : List Lock} {state after : State}
    (rely : d.Rely held state after) (less : ∀ lock ∈ kept, lock ∈ held) :
    d.Rely kept state after := by
  have fewer : d.Interferes held ≤ d.Interferes kept := by
    rintro before next ⟨sound,request,others,outcome,apart,commits⟩
    exact ⟨sound,request,others,outcome,
      fun lock member mine => apart lock member (less lock mine),commits⟩
  exact Relation.ReflTransGen.mono fewer _ _ rely

/-- A fact that no interfering commit undoes stays true. -/
theorem Rely.stable {held : List Lock} {Fact : State → Prop} {state after : State}
    (rely : d.Rely held state after)
    (step : ∀ before next, d.Interferes held before next → Fact before → Fact next)
    (fact : Fact state) : Fact after := by
  induction rely with
  | refl => exact fact
  | tail _ interferes ih => exact step _ _ interferes ih

/-- A part of the database that no interfering commit changes stays the same. -/
theorem Rely.same {View : Type} {held : List Lock} (view : State → View) {state after : State}
    (rely : d.Rely held state after)
    (step : ∀ before next, d.Interferes held before next → view next = view before) :
    view after = view state := by
  induction rely with
  | refl => rfl
  | tail _ interferes ih => exact (step _ _ interferes).trans ih

theorem Safe.rely {request : Request} {held : List Lock} {program : Program State Lock Outcome}
    {state after : State} (safe : d.Safe request held program state)
    (rely : d.Rely held state after) : d.Safe request held program after := by
  cases program with
  | read next => exact fun later more => safe later (rely.trans more)
  | lock lock next => exact fun later more => safe later (rely.trans more)
  | finish write => exact fun later more => safe later (rely.trans more)

/-- A program that runs alone ends as the discipline says. -/
theorem Safe.run {request : Request} {held : List Lock} {program : Program State Lock Outcome}
    {state : State} (safe : d.Safe request held program state)
    (sound : d.Sound state) : ∃ locks,
      d.Commits request locks state (program.run state).1 (program.run state).2 := by
  induction program generalizing held with
  | read next ih => exact ih state (safe state (Rely.refl held state) sound)
  | lock lock next ih => exact ih state (safe state (Rely.refl held state) sound)
  | finish write => exact ⟨held,safe state (Rely.refl held state) sound⟩

structure Holds (d : Discipline State Lock Outcome Request)
    (system : System State Lock Outcome Request) : Prop where
  sound : d.Sound system.committed
  safe : ∀ session ∈ system.sessions.rows,
    d.Safe session.request session.held session.program system.committed
  exclusive : ∀ first ∈ system.sessions.rows, ∀ second ∈ system.sessions.rows, ∀ lock,
    lock ∈ first.held → lock ∈ second.held → first.id = second.id

namespace Holds

variable {system : System State Lock Outcome Request}

theorem proceed [DecidableEq Lock] (holds : d.Holds system) {session : Session State Lock Outcome Request}
    (member : session ∈ system.sessions.rows) {held : List Lock}
    {program : Program State Lock Outcome}
    (safe : d.Safe session.request held program system.committed)
    (fresh : ∀ lock ∈ held, lock ∈ session.held ∨ system.blocked session.id lock = false) :
    d.Holds (system.proceed session.id held program) := by
  have listed : ∀ other ∈ (system.proceed session.id held program).sessions.rows,
      other = { session with held := held, program := program } ∨
        (other ∈ system.sessions.rows ∧ other.id ≠ session.id) := by
    intro other stored
    obtain ⟨old,place,rfl⟩ := List.mem_map.mp stored
    by_cases same : old.id = session.id
    · left
      rw [system.sessions.eq_of_key place member same]
      simp
    · right
      simpa [same] using place
  have unheld : ∀ other ∈ system.sessions.rows, other.id ≠ session.id → ∀ lock ∈ held,
      lock ∉ other.held := by
    intro other place apart lock mine theirs
    rcases fresh lock mine with kept | free
    · exact apart (holds.exclusive other place session member lock theirs kept)
    · have taken : system.blocked session.id lock = true :=
        List.any_eq_true.mpr ⟨other,place,by simp [apart,theirs]⟩
      rw [taken] at free
      cases free
  constructor
  · exact holds.sound
  · intro other stored
    rcases listed other stored with rfl | ⟨place,-⟩
    · exact safe
    · exact holds.safe other place
  · intro first firstStored second secondStored lock firstHeld secondHeld
    rcases listed first firstStored with rfl | ⟨firstPlace,firstApart⟩
    · rcases listed second secondStored with rfl | ⟨secondPlace,secondApart⟩
      · rfl
      · exact absurd secondHeld (unheld second secondPlace secondApart lock firstHeld)
    · rcases listed second secondStored with rfl | ⟨secondPlace,secondApart⟩
      · exact absurd firstHeld (unheld first firstPlace firstApart lock secondHeld)
      · exact holds.exclusive first firstPlace second secondPlace lock firstHeld secondHeld

theorem close (holds : d.Holds system) (id : ℕ) : d.Holds (system.close id) := by
  have listed : ∀ other ∈ (system.close id).sessions.rows, other ∈ system.sessions.rows :=
    fun other stored => List.mem_of_mem_filter stored
  constructor
  · exact holds.sound
  · exact fun session stored => holds.safe session (listed session stored)
  · exact fun first firstStored second secondStored =>
      holds.exclusive first (listed first firstStored) second (listed second secondStored)

theorem start (holds : d.Holds system) {service : Request → Program State Lock Outcome}
    (verifies : d.Verifies service) {id : ℕ} {request : Request}
    {sessions : Table (Session.id : Session State Lock Outcome Request → ℕ)}
    (inserted : system.sessions.insert ⟨id,request,[],service request⟩ = some sessions) :
    d.Holds { system with sessions := sessions } := by
  constructor
  · exact holds.sound
  · intro session stored
    rcases (Table.mem_insert inserted).mp stored with place | rfl
    · exact holds.safe session place
    · exact verifies request system.committed holds.sound
  · intro first firstStored second secondStored lock firstHeld secondHeld
    rcases (Table.mem_insert inserted).mp firstStored with firstPlace | rfl
    · rcases (Table.mem_insert inserted).mp secondStored with secondPlace | rfl
      · exact holds.exclusive first firstPlace second secondPlace lock firstHeld secondHeld
      · cases secondHeld
    · cases firstHeld

/-- The last statement of a session commits as the discipline says. -/
theorem commits (holds : d.Holds system) {session : Session State Lock Outcome Request}
    (member : session ∈ system.sessions.rows) {write : State → State × Outcome}
    (last : session.program = .finish write) :
    d.Commits session.request session.held system.committed (write system.committed).1
      (write system.committed).2 := by
  have safe := holds.safe session member
  rw [last] at safe
  exact safe system.committed (Rely.refl _ _) holds.sound

/-- The sessions that stay in flight hold other locks than the one that committed. -/
theorem finish (holds : d.Holds system) {session : Session State Lock Outcome Request}
    (member : session ∈ system.sessions.rows) {write : State → State × Outcome}
    (last : session.program = .finish write) :
    d.Holds { system.close session.id with committed := (write system.committed).1 } := by
  have commits := holds.commits member last
  constructor
  · exact d.keeps _ _ _ _ _ holds.sound commits
  · intro other stored
    obtain ⟨place,apart⟩ := List.mem_filter.mp stored
    refine (holds.safe other place).rely (Relation.ReflTransGen.single ?_)
    refine ⟨holds.sound,session.request,session.held,_,?_,commits⟩
    intro lock mine theirs
    have same := holds.exclusive other place session member lock theirs mine
    simp [same] at apart
  · exact (holds.close session.id).exclusive

theorem advance [DecidableEq Lock] (holds : d.Holds system) {session : Session State Lock Outcome Request}
    (member : session ∈ system.sessions.rows) {after : System State Lock Outcome Request}
    (taken : system.advance session = some after) : d.Holds after := by
  have safe := holds.safe session member
  unfold System.advance at taken
  split at taken
  · rename_i next reads
    cases taken
    rw [reads] at safe
    exact holds.proceed member (safe _ (Rely.refl _ _) holds.sound) fun _ mine => .inl mine
  · rename_i lock next locks
    split at taken
    · cases taken
    · rename_i free
      cases taken
      rw [locks] at safe
      apply holds.proceed member (safe _ (Rely.refl _ _) holds.sound)
      intro other mine
      rcases List.mem_cons.mp mine with rfl | kept
      · exact .inr (by simpa using free)
      · exact .inl kept
  · rename_i write last
    cases taken
    exact holds.finish member last

theorem next [DecidableEq Lock] (holds : d.Holds system) {service : Request → Program State Lock Outcome}
    (verifies : d.Verifies service) {event : Event Request}
    {after : System State Lock Outcome Request} (taken : system.next service event = some after) :
    d.Holds after := by
  cases event with
  | start id request =>
      obtain ⟨sessions,inserted,rfl⟩ := Option.map_eq_some_iff.mp taken
      exact holds.start verifies inserted
  | step id =>
      obtain ⟨session,found,moved⟩ := Option.bind_eq_some_iff.mp taken
      exact holds.advance (Table.mem_of_find? found) moved
  | abort id =>
      obtain ⟨session,-,rfl⟩ := Option.map_eq_some_iff.mp taken
      exact holds.close id

end Holds

/-- In every interleaving the sessions keep the discipline. -/
theorem Verifies.holds [DecidableEq Lock] {service : Request → Program State Lock Outcome}
    (verifies : d.Verifies service) {initial : State → Prop}
    (first : ∀ state, initial state → d.Sound state)
    {system : System State Lock Outcome Request}
    (reachable : (machine service initial).Reachable system) : d.Holds system := by
  apply reachable.invariant
  · rintro start ⟨begun,idle⟩
    constructor
    · exact first start.committed begun
    · simp [idle]
    · simp [idle]
  · exact fun _ _ _ holds taken => holds.next verifies taken

end Discipline

section Commits

variable [DecidableEq Lock]

/-- The database changes only by the last statement of a session. -/
theorem System.next_committed {service : Request → Program State Lock Outcome}
    {system after : System State Lock Outcome Request} {event : Event Request}
    (taken : system.next service event = some after) :
    after.committed = system.committed ∨ ∃ session ∈ system.sessions.rows, ∃ write,
      event = .step session.id ∧ session.program = .finish write ∧
        after.committed = (write system.committed).1 := by
  cases event with
  | start id request =>
      obtain ⟨sessions,-,rfl⟩ := Option.map_eq_some_iff.mp taken
      exact .inl rfl
  | abort id =>
      obtain ⟨session,-,rfl⟩ := Option.map_eq_some_iff.mp taken
      exact .inl rfl
  | step id =>
      obtain ⟨session,found,moved⟩ := Option.bind_eq_some_iff.mp taken
      obtain ⟨member,rfl⟩ := (Table.find?_eq_some_iff _ _ _).mp found
      unfold System.advance at moved
      split at moved
      · cases moved
        exact .inl rfl
      · split at moved
        · cases moved
        · cases moved
          exact .inl rfl
      · rename_i write last
        cases moved
        exact .inr ⟨session,member,write,rfl,last,rfl⟩

/-- Every change of the database is a commit of a session that keeps the discipline. -/
theorem Discipline.Verifies.commits {d : Discipline State Lock Outcome Request}
    {service : Request → Program State Lock Outcome} (verifies : d.Verifies service)
    {initial : State → Prop} (first : ∀ state, initial state → d.Sound state)
    {system after : System State Lock Outcome Request} {event : Event Request}
    (reachable : (machine service initial).Reachable system)
    (taken : (machine service initial).next system event = some after) :
    after.committed = system.committed ∨ ∃ request held outcome,
      d.Commits request held system.committed after.committed outcome := by
  have holds := verifies.holds first reachable
  rcases System.next_committed taken with same | ⟨session,member,write,-,last,same⟩
  · exact .inl same
  · rw [same]
    exact .inr ⟨_,_,_,holds.commits member last⟩

omit [DecidableEq Lock] in
/-- A session that is about to end is at its last statement. -/
theorem System.ending_eq_some {system : System State Lock Outcome Request} {id : ℕ}
    {request : Request} {outcome : Outcome} (ending : system.ending id = some (request,outcome)) :
    ∃ session write, system.sessions.find? id = some session ∧ session.program = .finish write ∧
      session.request = request ∧ (write system.committed).2 = outcome := by
  obtain ⟨session,found,ended⟩ := Option.bind_eq_some_iff.mp ending
  split at ended
  · rename_i write last
    obtain ⟨same,result⟩ := Prod.mk.inj (Option.some.inj ended)
    exact ⟨session,write,found,last,same,result⟩
  · cases ended

omit [DecidableEq Lock] in
/-- What a session about to end would commit is as its outcome says. -/
theorem Discipline.Holds.ends {d : Discipline State Lock Outcome Request}
    {system : System State Lock Outcome Request} (holds : d.Holds system) {id : ℕ}
    {request : Request} {outcome : Outcome} (ending : system.ending id = some (request,outcome)) :
    ∃ held after, d.Commits request held system.committed after outcome := by
  obtain ⟨session,write,found,last,rfl,rfl⟩ := System.ending_eq_some ending
  exact ⟨session.held,_,holds.commits (Table.mem_of_find? found) last⟩

/-- A session that ends commits as its outcome says, with the locks that it holds. -/
theorem Discipline.Verifies.ends_holding {d : Discipline State Lock Outcome Request}
    {service : Request → Program State Lock Outcome} (verifies : d.Verifies service)
    {initial : State → Prop} (first : ∀ state, initial state → d.Sound state)
    {system after : System State Lock Outcome Request} {id : ℕ} {request : Request}
    {outcome : Outcome} (reachable : (machine service initial).Reachable system)
    (ending : system.ending id = some (request,outcome))
    (taken : (machine service initial).next system (.step id) = some after) :
    ∃ session, system.sessions.find? id = some session ∧
      d.Commits request session.held system.committed after.committed outcome := by
  have holds := verifies.holds first reachable
  obtain ⟨session,write,stored,last,rfl,rfl⟩ := System.ending_eq_some ending
  obtain ⟨other,found,moved⟩ := Option.bind_eq_some_iff.mp taken
  rw [stored] at found
  obtain rfl := Option.some.inj found
  rw [System.advance,last] at moved
  obtain rfl := Option.some.inj moved
  exact ⟨session,stored,holds.commits (Table.mem_of_find? stored) last⟩

theorem Discipline.Verifies.ends {d : Discipline State Lock Outcome Request}
    {service : Request → Program State Lock Outcome} (verifies : d.Verifies service)
    {initial : State → Prop} (first : ∀ state, initial state → d.Sound state)
    {system after : System State Lock Outcome Request} {id : ℕ} {request : Request}
    {outcome : Outcome} (reachable : (machine service initial).Reachable system)
    (ending : system.ending id = some (request,outcome))
    (taken : (machine service initial).next system (.step id) = some after) :
    ∃ held, d.Commits request held system.committed after.committed outcome := by
  obtain ⟨session,-,commits⟩ := verifies.ends_holding first reachable ending taken
  exact ⟨session.held,commits⟩

end Commits

end Transaction
