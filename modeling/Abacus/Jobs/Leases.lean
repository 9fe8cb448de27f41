import Abacus.Library.Machine
import Abacus.Model.Jobs
import Abacus.Model.Sample

/-! The lease protocol of the job queue.
One lemma says what a call can do to one job. What holds of all jobs in all runs follows from it,
for any number of workers and whatever the clock shows.
-/
set_option autoImplicit false

namespace Abacus

open Relational (Table)
open Transition (Machine)

inductive JobCall where
  | enqueueJob (tenants : Tenants) (request : JobRequest) (now createdAt : Time)
  | claimJobs (tenants : Tenants) (locked : SkipLocked) (request : ClaimRequest) (now : Time)
  | renewLease (jobId : Uuid) (workerId : String) (leaseSeconds : ℤ) (now : Time)
  | markCompleted (jobId : Uuid) (workerId : String)
  | markFailed (jobId : Uuid) (workerId : String) (error : Python.Text) (now : Time)

/-- A call that fails leaves the queue as it was. -/
def JobCall.apply (maxAttempts : ℕ) (jobs : Jobs) : JobCall → Jobs
  | enqueueJob tenants request now createdAt =>
      match Abacus.enqueueJob tenants jobs request now createdAt with
      | .ok (jobs,_) => jobs
      | .error _ => jobs
  | claimJobs tenants locked request now =>
      (Abacus.claimJobs tenants jobs locked request maxAttempts now).1
  | renewLease jobId workerId leaseSeconds now =>
      (Abacus.renewLease jobs jobId workerId leaseSeconds now).1
  | markCompleted jobId workerId => (Abacus.markCompleted jobs jobId workerId).1
  | markFailed jobId workerId error now =>
      (Abacus.markFailed jobs jobId workerId error maxAttempts now).1

def JobCall.claims (maxAttempts : ℕ) (jobs : Jobs) : JobCall → List (String × Uuid)
  | claimJobs tenants locked request now =>
      (Abacus.claimJobs tenants jobs locked request maxAttempts now).2.map
        fun job => (request.workerId,job.id)
  | _ => []

/-- The queue under calls in any order, empty at first. -/
def queue (maxAttempts : ℕ) : Machine Jobs JobCall where
  initial jobs := jobs = Table.empty
  next jobs call := some (call.apply maxAttempts jobs)

namespace DurableJob

inductive Moves (maxAttempts : ℕ) (jobs : Jobs) (call : JobCall) (job : DurableJob) :
    DurableJob → Prop
  | kept : Moves maxAttempts jobs call job job
  | quarantined (now : Time) (due : job.due now = true) (exhausted : maxAttempts ≤ job.attempts) :
      Moves maxAttempts jobs call job job.quarantine
  | claimed (workerId : String) (now leaseExpiresAt : Time) (due : job.due now = true)
      (budget : job.attempts < maxAttempts)
      (claims : (workerId,job.id) ∈ call.claims maxAttempts jobs) :
      Moves maxAttempts jobs call job (job.claim workerId leaseExpiresAt)
  | renewed (workerId : String) (leaseExpiresAt : Time) (owned : job.ownedBy workerId = true) :
      Moves maxAttempts jobs call job (job.renew leaseExpiresAt)
  | completed (workerId : String) (owned : job.ownedBy workerId = true) :
      Moves maxAttempts jobs call job job.complete
  | failed (workerId : String) (error : Python.Text) (now : Time)
      (owned : job.ownedBy workerId = true) :
      Moves maxAttempts jobs call job (job.fail error maxAttempts now)

theorem ownedBy_iff {job : DurableJob} {workerId : String} :
    job.ownedBy workerId = true ↔ job.status = .processing ∧ job.lockedBy = some workerId := by
  simp [ownedBy]

end DurableJob

section Calls

variable {maxAttempts limit : ℕ} {jobs : Jobs} {call : JobCall} {job : DurableJob} {jobId : Uuid}
  {tenants : Tenants} {locked : SkipLocked} {request : ClaimRequest} {now : Time}

theorem mem_selectForUpdate {p : DurableJob → Bool} {skipped : Uuid → Bool}
    (chosen : job ∈ selectForUpdate jobs p skipped limit) : job ∈ jobs.rows ∧ p job = true := by
  have listed := (List.mem_insertionSort _).mp (List.mem_of_mem_take chosen)
  obtain ⟨stored,selected⟩ := Table.mem_select.mp listed
  exact ⟨stored,(Bool.and_eq_true _ _ ▸ selected).1⟩

theorem find?_updateJobs_none (chosen : List DurableJob) {change : DurableJob → DurableJob}
    (keeps : ∀ job, (change job).id = job.id) (absent : jobs.find? jobId = none) :
    (updateJobs jobs chosen change keeps).find? jobId = none := by
  rw [updateJobs,Table.find?_updateWhere,absent,Option.map_none]

theorem find?_updateJobs (chosen : List DurableJob) {change : DurableJob → DurableJob}
    (keeps : ∀ job, (change job).id = job.id) (found : jobs.find? jobId = some job) :
    (updateJobs jobs chosen change keeps).find? jobId =
      some (if jobId ∈ chosen.map DurableJob.id then change job else job) := by
  have key : job.id = jobId := Table.key_of_find? found
  rw [updateJobs,Table.find?_updateWhere,found,Option.map_some,key]
  simp only [decide_eq_true_eq]

theorem chosen_of_mem {chosen : List DurableJob} (stored : ∀ other ∈ chosen, other ∈ jobs.rows)
    (found : jobs.find? jobId = some job) (listed : jobId ∈ chosen.map DurableJob.id) :
    job ∈ chosen := by
  obtain ⟨other,member,same⟩ := List.mem_map.mp listed
  have equal : other = job := by
    have key : job.id = jobId := Table.key_of_find? found
    exact jobs.eq_of_key (stored other member) (Table.mem_of_find? found) (same.trans key.symm)
  exact equal ▸ member

theorem exhaustedJobs_due (exhausted : job ∈ exhaustedJobs jobs locked request maxAttempts now) :
    job ∈ jobs.rows ∧ maxAttempts ≤ job.attempts ∧ job.due now = true := by
  obtain ⟨stored,selected⟩ := mem_selectForUpdate exhausted
  simp only [Bool.and_eq_true,decide_eq_true_eq] at selected
  exact ⟨stored,selected.1.2,selected.2⟩

theorem claimableJobs_due
    (claimable : job ∈ claimableJobs tenants jobs locked request maxAttempts now) :
    job ∈ jobs.rows ∧ job.attempts < maxAttempts ∧ job.due now = true := by
  obtain ⟨stored,selected⟩ := mem_selectForUpdate claimable
  simp only [Bool.and_eq_true,decide_eq_true_eq] at selected
  exact ⟨stored,selected.1.2,selected.1.1.2⟩

/-- A claim quarantines a due job without attempts left, or it takes a due one that has some. -/
theorem claimJobs_moves (found : jobs.find? jobId = some job) : ∃ after,
    (claimJobs tenants jobs locked request maxAttempts now).1.find? jobId = some after ∧
      job.Moves maxAttempts jobs (.claimJobs tenants locked request now) after := by
  have first := find?_updateJobs (exhaustedJobs jobs locked request maxAttempts now)
    DurableJob.quarantine_id found
  refine ⟨_,find?_updateJobs _ (DurableJob.claim_id request.workerId _) first,?_⟩
  by_cases exhausted :
      jobId ∈ (exhaustedJobs jobs locked request maxAttempts now).map DurableJob.id
  · obtain ⟨-,spent,due⟩ := exhaustedJobs_due
      (chosen_of_mem (fun _ member => (exhaustedJobs_due member).1) found exhausted)
    rw [if_pos exhausted] at first ⊢
    rw [if_neg]
    · exact .quarantined now due spent
    · intro listed
      obtain ⟨-,-,again⟩ := claimableJobs_due
        (chosen_of_mem (fun _ member => (claimableJobs_due member).1) first listed)
      simp [DurableJob.due,DurableJob.quarantine] at again
  · rw [if_neg exhausted] at first ⊢
    split
    · rename_i listed
      have member := chosen_of_mem (fun _ member => (claimableJobs_due member).1) first listed
      obtain ⟨-,budget,due⟩ := claimableJobs_due member
      refine .claimed request.workerId now _ due budget ?_
      exact List.mem_map.mpr ⟨_,List.mem_map_of_mem member,rfl⟩
    · exact .kept

theorem find?_updateOne_none {p : DurableJob → Bool} {change : DurableJob → DurableJob}
    (keeps : ∀ job, (change job).id = job.id) (absent : jobs.find? jobId = none) :
    (updateOne jobs p change keeps).1.find? jobId = none := by
  unfold updateOne
  split
  · exact (Table.find?_updateWhere jobs p change keeps jobId).trans (congrArg _ absent)
  · exact absent

theorem updateOne_moves {p : DurableJob → Bool} {change : DurableJob → DurableJob}
    (keeps : ∀ job, (change job).id = job.id) (found : jobs.find? jobId = some job)
    (moved : p job = true → job.Moves maxAttempts jobs call (change job)) : ∃ after,
    (updateOne jobs p change keeps).1.find? jobId = some after ∧
      job.Moves maxAttempts jobs call after := by
  unfold updateOne
  split
  · have updated := Table.find?_updateWhere jobs p change keeps jobId
    rw [found,Option.map_some] at updated
    refine ⟨_,updated,?_⟩
    split
    · rename_i chosen
      exact moved chosen
    · exact .kept
  · exact ⟨job,found,.kept⟩

theorem markFailed_moves {failedId : Uuid} {workerId : String} {error : Python.Text}
    (found : jobs.find? jobId = some job) : ∃ after,
    (markFailed jobs failedId workerId error maxAttempts now).1.find? jobId = some after ∧
      job.Moves maxAttempts jobs call after := by
  unfold markFailed
  split
  · exact ⟨job,found,.kept⟩
  · rename_i other met
    split
    · rename_i owned
      have modified := Table.find?_modify jobs failedId jobId _
        (DurableJob.fail_id error maxAttempts now)
      by_cases same : jobId = failedId
      · subst same
        rw [if_pos rfl,found] at modified
        rw [found] at met
        cases met
        exact ⟨_,modified,.failed workerId error now owned⟩
      · rw [if_neg same,found] at modified
        exact ⟨job,modified,.kept⟩
    · exact ⟨job,found,.kept⟩

theorem find?_markFailed_none {failedId : Uuid} {workerId : String} {error : Python.Text}
    (absent : jobs.find? jobId = none) :
    (markFailed jobs failedId workerId error maxAttempts now).1.find? jobId = none := by
  unfold markFailed
  split
  · exact absent
  · rename_i other met
    split
    · have modified := Table.find?_modify jobs failedId jobId _
        (DurableJob.fail_id error maxAttempts now)
      have apart : jobId ≠ failedId := by
        rintro rfl
        rw [absent] at met
        cases met
      rw [if_neg apart,absent] at modified
      exact modified
    · exact absent

theorem enqueueJob_inserts {enqueued : JobRequest} {createdAt : Time} {after : Jobs}
    {added : DurableJob} (accepted : enqueueJob tenants jobs enqueued now createdAt =
      .ok (after,added)) : jobs.insert (enqueued.job now createdAt) = some after := by
  obtain ⟨status,-,accepted⟩ := bind_eq_ok.mp accepted
  obtain ⟨middle,inserted,accepted⟩ := bind_eq_ok.mp accepted
  cases accepted
  exact orIntegrityError_eq_ok.mp inserted

/-- No call removes a job, and each moves it in one of few ways. -/
theorem JobCall.apply_moves (call : JobCall) (maxAttempts : ℕ)
    (found : jobs.find? jobId = some job) : ∃ after,
    (call.apply maxAttempts jobs).find? jobId = some after ∧
      job.Moves maxAttempts jobs call after := by
  cases call with
  | enqueueJob tenants request now createdAt =>
      simp only [apply]
      split
      · rename_i after added accepted
        have inserted := enqueueJob_inserts accepted
        refine ⟨job,?_,.kept⟩
        rw [Table.find?_insert inserted,if_neg]
        · exact found
        · intro same
          have fresh := (Table.insert_eq_some inserted).1
          rw [same,found] at fresh
          cases fresh
      · exact ⟨job,found,.kept⟩
  | claimJobs tenants locked request now => exact claimJobs_moves found
  | renewLease renewedId workerId leaseSeconds now =>
      refine updateOne_moves _ found fun chosen => ?_
      simp only [Bool.and_eq_true] at chosen
      exact .renewed workerId _ chosen.1.2
  | markCompleted completedId workerId =>
      refine updateOne_moves _ found fun chosen => ?_
      simp only [Bool.and_eq_true] at chosen
      exact .completed workerId chosen.2
  | markFailed failedId workerId error now => exact markFailed_moves found

/-- A call other than `enqueueJob` adds no job. -/
theorem JobCall.apply_absent (call : JobCall)
    (old : ∀ tenants request now createdAt, call ≠ .enqueueJob tenants request now createdAt)
    (absent : jobs.find? jobId = none) : (call.apply maxAttempts jobs).find? jobId = none := by
  cases call with
  | enqueueJob tenants request now createdAt => exact absurd rfl (old tenants request now createdAt)
  | claimJobs tenants locked request now =>
      exact find?_updateJobs_none _ (DurableJob.claim_id request.workerId _)
        (find?_updateJobs_none _ DurableJob.quarantine_id absent)
  | renewLease renewedId workerId leaseSeconds now =>
      exact find?_updateOne_none (DurableJob.renew_id _) absent
  | markCompleted completedId workerId => exact find?_updateOne_none DurableJob.complete_id absent
  | markFailed failedId workerId error now => exact find?_markFailed_none absent

/-- A new job is one that a request enqueued. -/
theorem JobCall.apply_new (call : JobCall) (absent : jobs.find? jobId = none)
    (found : (call.apply maxAttempts jobs).find? jobId = some job) :
    ∃ request now createdAt, job = JobRequest.job request now createdAt := by
  by_cases old : ∀ tenants request now createdAt, call ≠ .enqueueJob tenants request now createdAt
  · rw [call.apply_absent old absent] at found
    cases found
  · push Not at old
    obtain ⟨tenants,request,now,createdAt,rfl⟩ := old
    simp only [apply] at found
    split at found
    · rename_i after added accepted
      rw [Table.find?_insert (enqueueJob_inserts accepted)] at found
      split at found
      · exact ⟨request,now,createdAt,(Option.some.inj found).symm⟩
      · rw [absent] at found
        cases found
    · rw [absent] at found
      cases found

theorem claimJobs_completed {after : DurableJob} (found : jobs.find? jobId = some job)
    (later : (claimJobs tenants jobs locked request maxAttempts now).1.find? jobId = some after)
    (completed : after.status = .completed) : job.status = .completed := by
  have first := find?_updateJobs (exhaustedJobs jobs locked request maxAttempts now)
    DurableJob.quarantine_id found
  have second := later.symm.trans
    (find?_updateJobs _ (DurableJob.claim_id request.workerId _) first)
  rw [Option.some.inj second] at completed
  split at completed
  · cases completed
  · split at completed
    · cases completed
    · exact completed

theorem updateOne_completed {after : DurableJob} {p : DurableJob → Bool}
    {change : DurableJob → DurableJob} (keeps : ∀ job, (change job).id = job.id)
    (found : jobs.find? jobId = some job)
    (later : (updateOne jobs p change keeps).1.find? jobId = some after)
    (completed : after.status = .completed) :
    job.status = .completed ∨ (p job = true ∧ (change job).status = .completed) := by
  unfold updateOne at later
  split at later
  · have updated := Table.find?_updateWhere jobs p change keeps jobId
    rw [found,Option.map_some] at updated
    rw [Option.some.inj (later.symm.trans updated)] at completed
    split at completed
    · rename_i chosen
      exact .inr ⟨chosen,completed⟩
    · exact .inl completed
  · rw [Option.some.inj (found.symm.trans later)]
    exact .inl completed

theorem markFailed_completed {after : DurableJob} {failedId : Uuid} {workerId : String}
    {error : Python.Text} (found : jobs.find? jobId = some job)
    (later : (markFailed jobs failedId workerId error maxAttempts now).1.find? jobId = some after)
    (completed : after.status = .completed) : job.status = .completed := by
  have same (kept : jobs.find? jobId = some after) : job.status = .completed := by
    rw [Option.some.inj (found.symm.trans kept)]
    exact completed
  unfold markFailed at later
  split at later
  · exact same later
  · split at later
    · have modified := Table.find?_modify jobs failedId jobId _
        (DurableJob.fail_id error maxAttempts now)
      rw [later] at modified
      split at modified
      · obtain ⟨failed,-,rfl⟩ := Option.map_eq_some_iff.mp modified.symm
        unfold DurableJob.fail at completed
        split at completed <;> cases completed
      · exact same modified.symm
    · exact same later

/-- What a call other than `enqueueJob` leaves was there before, and only `markCompleted` completes
it. -/
theorem JobCall.apply_old (call : JobCall) {after : DurableJob}
    (old : ∀ tenants request now createdAt, call ≠ .enqueueJob tenants request now createdAt)
    (found : (call.apply maxAttempts jobs).find? jobId = some after) :
    ∃ job, jobs.find? jobId = some job ∧ job.Moves maxAttempts jobs call after ∧
      (after.status = .completed →
        job.status = .completed ∨ ∃ workerId, call = .markCompleted jobId workerId) := by
  cases before : jobs.find? jobId with
  | none =>
      rw [call.apply_absent old before] at found
      cases found
  | some job =>
      obtain ⟨moved,same,moves⟩ := call.apply_moves maxAttempts before
      rw [found] at same
      cases same
      refine ⟨job,rfl,moves,fun completed => ?_⟩
      cases call with
      | enqueueJob tenants request now createdAt =>
          exact absurd rfl (old tenants request now createdAt)
      | claimJobs tenants locked request now =>
          exact .inl (claimJobs_completed before found completed)
      | renewLease renewedId workerId leaseSeconds now =>
          rcases updateOne_completed _ before found completed with same | ⟨-,same⟩
          · exact .inl same
          · exact .inl same
      | markCompleted completedId workerId =>
          rcases updateOne_completed _ before found completed with same | ⟨chosen,-⟩
          · exact .inl same
          · simp only [Bool.and_eq_true,decide_eq_true_eq] at chosen
            have key : job.id = jobId := Table.key_of_find? before
            exact .inr ⟨workerId,by rw [← chosen.1,key]⟩
      | markFailed failedId workerId error now =>
          exact .inl (markFailed_completed before found completed)

/-- What is claimed is a job that is due and has attempts left, and the worker owns it then. -/
theorem JobCall.claims_spec {workerId : String}
    (claims : (workerId,jobId) ∈ call.claims maxAttempts jobs) :
    (∃ job now, jobs.find? jobId = some job ∧ job.due now = true) ∧
      ∃ after, (call.apply maxAttempts jobs).find? jobId = some after ∧
        after.ownedBy workerId = true := by
  cases call with
  | claimJobs tenants locked request now =>
      obtain ⟨taken,listed,same⟩ := List.mem_map.mp claims
      obtain ⟨claimed,member,rfl⟩ := List.mem_map.mp listed
      obtain ⟨rfl,key⟩ := Prod.mk.inj same
      have taken : claimed.id = jobId := key
      subst taken
      obtain ⟨stored,-,due⟩ := claimableJobs_due member
      have found := Table.find?_of_mem stored
      refine ⟨?_,?_⟩
      · cases before : jobs.find? claimed.id with
        | none =>
            rw [find?_updateJobs_none _ DurableJob.quarantine_id before] at found
            cases found
        | some job =>
            rw [find?_updateJobs _ DurableJob.quarantine_id before,Option.some.injEq] at found
            refine ⟨job,now,rfl,?_⟩
            split at found
            · rw [← found] at due
              simp [DurableJob.due,DurableJob.quarantine] at due
            · rw [found]
              exact due
      · refine ⟨_,find?_updateJobs _ (DurableJob.claim_id request.workerId _) found,?_⟩
        rw [if_pos (List.mem_map_of_mem member)]
        exact DurableJob.ownedBy_iff.mpr ⟨rfl,rfl⟩
  | enqueueJob tenants request now createdAt => cases claims
  | renewLease renewedId worker leaseSeconds now => cases claims
  | markCompleted completedId worker => cases claims
  | markFailed failedId worker error now => cases claims

end Calls

namespace DurableJob

variable {maxAttempts : ℕ} {jobs : Jobs} {call : JobCall} {job after : DurableJob} {now : Time}

/-- The attempts are within the budget, and exactly a job in process has an owner and a lease. -/
structure Sound (maxAttempts : ℕ) (job : DurableJob) : Prop where
  attempts : job.attempts ≤ maxAttempts
  leased : job.status = .processing →
    ∃ workerId expiry, job.lockedBy = some workerId ∧ job.leaseExpiresAt = some expiry
  free : job.status ≠ .processing → job.lockedBy = none ∧ job.leaseExpiresAt = none

def Terminal (job : DurableJob) : Prop := job.status = .completed ∨ job.status = .quarantined

theorem due_status (due : job.due now = true) :
    job.status = .pending ∨ job.status = .processing := by
  simp only [DurableJob.due,Bool.or_eq_true,Bool.and_eq_true,decide_eq_true_eq] at due
  exact due.imp And.left And.left

theorem request_sound (request : JobRequest) (now createdAt : Time) :
    (request.job now createdAt).Sound maxAttempts where
  attempts := Nat.zero_le _
  leased processing := by cases processing
  free _ := ⟨rfl,rfl⟩

theorem fail_free (job : DurableJob) (error : Python.Text) (maxAttempts : ℕ) (now : Time) :
    (job.fail error maxAttempts now).attempts = job.attempts ∧
      (job.fail error maxAttempts now).status ≠ .processing ∧
      (job.fail error maxAttempts now).lockedBy = none ∧
      (job.fail error maxAttempts now).leaseExpiresAt = none := by
  unfold fail
  split <;> exact ⟨rfl,(by simp),rfl,rfl⟩

/-- Only a claim uses up an attempt, and it is made only while one is left. -/
theorem Moves.sound (moves : job.Moves maxAttempts jobs call after)
    (sound : job.Sound maxAttempts) : after.Sound maxAttempts := by
  cases moves with
  | kept => exact sound
  | quarantined now due exhausted =>
      exact ⟨sound.attempts,fun processing => (by cases processing),fun _ => ⟨rfl,rfl⟩⟩
  | claimed workerId now expiry due budget claims =>
      exact ⟨budget,fun _ => ⟨workerId,expiry,rfl,rfl⟩,fun idle => absurd rfl idle⟩
  | renewed workerId expiry owned =>
      obtain ⟨processing,owner⟩ := ownedBy_iff.mp owned
      exact ⟨sound.attempts,fun _ => ⟨workerId,expiry,owner,rfl⟩,
        fun idle => absurd processing idle⟩
  | completed workerId owned =>
      exact ⟨sound.attempts,fun processing => (by cases processing),fun _ => ⟨rfl,rfl⟩⟩
  | failed workerId error now owned =>
      obtain ⟨attempts,idle,free⟩ := job.fail_free error maxAttempts now
      exact ⟨attempts.trans_le sound.attempts,fun processing => absurd processing idle,
        fun _ => free⟩

theorem Moves.of_terminal (moves : job.Moves maxAttempts jobs call after)
    (terminal : job.Terminal) : after = job := by
  have idle (now : Time) : job.due now ≠ true := by
    intro due
    rcases due_status due with status | status <;> simp [Terminal,status] at terminal
  have free (workerId : String) : job.ownedBy workerId ≠ true := by
    intro owned
    simp [Terminal,(ownedBy_iff.mp owned).1] at terminal
  cases moves with
  | kept => rfl
  | quarantined now due exhausted => exact absurd due (idle now)
  | claimed workerId now expiry due budget claims => exact absurd due (idle now)
  | renewed workerId expiry owned => exact absurd owned (free workerId)
  | completed workerId owned => exact absurd owned (free workerId)
  | failed workerId error now owned => exact absurd owned (free workerId)

/-- No call changes what a job is. -/
theorem Moves.same_work (moves : job.Moves maxAttempts jobs call after) :
    after.tenantId = job.tenantId ∧ after.kind = job.kind ∧ after.payload = job.payload := by
  cases moves with
  | failed workerId error now owned =>
      unfold fail
      split <;> exact ⟨rfl,rfl,rfl⟩
  | kept | quarantined | claimed | renewed | completed => exact ⟨rfl,rfl,rfl⟩

/-- A worker becomes the owner of a job only by claiming it. -/
theorem Moves.owner {workerId : String} (moves : job.Moves maxAttempts jobs call after)
    (owns : after.lockedBy = some workerId) :
    job.lockedBy = some workerId ∨ (workerId,job.id) ∈ call.claims maxAttempts jobs := by
  cases moves with
  | kept => exact .inl owns
  | quarantined now due exhausted => cases owns
  | claimed claimant now expiry due budget claims =>
      cases owns
      exact .inr claims
  | renewed claimant expiry owned => exact .inl owns
  | completed claimant owned => cases owns
  | failed claimant error now owned =>
      rw [(job.fail_free error maxAttempts now).2.2.1] at owns
      cases owns

end DurableJob

section Runs

variable {maxAttempts : ℕ} {jobs after : Jobs} {job : DurableJob} {jobId : Uuid}
  {workerId : String} {calls : List JobCall}

def Jobs.Sound (maxAttempts : ℕ) (jobs : Jobs) : Prop := ∀ job ∈ jobs.rows, job.Sound maxAttempts

theorem JobCall.apply_sound (call : JobCall) (sound : jobs.Sound maxAttempts) :
    (call.apply maxAttempts jobs).Sound maxAttempts := by
  intro job member
  have found := Table.find?_of_mem member
  cases before : jobs.find? job.id with
  | none =>
      obtain ⟨request,now,createdAt,rfl⟩ := call.apply_new before found
      exact DurableJob.request_sound request now createdAt
  | some old =>
      obtain ⟨moved,same,moves⟩ := call.apply_moves maxAttempts before
      rw [found] at same
      cases same
      exact moves.sound (sound old (Table.mem_of_find? before))

def Dispossessed (workerId : String) (jobId : Uuid) (jobs : Jobs) : Prop :=
  ∃ job, jobs.find? jobId = some job ∧ job.lockedBy ≠ some workerId

theorem Dispossessed.apply {call : JobCall} (lost : Dispossessed workerId jobId jobs)
    (unclaimed : (workerId,jobId) ∉ call.claims maxAttempts jobs) :
    Dispossessed workerId jobId (call.apply maxAttempts jobs) := by
  obtain ⟨job,found,other⟩ := lost
  have key : job.id = jobId := Table.key_of_find? found
  obtain ⟨moved,after,moves⟩ := call.apply_moves maxAttempts found
  refine ⟨moved,after,?_⟩
  intro owns
  rcases moves.owner owns with owned | claims
  · exact other owned
  · rw [key] at claims
    exact unclaimed claims

/-- Every call of the worker for the job is refused, and changes nothing. -/
structure Refused (workerId : String) (jobId : Uuid) (jobs : Jobs) : Prop where
  renew : ∀ leaseSeconds now, renewLease jobs jobId workerId leaseSeconds now = (jobs,false)
  complete : markCompleted jobs jobId workerId = (jobs,false)
  fail : ∀ error maxAttempts now,
    markFailed jobs jobId workerId error maxAttempts now = (jobs,false)

theorem updateOne_refused {p : DurableJob → Bool} {change : DurableJob → DurableJob}
    (keeps : ∀ job, (change job).id = job.id) (none : ∀ job ∈ jobs.rows, p job = false) :
    updateOne jobs p change keeps = (jobs,false) := by
  have empty : jobs.select p = [] := by
    rw [Table.select,List.filter_eq_nil_iff]
    exact fun job member => Bool.eq_false_iff.mp (none job member)
  rw [updateOne,empty,if_neg (by decide)]

theorem Dispossessed.refused (lost : Dispossessed workerId jobId jobs) :
    Refused workerId jobId jobs := by
  obtain ⟨job,found,other⟩ := lost
  have foreign : job.ownedBy workerId = false :=
    Bool.eq_false_iff.mpr fun owned => other (DurableJob.ownedBy_iff.mp owned).2
  have none : ∀ row ∈ jobs.rows, (decide (row.id = jobId) && row.ownedBy workerId) = false := by
    intro row member
    by_cases same : row.id = jobId
    · subst same
      rw [Table.find?_of_mem member] at found
      cases found
      simp [foreign]
    · simp [same]
  refine ⟨?_,updateOne_refused _ none,?_⟩
  · intro leaseSeconds now
    refine updateOne_refused _ fun row member => ?_
    rw [none row member,Bool.false_and]
  · intro error maxAttempts now
    rw [markFailed,found]
    simp [foreign]

/-- A finished job is not claimed and stays as it is. -/
theorem run_terminal (found : jobs.find? jobId = some job) (terminal : job.Terminal)
    (ran : (queue maxAttempts).run jobs calls = some after) :
    after.find? jobId = some job ∧
      (queue maxAttempts).Respects
        (fun jobs call => ∀ workerId, (workerId,jobId) ∉ call.claims maxAttempts jobs)
        jobs calls := by
  induction calls generalizing jobs with
  | nil =>
      cases ran
      exact ⟨found,trivial⟩
  | cons call calls ih =>
      rw [Machine.run_cons] at ran
      obtain ⟨moved,next,moves⟩ := call.apply_moves maxAttempts found
      rw [moves.of_terminal terminal] at next
      obtain ⟨kept,unclaimed⟩ := ih next ran
      refine ⟨kept,?_,?_⟩
      · intro workerId claims
        obtain ⟨⟨other,now,same,due⟩,-⟩ := JobCall.claims_spec claims
        rw [found] at same
        cases same
        rcases DurableJob.due_status due with status | status <;>
          simp [DurableJob.Terminal,status] at terminal
      · intro middle taken
        cases taken
        exact unclaimed

/-- Attempts, leases and ownership in every run: attempts stay within the budget, exactly the jobs
in process are leased, a reclaimed job is out of its former worker's hands until that worker claims
it again, and a finished job stays as it is and is never claimed. -/
theorem lease_protocol (reachable : (queue maxAttempts).Reachable jobs) :
    (∀ job ∈ jobs.rows, job.Sound maxAttempts) ∧
    (∀ claim other workerId jobId, (other,jobId) ∈ JobCall.claims maxAttempts jobs claim →
      other ≠ workerId → ∀ calls after,
      (queue maxAttempts).Respects
        (fun jobs call => (workerId,jobId) ∉ call.claims maxAttempts jobs)
        (claim.apply maxAttempts jobs) calls →
      (queue maxAttempts).run (claim.apply maxAttempts jobs) calls = some after →
      Refused workerId jobId after) ∧
    ∀ job ∈ jobs.rows, job.Terminal → ∀ calls after,
      (queue maxAttempts).run jobs calls = some after →
      after.find? job.id = some job ∧
        (queue maxAttempts).Respects
          (fun jobs call => ∀ workerId, (workerId,job.id) ∉ call.claims maxAttempts jobs)
          jobs calls := by
  refine ⟨?_,?_,?_⟩
  · have started : ∀ jobs, (queue maxAttempts).initial jobs → jobs.Sound maxAttempts := by
      rintro jobs rfl job member
      cases member
    have stepped : ∀ jobs call after, jobs.Sound maxAttempts →
        (queue maxAttempts).next jobs call = some after → after.Sound maxAttempts := by
      intro jobs call after sound taken
      cases taken
      exact call.apply_sound sound
    have sound : jobs.Sound maxAttempts := reachable.invariant started stepped
    exact sound
  · intro claim other workerId jobId claims different calls after respects ran
    obtain ⟨-,job,found,owned⟩ := JobCall.claims_spec claims
    have lost : Dispossessed workerId jobId (claim.apply maxAttempts jobs) := by
      refine ⟨job,found,?_⟩
      rw [(DurableJob.ownedBy_iff.mp owned).2]
      exact fun same => different (Option.some.inj same)
    have later : Dispossessed workerId jobId after := by
      refine Machine.run_guarded ?_ lost respects ran
      intro jobs call after lost unclaimed taken
      cases taken
      exact lost.apply unclaimed
    exact later.refused
  · intro job member terminal calls after ran
    exact run_terminal (Table.find?_of_mem member) terminal ran

end Runs

theorem queue_run (maxAttempts : ℕ) (jobs : Jobs) (calls : List JobCall) :
    (queue maxAttempts).run jobs calls = some (calls.foldl (JobCall.apply maxAttempts) jobs) := by
  induction calls generalizing jobs with
  | nil => rfl
  | cons call calls ih => exact ih (call.apply maxAttempts jobs)

namespace Sample

def tenants : Tenants := fun _ => some .active

def unlocked : SkipLocked := ⟨fun _ => false,fun _ => false⟩

def importJob : JobRequest := ⟨5,registry.tenantId,.catalogImport,[],none⟩

def claimAt (workerId : String) (now : Time) : JobCall :=
  .claimJobs tenants unlocked ⟨workerId,1,30,none,none⟩ now

/-- A job whose lease runs out, and the worker that holds it then. -/
def leasedJobs : Jobs :=
  [.enqueueJob tenants importJob 0 0,claimAt "first" 0].foldl (JobCall.apply 2) Table.empty

theorem leasedJobs_reachable : (queue 2).Reachable leasedJobs :=
  ⟨Table.empty,_,rfl,queue_run 2 Table.empty _⟩

end Sample

/-- The first worker comes late to a job that the second one has reclaimed. -/
theorem lease_protocol_sample :
    Refused "first" 5 ((Sample.claimAt "second" (seconds 40)).apply 2 Sample.leasedJobs) := by
  obtain ⟨-,reclaimed,-⟩ := lease_protocol Sample.leasedJobs_reachable
  exact reclaimed (Sample.claimAt "second" (seconds 40)) "second" "first" 5 (by decide +kernel)
    (by decide) [] _ trivial rfl

end Abacus
