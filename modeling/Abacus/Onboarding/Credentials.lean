import Abacus.Onboarding.Runs

/-! The tokens of devices over whole runs.
A secret is given out when a device is registered and when its credential is rotated. The database
keeps its digest alone, and the secret given out last is the one that authenticates the device.
-/
set_option autoImplicit false

namespace Abacus.Onboarding

open Relational (Table)
open Python (Text text)
open Transition (Machine)

section Issues

abbrev Issue := Uuid × Text

def issued (runtime : Runtime) (db : Database) : Request → List Issue
  | .registerStoreDevice principal storeId request rawSecret now =>
      ((registerStoreDevice runtime db principal storeId request rawSecret now).toOption.map
        fun registered => (registered.1.id,rawSecret)).toList
  | .rotateDeviceCredential tenantId deviceId secret =>
      ((rotateDeviceCredential runtime db tenantId deviceId secret).toOption.map
        fun _ => (deviceId,secret)).toList
  | .createTenant _ => []
  | .createStoreZone _ _ _ => []
  | .bulkOnboardStores _ _ _ _ => []

def issuedIn (runtime : Runtime) : Database → List Request → List Issue
  | _, [] => []
  | db, request :: requests => issued runtime db request ++
      issuedIn runtime ((serve runtime db request).toOption.getD db) requests

def lastSecret (issues : List Issue) (deviceId : Uuid) : Option Text :=
  (issues.reverse.find? fun issue => issue.1 = deviceId).map Prod.snd

@[simp] theorem lastSecret_nil (deviceId : Uuid) : lastSecret [] deviceId = none := rfl

@[simp] theorem lastSecret_append_one (issues : List Issue) (issue : Issue) (deviceId : Uuid) :
    lastSecret (issues ++ [issue]) deviceId =
      if issue.1 = deviceId then some issue.2 else lastSecret issues deviceId := by
  by_cases same : issue.1 = deviceId <;> simp [lastSecret,same]

theorem lastSecret_of_absent {issues : List Issue} {deviceId : Uuid}
    (absent : ∀ issue ∈ issues, issue.1 ≠ deviceId) : lastSecret issues deviceId = none := by
  simpa [lastSecret] using absent

theorem issuedIn_append (runtime : Runtime) {start db : Database} {earlier : List Request}
    (reached : (onboardingMachine runtime).run start earlier = some db) (request : Request) :
    issuedIn runtime start (earlier ++ [request]) =
      issuedIn runtime start earlier ++ issued runtime db request := by
  induction earlier generalizing start with
  | nil =>
      cases reached
      simp [issuedIn]
  | cons first earlier ih =>
      rw [Machine.run_cons] at reached
      obtain ⟨middle,taken,rest⟩ := Option.bind_eq_some_iff.mp reached
      cases taken
      simp only [List.cons_append,issuedIn,ih rest,List.append_assoc]

end Issues

section Steps

variable {runtime : Runtime} {db after : Database} {issues : List Issue}

/-- The database keeps the digest of the secret that was given out last for each device, and the
identifiers of devices to come have none. -/
structure Credited (runtime : Runtime) (issues : List Issue) (db : Database) : Prop where
  coherent : Coherent db
  hashes : ∀ device ∈ db.devices.rows,
    device.credentialHash = (lastSecret issues device.id).map runtime.digest
  statuses : ∀ device ∈ db.devices.rows, device.status = .active
  tenants : ∀ tenant ∈ db.tenants.rows, tenant.status = .active
  drawn : ∀ issue ∈ issues, issue.1 < db.nextId

theorem Credited.none (credited : Credited runtime issues db) {deviceId : Uuid}
    (fresh : db.nextId ≤ deviceId) : lastSecret issues deviceId = none :=
  lastSecret_of_absent fun issue member => ((credited.drawn issue member).trans_le fresh).ne

/-- A request that gives out no secret. -/
theorem Credited.silent (credited : Credited runtime issues db) (serves : Serves db after)
    {serials : List Text} (adds : db.Adds after serials)
    (tenants : ∀ tenant ∈ after.tenants.rows, tenant ∈ db.tenants.rows ∨ tenant.status = .active) :
    Credited runtime issues after := by
  obtain ⟨added,rows,-,unused⟩ := adds
  refine ⟨serves.coherent,fun device member => ?_,fun device member => ?_,
    fun tenant member => (tenants tenant member).elim (credited.tenants tenant) id,
    fun issue member => (credited.drawn issue member).trans_le serves.extends_.nextId⟩
  · rw [rows] at member
    rcases List.mem_append.mp member with old | new
    · exact credited.hashes device old
    · obtain ⟨hash,-,since⟩ := unused device new
      rw [hash,credited.none since]
      rfl
  · rw [rows] at member
    rcases List.mem_append.mp member with old | new
    · exact credited.statuses device old
    · exact (unused device new).2.1

theorem Credited.register (credited : Credited runtime issues db) (serves : Serves db after)
    {device : Device} {zone : Zone} {now : Time} {rawSecret : Text}
    (installs : Installs db after device zone now) (own : device.id = db.nextId)
    (hash : device.credentialHash = some (runtime.digest rawSecret))
    (status : device.status = .active) :
    Credited runtime (issues ++ [(device.id,rawSecret)]) after := by
  have known := (serves.coherent.constraints.devices device (mem_last installs.devices)).2
  refine ⟨serves.coherent,fun row member => ?_,fun row member => ?_,?_,fun issue member => ?_⟩
  · rw [installs.devices] at member
    rcases List.mem_append.mp member with old | new
    · have apart : device.id ≠ row.id :=
        own ▸ ((credited.coherent.constraints.devices row old).2).ne'
      simpa [apart] using credited.hashes row old
    · rw [List.mem_singleton.mp new]
      simp [hash]
  · rw [installs.devices] at member
    rcases List.mem_append.mp member with old | new
    · exact credited.statuses row old
    · rw [List.mem_singleton.mp new]
      exact status
  · rw [installs.tenants]
    exact credited.tenants
  · rcases List.mem_append.mp member with earlier | last
    · exact (credited.drawn issue earlier).trans_le serves.extends_.nextId
    · rw [List.mem_singleton.mp last]
      exact known

theorem Credited.rotate (credited : Credited runtime issues db) {deviceId : Uuid}
    (known : ∃ device ∈ db.devices.rows, device.id = deviceId) (secret : Text) :
    Credited runtime (issues ++ [(deviceId,secret)])
      (db.rotate deviceId (runtime.digest secret)) := by
  have serves := rotate_spec credited.coherent deviceId (runtime.digest secret)
  obtain ⟨device,stored,own⟩ := known
  refine ⟨serves.coherent,?_,?_,credited.tenants,?_⟩
  · intro row member
    obtain ⟨old,place,rfl⟩ := mem_rotate.mp member
    by_cases same : old.id = deviceId
    · simp [same,Device.rotate]
    · simpa [same,Ne.symm same] using credited.hashes old place
  · intro row member
    obtain ⟨old,place,rfl⟩ := mem_rotate.mp member
    by_cases same : old.id = deviceId <;> simpa [same,Device.rotate] using credited.statuses old place
  · intro issue member
    rcases List.mem_append.mp member with earlier | last
    · exact credited.drawn issue earlier
    · rw [List.mem_singleton.mp last,← own]
      exact (credited.coherent.constraints.devices device stored).2

/-- A request that is refused leaves the secrets as they are. -/
theorem Credited.refused (credited : Credited runtime issues db) {request : Request}
    {refusal : Refusal} (failed : serve runtime db request = .error refusal) :
    Credited runtime (issues ++ issued runtime db request) db := by
  have nothing : issued runtime db request = [] := by
    cases request with
    | createTenant request => rfl
    | createStoreZone principal storeId request => rfl
    | bulkOnboardStores tenantId idempotencyKey request now => rfl
    | registerStoreDevice principal storeId request rawSecret now =>
        cases served : registerStoreDevice runtime db principal storeId request rawSecret now with
        | ok registered =>
            rw [serve,served] at failed
            cases failed
        | error refusal => rw [issued,served]; rfl
    | rotateDeviceCredential tenantId deviceId secret =>
        cases served : rotateDeviceCredential runtime db tenantId deviceId secret with
        | ok rotated =>
            rw [serve,served] at failed
            cases failed
        | error refusal => rw [issued,served]; rfl
  simpa [nothing] using credited

theorem Credited.served (credited : Credited runtime issues db) {request : Request}
    (done : serve runtime db request = .ok after) :
    Credited runtime (issues ++ issued runtime db request) after := by
  cases request with
  | createTenant request =>
      obtain ⟨⟨tenant,later⟩,served,rfl⟩ := map_eq_ok.mp done
      obtain ⟨serves,devices,tenants⟩ := createTenant_spec credited.coherent served
      rw [issued,List.append_nil]
      exact credited.silent serves (.none devices) tenants
  | createStoreZone principal storeId request =>
      obtain ⟨⟨zone,later⟩,served,rfl⟩ := map_eq_ok.mp done
      obtain ⟨serves,devices,tenants⟩ := createStoreZone_spec credited.coherent served
      rw [issued,List.append_nil]
      exact credited.silent serves (.none devices) fun row member => .inl (tenants ▸ member)
  | registerStoreDevice principal storeId request rawSecret now =>
      obtain ⟨⟨device,token,later⟩,served,rfl⟩ := map_eq_ok.mp done
      obtain ⟨serves,zone,installs,own,hash,status,-⟩ :=
        registerStoreDevice_spec credited.coherent served
      rw [issued,served]
      exact credited.register serves installs own hash status
  | bulkOnboardStores tenantId idempotencyKey request now =>
      obtain ⟨⟨batch,later⟩,served,rfl⟩ := map_eq_ok.mp done
      obtain ⟨serves,-,-,-,-,-,⟨-,rfl⟩ | fulfilled⟩ :=
        bulkOnboardStores_spec credited.coherent served
      · rw [issued,List.append_nil]
        exact credited
      · rw [issued,List.append_nil]
        exact credited.silent serves fulfilled.adds fun row member =>
          .inl (fulfilled.tenants ▸ member)
  | rotateDeviceCredential tenantId deviceId secret =>
      obtain ⟨⟨token,later⟩,served,rfl⟩ := map_eq_ok.mp done
      obtain ⟨known,-,rfl⟩ := rotateDeviceCredential_spec served
      rw [issued,served]
      exact credited.rotate known secret

theorem Credited.next (credited : Credited runtime issues db) {request : Request}
    (taken : (onboardingMachine runtime).next db request = some after) :
    Credited runtime (issues ++ issued runtime db request) after := by
  cases taken
  cases done : serve runtime db request with
  | ok after => exact credited.served done
  | error refusal => exact credited.refused done

end Steps

section Runs

variable {runtime : Runtime} {db : Database} {requests : List Request}

theorem credited_of_run (reached : (onboardingMachine runtime).run {} requests = some db) :
    Credited runtime (issuedIn runtime {} requests) db := by
  have begins : (onboardingMachine runtime).run {} [] = some {} ∧
      Credited runtime (issuedIn runtime {} []) {} :=
    ⟨rfl,empty_coherent,by simp,by simp,by simp,by simp [issuedIn]⟩
  have step : ∀ earlier state request after,
      ((onboardingMachine runtime).run {} earlier = some state ∧
        Credited runtime (issuedIn runtime {} earlier) state) →
      (onboardingMachine runtime).next state request = some after →
      (onboardingMachine runtime).run {} (earlier ++ [request]) = some after ∧
        Credited runtime (issuedIn runtime {} (earlier ++ [request])) after := by
    rintro earlier state request after ⟨there,credited⟩ taken
    constructor
    · rw [Machine.run_append,there,Option.bind_some,Machine.run_cons,taken]
      rfl
    · rw [issuedIn_append runtime there]
      exact credited.next taken
  exact (Machine.run_history step begins reached).2

theorem activeDevice_eq_some {deviceId : Uuid} {device : Device} :
    ((db.devices.find? deviceId).filter fun device => device.status = .active &&
        (db.tenants.find? device.tenantId).any fun tenant => tenant.status = .active) =
      some device ↔ device ∈ db.devices.rows ∧ device.id = deviceId ∧ device.status = .active ∧
        ∃ tenant ∈ db.tenants.rows, tenant.id = device.tenantId ∧ tenant.status = .active := by
  rw [Option.filter_eq_some_iff,Table.find?_eq_some_iff,Bool.and_eq_true,Option.any_eq_true,
    and_assoc,decide_eq_true_eq]
  simp only [Table.find?_eq_some_iff,decide_eq_true_eq,and_assoc]

/-- What the token of an active device is refused for. -/
theorem authenticateDevice_of_active {rawToken : Text} {device : Device} (dotted : 46 ∈ rawToken)
    (parsed : runtime.parse (splitToken rawToken).1 = some device.id)
    (member : device ∈ db.devices.rows) (status : device.status = .active)
    (tenant : ∃ tenant ∈ db.tenants.rows, tenant.id = device.tenantId ∧ tenant.status = .active) :
    authenticateDevice runtime db (some rawToken) =
      if device.credentialHash = some (runtime.digest (splitToken rawToken).2) then .ok device
      else .error (unauthorizedDevice "The device token is invalid.") := by
  have found := activeDevice_eq_some.mpr ⟨member,rfl,status,tenant⟩
  rw [authenticateDevice,Option.filter_some_pos (by simpa using dotted)]
  dsimp only
  rw [parsed]
  dsimp only
  rw [found]

theorem authenticateDevice_ok_iff {rawToken : Text} {device : Device} :
    authenticateDevice runtime db (some rawToken) = .ok device ↔
      46 ∈ rawToken ∧ runtime.parse (splitToken rawToken).1 = some device.id ∧
        device ∈ db.devices.rows ∧ device.status = .active ∧
        (∃ tenant ∈ db.tenants.rows, tenant.id = device.tenantId ∧ tenant.status = .active) ∧
        device.credentialHash = some (runtime.digest (splitToken rawToken).2) := by
  constructor
  · intro accepted
    unfold authenticateDevice at accepted
    split at accepted
    · cases accepted
    rename_i token supplied
    obtain ⟨same,dotted⟩ := Option.filter_eq_some_iff.mp supplied
    cases same
    split at accepted
    · cases accepted
    rename_i deviceId parsed
    split at accepted
    · cases accepted
    rename_i known found
    obtain ⟨member,own,status,tenant⟩ := activeDevice_eq_some.mp found
    split at accepted
    · rename_i hash
      cases accepted
      exact ⟨by simpa using dotted,parsed.trans (congrArg some own.symm),member,status,tenant,hash⟩
    · cases accepted
  · rintro ⟨dotted,parsed,member,status,tenant,hash⟩
    rw [authenticateDevice_of_active dotted parsed member status tenant,if_pos hash]

/-- No dot is in the text of an identifier, so that a token is split where it was joined. -/
theorem splitToken_deviceToken {deviceId : Uuid} (dotless : 46 ∉ runtime.str deviceId)
    (secret : Text) :
    splitToken (deviceToken runtime deviceId secret) = (runtime.str deviceId,secret) := by
  have taken : (deviceToken runtime deviceId secret).takeWhile (fun character => character ≠ 46) =
      runtime.str deviceId := by
    rw [deviceToken,List.append_assoc,List.takeWhile_append_of_pos]
    · simp [text]
    · intro character member
      simpa using ne_of_mem_of_not_mem member dotless
  rw [splitToken,taken,deviceToken]
  simp [text]

/-- In every run a token authenticates a device if and only if it carries its identifier and the
secret that was given out last for it, as far as digests tell secrets apart. -/
theorem last_token_authenticates (uuids : ∀ id, 46 ∉ runtime.str id ∧
      runtime.parse (runtime.str id) = some id)
    (reached : (onboardingMachine runtime).run {} requests = some db) :
    (∀ rawToken device, authenticateDevice runtime db (some rawToken) = .ok device ↔
      46 ∈ rawToken ∧ runtime.parse (splitToken rawToken).1 = some device.id ∧
        device ∈ db.devices.rows ∧
        (lastSecret (issuedIn runtime {} requests) device.id).map runtime.digest =
          some (runtime.digest (splitToken rawToken).2)) ∧
      ∀ device ∈ db.devices.rows, ∀ secret,
        authenticateDevice runtime db (some (deviceToken runtime device.id secret)) =
          if (lastSecret (issuedIn runtime {} requests) device.id).map runtime.digest =
            some (runtime.digest secret) then .ok device
          else .error (unauthorizedDevice "The device token is invalid.") := by
  have credited := credited_of_run reached
  have trusted : ∀ device ∈ db.devices.rows,
      ∃ tenant ∈ db.tenants.rows, tenant.id = device.tenantId ∧ tenant.status = .active := by
    intro device member
    obtain ⟨tenant,stored,own⟩ := (credited.coherent.constraints.devices device member).1
    exact ⟨tenant,stored,own,credited.tenants tenant stored⟩
  refine ⟨fun rawToken device => ?_,fun device member secret => ?_⟩
  · rw [authenticateDevice_ok_iff]
    refine and_congr_right fun _ => and_congr_right fun _ => and_congr_right fun member => ?_
    rw [← credited.hashes device member]
    exact ⟨fun accepted => accepted.2.2,
      fun matched => ⟨credited.statuses device member,trusted device member,matched⟩⟩
  · have parts := splitToken_deviceToken (uuids device.id).1 secret
    have dotted : 46 ∈ deviceToken runtime device.id secret := by simp [deviceToken,text]
    rw [authenticateDevice_of_active dotted (by rw [parts,(uuids device.id).2]) member
      (credited.statuses device member) (trusted device member),parts,credited.hashes device member]

namespace Sample

theorem uuids (id : Uuid) : 46 ∉ onboardingRuntime.str id ∧
    onboardingRuntime.parse (onboardingRuntime.str id) = some id := by
  simp [onboardingRuntime]

def opening : List Request :=
  [.createTenant ⟨text "acme",text "Acme"⟩,.bulkOnboardStores 0 idempotencyKey request (seconds 5)]

def rotations : List Request :=
  [.rotateDeviceCredential 0 7 (text "0ld"),.rotateDeviceCredential 0 7 (text "n3w")]

def rotated : Database :=
  ((onboardingMachine onboardingRuntime).run {} (opening ++ rotations)).getD {}

theorem rotated_reached : (onboardingMachine onboardingRuntime).run {} (opening ++ rotations) =
    some rotated :=
  Machine.run_getD (Machine.run_total (fun _ _ => rfl) _ _)

def reader : Device :=
  ⟨7,0,text "RDR-1",text "Reader",some (text "sha256:n3w"),.active⟩

theorem reader_stored : reader ∈ rotated.devices.rows := by decide +kernel

end Sample

theorem last_token_authenticates_sample :
    authenticateDevice Sample.onboardingRuntime Sample.rotated
        (some (deviceToken Sample.onboardingRuntime Sample.reader.id (text "n3w"))) =
      .ok Sample.reader ∧
    authenticateDevice Sample.onboardingRuntime Sample.rotated
        (some (deviceToken Sample.onboardingRuntime Sample.reader.id (text "0ld"))) =
      .error (unauthorizedDevice "The device token is invalid.") := by
  have tokens := (last_token_authenticates Sample.uuids Sample.rotated_reached).2
  exact ⟨(tokens Sample.reader Sample.reader_stored (text "n3w")).trans
      (if_pos (by decide +kernel)),
    (tokens Sample.reader Sample.reader_stored (text "0ld")).trans (if_neg (by decide +kernel))⟩

end Runs

end Abacus.Onboarding
