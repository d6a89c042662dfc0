import FireIsp.Base.Client
import FireIsp.Cwmp.Xml

/-!
# Devices and tasks of the ACS

The rows of `cpe_devices` and `cpe_tasks` the auto configuration server works with, and its
statements.  Soft-deleted devices are left out, and rows are in order of their ids.  What was
dispatched and what was settled is kept beside the rows.
-/

namespace FireIsp.Acs

open Txn Cwmp

/-- Row of `cpe_devices`. -/
structure CpeDevice where
  id : Nat
  serialNumber : Text
  /-- Organization of the address block, if it is known. -/
  oui : Option Text
  acsUsername : Option Text
  acsPasswordHash : Option Text
  contractId : Option Nat
  deriving DecidableEq

/-- `cpe_tasks.status`. -/
inductive TaskStatus
  | queued
  | inProgress
  | done
  | failed
  deriving DecidableEq

/-- Row of `cpe_tasks`. -/
structure CpeTask where
  id : Nat
  cpeDeviceId : Nat
  getsParameters : Bool
  diagnostic : Bool
  /-- Body of the request that its type and its parameters stand for. -/
  body : Text
  status : TaskStatus
  priority : Nat
  queuedAt : Nat
  startedAt : Option Nat
  deriving DecidableEq

/-- What happened to tasks. -/
inductive Event
  | dispatched (taskId : Nat)
  | settled (taskId : Nat) (messageId : Text) (before : TaskStatus)
  deriving DecidableEq

/-- The tables. -/
structure Db where
  devices : List CpeDevice
  tasks : List CpeTask
  events : List Event

/-- A task to be queued. -/
structure NewTask where
  cpeDeviceId : Nat
  getsParameters : Bool
  diagnostic : Bool
  body : Text
  priority : Nat

/-- Statements of the server and of what queues tasks. -/
inductive Stmt
  | byUsername (username : Text)
  | byIdentity (serialNumber oui : Text)
  /-- The device with a serial number and no OUI, rather one of a contract. -/
  | bySerialNumber (serialNumber : Text)
  | identify (deviceId : Nat) (oui : Text)
  | device (deviceId : Nat)
  | register (serialNumber oui : Text)
  | nextTask (deviceId : Nat)
  | startTask (taskId : Nat)
  | activeTask (deviceId : Nat) (messageId : Text)
  | failTask (taskId : Nat) (messageId : Text)
  | finishTask (taskId : Nat) (messageId : Text)
  | queueTask (task : NewTask)
  /-- Columns and tables nothing here reads are written. -/
  | otherwise

/-- Replies. -/
@[reducible] def Stmt.Res : Stmt → Type
  | .byUsername _ => Option CpeDevice
  | .byIdentity .. => Option CpeDevice
  | .bySerialNumber _ => Option CpeDevice
  | .identify .. => Unit
  | .device _ => Option CpeDevice
  | .register .. => CpeDevice
  | .nextTask _ => Option CpeTask
  | .startTask _ => Unit
  | .activeTask .. => Option CpeTask
  | .failTask .. => Unit
  | .finishTask .. => Unit
  | .queueTask _ => Unit
  | .otherwise => Unit

/-- Row versions. -/
inductive Write
  | registered (device : CpeDevice)
  | identified (deviceId : Nat) (oui : Text)
  | queued (task : CpeTask)
  | started (taskId : Nat) (at_ : Nat)
  | settled (taskId : Nat) (status : TaskStatus) (messageId : Text)

def Db.task (db : Db) (taskId : Nat) : Option CpeTask := db.tasks.find? fun t => t.id = taskId

def Db.updateTask (db : Db) (taskId : Nat) (change : CpeTask → CpeTask) : List CpeTask :=
  db.tasks.map fun t => if t.id = taskId then change t else t

/-- One row version is stored. -/
def Db.apply (db : Db) : Write → Db
  | .registered device => { db with devices := db.devices ++ [device] }
  | .identified deviceId oui =>
    { db with devices := db.devices.map fun d => if d.id = deviceId then { d with oui := oui } else d }
  | .queued task => { db with tasks := db.tasks ++ [task] }
  | .started taskId at_ => match db.task taskId with
      | none => db
      | some _ =>
        { db with
          tasks := db.updateTask taskId fun t =>
            { t with status := .inProgress, startedAt := some at_ }
          events := db.events ++ [.dispatched taskId] }
  | .settled taskId status messageId => match db.task taskId with
      | none => db
      | some t =>
        { db with
          tasks := db.updateTask taskId fun t => { t with status := status }
          events := db.events ++ [.settled taskId messageId t.status] }

theorem apply_started (db : Db) (taskId at_ : Nat) :
    db.task taskId = none ∧ db.apply (.started taskId at_) = db ∨
      ∃ t, db.task taskId = some t ∧ db.apply (.started taskId at_) =
        ⟨db.devices, db.updateTask taskId fun t =>
          { t with status := .inProgress, startedAt := some at_ },
          db.events ++ [.dispatched taskId]⟩ := by
  cases htask : db.task taskId with
  | none => exact .inl ⟨rfl, by simp only [Db.apply, htask]⟩
  | some t => exact .inr ⟨t, rfl, by simp only [Db.apply, htask]⟩

theorem apply_settled (db : Db) (taskId : Nat) (status : TaskStatus) (messageId : Text) :
    db.task taskId = none ∧ db.apply (.settled taskId status messageId) = db ∨
      ∃ t, db.task taskId = some t ∧ db.apply (.settled taskId status messageId) =
        ⟨db.devices, db.updateTask taskId fun t => { t with status := status },
          db.events ++ [.settled taskId messageId t.status]⟩ := by
  cases htask : db.task taskId with
  | none => exact .inl ⟨rfl, by simp only [Db.apply, htask]⟩
  | some t => exact .inr ⟨t, rfl, by simp only [Db.apply, htask]⟩

theorem devices_started (db : Db) (taskId at_ : Nat) :
    (db.apply (.started taskId at_)).devices = db.devices := by
  rcases apply_started db taskId at_ with ⟨-, heq⟩ | ⟨t, -, heq⟩ <;> rw [heq]

theorem devices_settled (db : Db) (taskId : Nat) (status : TaskStatus) (messageId : Text) :
    (db.apply (.settled taskId status messageId)).devices = db.devices := by
  rcases apply_settled db taskId status messageId with ⟨-, heq⟩ | ⟨t, -, heq⟩ <;> rw [heq]

/-- The first row by a number. -/
def leastBy (rank : CpeTask → Nat) : List CpeTask → Option CpeTask
  | [] => none
  | t :: tasks => match leastBy rank tasks with
    | none => some t
    | some other => some (if rank other < rank t then other else t)

/-- `ORDER BY priority ASC, queued_at ASC LIMIT 1` -/
def Db.nextTask (db : Db) (deviceId : Nat) : Option CpeTask :=
  let queued := db.tasks.filter fun t => t.cpeDeviceId = deviceId ∧ t.status = .queued
  let urgent := queued.filter fun t => queued.all fun other => t.priority ≤ other.priority
  leastBy CpeTask.queuedAt urgent

/-- `ORDER BY started_at DESC LIMIT 1` -/
def Db.activeTask (db : Db) (deviceId : Nat) : Option CpeTask :=
  let started := db.tasks.filter fun t => t.cpeDeviceId = deviceId ∧ t.status = .inProgress
  started.find? fun t => started.all fun other => other.startedAt.getD 0 ≤ t.startedAt.getD 0

section Engine

variable (same : Text → Text → Bool)

def Db.byUsername (db : Db) (username : Text) : Option CpeDevice :=
  db.devices.find? fun d => d.acsUsername.any (same username)

def Db.byIdentity (db : Db) (serialNumber oui : Text) : Option CpeDevice :=
  db.devices.find? fun d => same serialNumber d.serialNumber && d.oui.any (same oui)

def Db.unidentified (db : Db) (serialNumber : Text) : List CpeDevice :=
  db.devices.filter fun d => same serialNumber d.serialNumber && d.oui.isNone

/-- `ORDER BY (contract_id IS NULL), id LIMIT 1` -/
def Db.bySerialNumber (db : Db) (serialNumber : Text) : Option CpeDevice :=
  ((db.unidentified same serialNumber).find? fun d => d.contractId.isSome) <|>
    (db.unidentified same serialNumber).head?

/-- The statements, strings being compared as the collation does. -/
def engine : Engine Db Write Nat Stmt Stmt.Res where
  apply := Db.apply
  exec op tick db _ := match op with
    | .byUsername username => (db.byUsername same username, [])
    | .byIdentity serialNumber oui => (db.byIdentity same serialNumber oui, [])
    | .bySerialNumber serialNumber => (db.bySerialNumber same serialNumber, [])
    | .identify deviceId oui => ((), [.identified deviceId oui])
    | .device deviceId => (db.devices.find? fun d => d.id = deviceId, [])
    | .register serialNumber oui =>
      let device := ⟨tick, serialNumber, some oui, none, none, none⟩
      (device, [.registered device])
    | .nextTask deviceId => (db.nextTask deviceId, [])
    | .startTask taskId => ((), [.started taskId tick])
    | .activeTask deviceId _ => (db.activeTask deviceId, [])
    | .failTask taskId messageId => ((), [.settled taskId .failed messageId])
    | .finishTask taskId messageId => ((), [.settled taskId .done messageId])
    | .queueTask task =>
      ((), [.queued ⟨tick, task.cpeDeviceId, task.getsParameters, task.diagnostic, task.body,
        .queued, task.priority, tick, none⟩])
    | .otherwise => ((), [])
  locks _ _ := []
  snapshots _ := false

end Engine

end FireIsp.Acs

/-!
## Requests of devices

`handleCwmpRequest` of the auto configuration server with the session service it calls.  Anything
that raises ends the request with an error.
-/

namespace FireIsp.Acs

open Txn Throwing Cwmp

/-- A statement has raised. -/
inductive Failure
  | raised

instance : Raises Failure := ⟨.raised⟩

/-- Nothing is asked outside of the tables. -/
@[reducible] def Answer : Empty → Type := fun _ => Unit

/-- A part of a request. -/
abbrev Body (A : Type) : Type := Client Stmt Stmt.Res Empty Answer Failure A

/-- A statement, which may raise. -/
abbrev statement (op : Stmt) : Body op.Res := Client.statement .pool op

/-- A request to the server. -/
structure Request where
  /-- User name and password of a Basic `Authorization` header, split at the first colon. -/
  credentials : Option (Text × Text)
  xml : Text
  now : Nat

/-- A reply of the server. -/
inductive Reply
  | empty
  | unauthorized
  | task (task : CpeTask)
  | informResponse (messageId : Text)
  | failed
  deriving DecidableEq

/-- The id of the request of a task. -/
def taskMessageId (taskId : Nat) : Text := "TASK-".toList ++ Nat.toDigits 10 taskId

def buildResponseForTask (task : CpeTask) : Text := wrapEnvelope (taskMessageId task.id) task.body

variable (verifies : Text → Text → Bool)

def CpeDevice.accepts (device : CpeDevice) (password : Text) : Bool :=
  device.acsPasswordHash.any fun hash => !hash.isEmpty && verifies password hash

def verifyAcsCredentials (username password : Text) : Body (Option CpeDevice) :=
  if username.isEmpty || password.isEmpty then pure none
  else do
    let found ← statement (.byUsername username)
    pure (found.filter fun device => device.accepts verifies password)

def authenticated : Option (Text × Text) → Body (Option CpeDevice)
  | none => pure none
  | some (username, password) => verifyAcsCredentials verifies username password

def reportedDevice (serialNumber oui : Text) : Body (Option CpeDevice) := do
  let existing ← statement (.byIdentity serialNumber oui)
  match existing with
  | some device => pure (some device)
  | none =>
    let unidentified ← statement (.bySerialNumber serialNumber)
    match unidentified with
    | some inventory => do
        statement (.identify inventory.id oui)
        let fresh ← statement (.device inventory.id)
        statement .otherwise
        pure fresh
    | none => do
        let created ← statement (.register serialNumber oui)
        pure (some created)

/-- The device a report is from. -/
def informingDevice (device : Option CpeDevice) (id : DeviceId) : Body (Option CpeDevice) :=
  match device with
  | some device => pure (some device)
  | none =>
    if id.serialNumber.isEmpty || id.oui.isEmpty then pure none
    else reportedDevice id.serialNumber id.oui

def storeParameters : List (Text × Text) → Body Unit
  | [] => pure ()
  | (name, _) :: parameters =>
    if name.isEmpty then storeParameters parameters
    else do
      statement .otherwise
      storeParameters parameters

/-- `handleInform`, without what is provisioned beside it. -/
def handleInform (parameters : List (Text × Text)) : Body Unit := do
  statement .otherwise
  storeParameters parameters

/-- The next task is started and sent, or something else is. -/
def dispatch (deviceId : Nat) (otherwise_ : Reply) : Body Reply := do
  let nextTask ← statement (.nextTask deviceId)
  match nextTask with
  | none => pure otherwise_
  | some task => do
      statement (.startTask task.id)
      pure (.task task)

def handleReport (device : Option CpeDevice) (messageId : Text) (payload : InformPayload) :
    Body Reply := do
  let informing ← informingDevice device payload.deviceId
  match informing with
  | none => pure .unauthorized
  | some device => do
      statement .otherwise
      handleInform payload.parameters
      dispatch device.id (.informResponse messageId)

/-- A part that is there only in one case. -/
def onlyIf (condition : Bool) (part : Body Unit) : Body Unit := if condition then part else pure ()

def processTaskResponse (task : CpeTask) (messageId : Text) (parameterList : List (Text × Text)) :
    Body Unit := do
  onlyIf task.getsParameters (storeParameters parameterList)
  statement (.finishTask task.id messageId)

/-- What a message means for the task that was started last. -/
def settleTask (task : CpeTask) (messageType : MessageType) (messageId : Text) (xml : Text) :
    Body Unit :=
  match messageType with
  | .fault => statement (.failTask task.id messageId)
  | .getParameterValuesResponse => do
      onlyIf task.diagnostic (statement .otherwise)
      processTaskResponse task messageId (parseGetParameterValuesResponse xml)
  | _ => processTaskResponse task messageId []

def handleResponse (device : CpeDevice) (messageType : MessageType) (messageId : Text)
    (xml : Text) : Body Reply := do
  let activeTask ← statement (.activeTask device.id messageId)
  match activeTask with
  | some task => do
      settleTask task messageType messageId xml
      dispatch device.id .empty
  | none => dispatch device.id .empty

def handleMessage (request : Request) : Body Reply := do
  let device ← authenticated verifies request.credentials
  let messageId := extractMessageId request.now request.xml
  match detectMessageType request.xml with
  | .inform => handleReport device messageId (parseInform request.xml)
  | .diagnosticsComplete => handleReport device messageId (parseInform request.xml)
  | messageType => match device with
    | none => pure .unauthorized
    | some device => handleResponse device messageType messageId request.xml

/-- What is sent. -/
def answered : Except Failure Reply → Reply
  | .ok reply => reply
  | .error _ => .failed

def handleCwmpRequest (request : Request) :
    Prog Stmt Stmt.Res (Outside Stmt Empty) (Outside.Answer Answer) Reply :=
  if (trim request.xml).isEmpty then pure .empty
  else do
    let tried ← (handleMessage verifies request).run
    pure (answered tried)

/-- What runs beside each other: requests of devices, and tasks that are queued. -/
inductive Call
  | cwmp (request : Request)
  | queue (task : NewTask)

def queueTask (task : NewTask) : Body Reply := do
  statement (.queueTask task)
  pure .empty

def Call.run : Call → Prog Stmt Stmt.Res (Outside Stmt Empty) (Outside.Answer Answer) Reply
  | .cwmp request => handleCwmpRequest verifies request
  | .queue task => do
      let tried ← (queueTask task).run
      pure (answered tried)

end FireIsp.Acs
