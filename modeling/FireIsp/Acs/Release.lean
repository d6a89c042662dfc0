import FireIsp.Acs.Session
import Mathlib.Data.List.Nodup

/-!
# Who is sent a task

A report is taken for the device it names even if nothing has authenticated.  In every sequence of
requests in which no such report names a device with a password that has a task waiting, a task of a
device with a password is sent only to the device itself.
-/

namespace FireIsp.Acs

open Txn Throwing Cwmp

variable (verifies same : Text → Text → Bool)

/-- The device the credentials of a request are those of. -/
def Db.verified (db : Db) : Option (Text × Text) → Option CpeDevice
  | none => none
  | some (username, password) =>
    if username.isEmpty || password.isEmpty then none
    else (db.byUsername same username).filter fun device => device.accepts verifies password

def Db.named (db : Db) (id : DeviceId) : Option CpeDevice :=
  if id.serialNumber.isEmpty || id.oui.isEmpty then none
  else db.byIdentity same id.serialNumber id.oui <|> db.bySerialNumber same id.serialNumber

def Request.reports (request : Request) : Bool :=
  detectMessageType request.xml = .inform || detectMessageType request.xml = .diagnosticsComplete

/-- A report without credentials that hold names a device with a password and a waiting task. -/
def Exposes (db : Db) (request : Request) : Bool :=
  request.reports && (db.verified verifies same request.credentials).isNone &&
    (db.named same (parseInform request.xml).deviceId).any fun device =>
      device.acsPasswordHash.isSome && (db.nextTask device.id).isSome

/-- The server between two calls. -/
structure Server where
  tick : Nat
  db : Db

/-- A call, and what raises while it runs. -/
structure Incoming where
  call : Call
  world : Nat → (query : Outside Stmt Empty) → Outside.Answer Answer query

/-- Everything a call leaves behind. -/
def Server.served (s : Server) (incoming : Incoming) : Outcome Reply Db :=
  alone (engine same) incoming.world (incoming.call.run verifies) s.tick s.db none

/-- One call is served. -/
def Server.step (s : Server) (incoming : Incoming) : Server :=
  ⟨(s.served verifies same incoming).tick + 1, (s.served verifies same incoming).db⟩

/-- Devices have ids of their own, given once. -/
structure Registered (tick : Nat) (db : Db) : Prop where
  keyed : (db.devices.map CpeDevice.id).Nodup
  below : ∀ device ∈ db.devices, device.id < tick

/-- A task of a device with a password is sent only to a request with the credentials of the device. -/
def Server.Guarded (s : Server) (incoming : Incoming) : Prop :=
  ∀ task, (s.served verifies same incoming).value = .task task →
    ∀ device ∈ s.db.devices, device.id = task.cpeDeviceId → device.acsPasswordHash.isSome →
      ∃ request, incoming.call = .cwmp request ∧
        ∃ found, s.db.verified verifies same request.credentials = some found ∧
          found.id = device.id

def Server.Admits (s : Server) (incoming : Incoming) : Prop :=
  match incoming.call with
  | .cwmp request => Exposes verifies same s.db request = false
  | .queue _ => True

variable {verifies same} {tick tick' : Nat} {db : Db}
  {world : Nat → (query : Outside Stmt Empty) → Outside.Answer Answer query}

/-- Time goes on, and devices keep having ids of their own. -/
structure Stays (tick : Nat) (db : Db) (tick' : Nat) (db' : Db) : Prop where
  later : tick ≤ tick'
  registered : Registered tick db → Registered tick' db'

theorem Registered.eq (h : Registered tick db) {d d' : CpeDevice} (hd : d ∈ db.devices)
    (hd' : d' ∈ db.devices) (hid : d.id = d'.id) : d = d' :=
  List.inj_on_of_nodup_map h.keyed hd hd' hid

theorem Stays.trans {tick' tick'' : Nat} {db' db'' : Db} (h : Stays tick db tick' db')
    (h' : Stays tick' db' tick'' db'') : Stays tick db tick'' db'' :=
  ⟨Nat.le_trans h.later h'.later, fun hreg => h'.registered (h.registered hreg)⟩

theorem Stays.of_ids {tick' : Nat} {db' : Db} (hlater : tick ≤ tick')
    (hids : db'.devices.map CpeDevice.id = db.devices.map CpeDevice.id) :
    Stays tick db tick' db' := by
  refine ⟨hlater, fun hreg => ⟨hids ▸ hreg.keyed, fun device hdevice => ?_⟩⟩
  have hmem : device.id ∈ db.devices.map CpeDevice.id := hids ▸ List.mem_map_of_mem hdevice
  obtain ⟨other, hother, heq⟩ := List.mem_map.mp hmem
  exact heq ▸ Nat.lt_of_lt_of_le (hreg.below other hother) hlater

theorem Stays.refl (hlater : tick ≤ tick') : Stays tick db tick' db := .of_ids hlater rfl

theorem device_of_nextTask {deviceId : Nat} {task : CpeTask}
    (h : db.nextTask deviceId = some task) : task.cpeDeviceId = deviceId := by
  have hleast : ∀ {tasks : List CpeTask} {t : CpeTask}, leastBy CpeTask.queuedAt tasks = some t →
      t ∈ tasks := by
    intro tasks
    induction tasks with
    | nil => exact fun h => nomatch h
    | cons first tasks ih =>
      intro t h
      rw [leastBy] at h
      cases hrest : leastBy CpeTask.queuedAt tasks with
      | none =>
        rw [hrest] at h
        obtain rfl := Option.some.inj h
        exact List.mem_cons_self
      | some other =>
        rw [hrest] at h
        obtain rfl := Option.some.inj h
        split_ifs
        · exact List.mem_cons_of_mem _ (ih hrest)
        · exact List.mem_cons_self
  have hmem := (List.mem_filter.mp (hleast h)).1
  exact (of_decide_eq_true (List.mem_filter.mp hmem).2).1

theorem mem_of_named {id : DeviceId} {device : CpeDevice} (h : db.named same id = some device) :
    device ∈ db.devices := by
  obtain ⟨-, hfound⟩ := Option.ite_none_left_eq_some.mp h
  cases hidentity : db.byIdentity same id.serialNumber id.oui with
  | some found =>
    rw [hidentity] at hfound
    obtain rfl := Option.some.inj hfound
    exact List.mem_of_find?_eq_some hidentity
  | none =>
    rw [hidentity] at hfound
    have hserial : db.bySerialNumber same id.serialNumber = some device := hfound
    have hunidentified : device ∈ db.unidentified same id.serialNumber := by
      unfold Db.bySerialNumber at hserial
      cases hcontract : (db.unidentified same id.serialNumber).find?
          fun d => d.contractId.isSome with
      | some found =>
        rw [hcontract] at hserial
        obtain rfl := Option.some.inj hserial
        exact List.mem_of_find?_eq_some hcontract
      | none =>
        rw [hcontract] at hserial
        exact List.mem_of_head? hserial
    exact List.mem_of_mem_filter hunidentified

theorem ends_reads {op : Stmt} {post : Except Failure op.Res → Nat → Db → Prop}
    (hreads : ∀ tick, ((engine same).exec op tick db db).2 = [])
    (hraised : post (.error .raised) (tick + 1) db)
    (hsent : post (.ok ((engine same).exec op (tick + 1) db db).1) (tick + 2) db) :
    Ends (engine same) world (statement op).run tick db post := by
  refine Client.ends_statement hraised ?_
  rw [hreads]
  exact hsent

theorem ends_authenticated (credentials : Option (Text × Text)) :
    Ends (engine same) world (authenticated verifies credentials).run tick db
      fun returned tick' db' => db' = db ∧ tick ≤ tick' ∧
        ∀ device, returned = .ok device → device = db.verified verifies same credentials := by
  cases credentials with
  | none => exact ends_pure ⟨rfl, Nat.le_refl _, fun _ h => (Except.ok.inj h).symm⟩
  | some pair =>
    obtain ⟨username, password⟩ := pair
    change Ends _ _ (verifyAcsCredentials verifies username password).run _ _ _
    unfold verifyAcsCredentials Db.verified
    dsimp only
    split_ifs with hempty
    · exact ends_pure ⟨rfl, Nat.le_refl _, fun _ h => (Except.ok.inj h).symm⟩
    · refine Throwing.ends_bind (ends_reads (fun _ => rfl) ?_ ?_)
      · exact ⟨rfl, by omega, fun _ h => nomatch h⟩
      · exact ends_pure ⟨rfl, by omega, fun _ h => (Except.ok.inj h).symm⟩

/-- A device a report is taken for: it has authenticated, or the report names it, or it is new. -/
def Resolved (same : Text → Text → Bool) (db : Db) (tick : Nat) (device : Option CpeDevice)
    (id : DeviceId) (deviceId : Nat) : Prop :=
  (∃ known, device = some known ∧ known.id = deviceId) ∨
    device = none ∧ ((∃ found, db.named same id = some found ∧ found.id = deviceId) ∨
      tick ≤ deviceId)

theorem ends_informingDevice (device : Option CpeDevice) (id : DeviceId) :
    Ends (engine same) world (informingDevice device id).run tick db
      fun returned tick' db' => db'.tasks = db.tasks ∧ Stays tick db tick' db' ∧
        ∀ informing, returned = .ok (some informing) →
          Resolved same db tick device id informing.id := by
  have herror : ∀ {tick' : Nat} {db' : Db}, db'.tasks = db.tasks → Stays tick db tick' db' →
      db'.tasks = db.tasks ∧ Stays tick db tick' db' ∧ ∀ informing : CpeDevice,
        (Except.error Failure.raised : Except Failure (Option CpeDevice)) = .ok (some informing) →
          Resolved same db tick device id informing.id :=
    fun htasks hstays => ⟨htasks, hstays, fun _ h => nomatch h⟩
  cases device with
  | some known =>
    exact ends_pure ⟨rfl, .refl (Nat.le_refl _), fun _ h =>
      .inl ⟨known, rfl, congrArg CpeDevice.id (Option.some.inj (Except.ok.inj h))⟩⟩
  | none =>
    unfold informingDevice
    dsimp only
    split_ifs with hempty
    · exact ends_pure ⟨rfl, .refl (Nat.le_refl _), fun _ h => nomatch h⟩
    · have hnamed : db.named same id = (db.byIdentity same id.serialNumber id.oui <|>
          db.bySerialNumber same id.serialNumber) := if_neg hempty
      refine Throwing.ends_bind (ends_reads (fun _ => rfl)
        (herror rfl (.refl (by omega))) ?_)
      have hfirst : ((engine same).exec (.byIdentity id.serialNumber id.oui) (tick + 1) db db).1 =
          db.byIdentity same id.serialNumber id.oui := rfl
      rw [hfirst]
      cases hidentity : db.byIdentity same id.serialNumber id.oui with
      | some found =>
        rw [hidentity] at hnamed
        refine ends_pure ⟨rfl, .refl (by omega), fun informing h => ?_⟩
        obtain rfl := Option.some.inj (Except.ok.inj h)
        exact .inr ⟨rfl, .inl ⟨found, hnamed, rfl⟩⟩
      | none =>
        rw [hidentity] at hnamed
        refine Throwing.ends_bind (ends_reads (fun _ => rfl)
          (herror rfl (.refl (by omega))) ?_)
        have hsecond : ((engine same).exec (.bySerialNumber id.serialNumber) (tick + 2 + 1) db
            db).1 = db.bySerialNumber same id.serialNumber := rfl
        rw [hsecond]
        cases hserial : db.bySerialNumber same id.serialNumber with
        | some inventory =>
          rw [hserial] at hnamed
          have hids : ((engine same).visible db [.identified inventory.id id.oui]).devices.map
              CpeDevice.id = db.devices.map CpeDevice.id := by
            change (db.devices.map _).map _ = _
            rw [List.map_map]
            refine List.map_congr_left fun d _ => ?_
            change (if d.id = inventory.id then _ else _ : CpeDevice).id = d.id
            split_ifs <;> rfl
          refine Throwing.ends_bind (Client.ends_statement
            (herror rfl (.refl (by omega))) ?_)
          refine Throwing.ends_bind (ends_reads (fun _ => rfl)
            (herror rfl (.of_ids (by omega) hids)) ?_)
          refine Throwing.ends_bind (ends_reads (fun _ => rfl)
            (herror rfl (.of_ids (by omega) hids)) ?_)
          refine ends_pure ⟨rfl, .of_ids (by omega) hids, fun informing h => ?_⟩
          have hfound := List.find?_some (Except.ok.inj h)
          exact .inr ⟨rfl, .inl ⟨inventory, hnamed, (of_decide_eq_true hfound).symm⟩⟩
        | none =>
          refine Throwing.ends_bind (Client.ends_statement
            (herror rfl (.refl (by omega))) ?_)
          refine ends_pure ⟨rfl, ⟨by omega, fun hreg => ⟨?_, fun other hother => ?_⟩⟩,
            fun informing h => ?_⟩
          · change ((db.devices ++ [_]).map CpeDevice.id).Nodup
            rw [List.map_append, List.map_singleton, List.nodup_append]
            refine ⟨hreg.keyed, List.nodup_singleton _, fun a ha b hb => ?_⟩
            obtain ⟨other, hother, rfl⟩ := List.mem_map.mp ha
            obtain rfl := List.mem_singleton.mp hb
            have hlt := hreg.below other hother
            change other.id ≠ tick + 2 + 2 + 1
            omega
          · rcases List.mem_append.mp hother with hold | hnew
            · have hlt := hreg.below other hold
              omega
            · obtain rfl := List.mem_singleton.mp hnew
              change tick + 2 + 2 + 1 < _
              omega
          · obtain rfl := Option.some.inj (Except.ok.inj h)
            refine .inr ⟨rfl, .inr ?_⟩
            change tick ≤ tick + 2 + 2 + 1
            omega

theorem ends_storeParameters (parameters : List (Text × Text)) :
    Ends (engine same) world (storeParameters parameters).run tick db
      fun _ tick' db' => db' = db ∧ tick ≤ tick' := by
  induction parameters generalizing tick with
  | nil => exact ends_pure ⟨rfl, Nat.le_refl _⟩
  | cons parameter parameters ih =>
    obtain ⟨name, value⟩ := parameter
    rw [storeParameters]
    split_ifs
    · exact ih
    · refine Throwing.ends_bind (ends_reads (fun _ => rfl) ⟨rfl, by omega⟩ ?_)
      exact ih.mono fun _ tick' db' ⟨hdb, hlater⟩ => ⟨hdb, by omega⟩

theorem ends_dispatch (deviceId : Nat) {reply : Reply} (hreply : ∀ task, reply ≠ .task task) :
    Ends (engine same) world (dispatch deviceId reply).run tick db
      fun returned tick' db' => Stays tick db tick' db' ∧
        ∀ task, returned = .ok (.task task) → db.nextTask deviceId = some task := by
  refine Throwing.ends_bind (ends_reads (fun _ => rfl) ⟨.refl (by omega), fun _ h => nomatch h⟩ ?_)
  have hfound : ((engine same).exec (.nextTask deviceId) (tick + 1) db db).1 =
      db.nextTask deviceId := rfl
  rw [hfound]
  cases hnext : db.nextTask deviceId with
  | none =>
    exact ends_pure ⟨.refl (by omega), fun task h => absurd (Except.ok.inj h) (hreply task)⟩
  | some task =>
    refine Throwing.ends_bind (Client.ends_statement
      ⟨.refl (by omega), fun _ h => nomatch h⟩ ?_)
    refine ends_pure ⟨.of_ids (by omega) (congrArg _ (devices_started db task.id _)),
      fun other h => ?_⟩
    exact congrArg some (Reply.task.inj (Except.ok.inj h))

theorem ends_handleReport (device : Option CpeDevice) (messageId : Text)
    (payload : InformPayload) :
    Ends (engine same) world (handleReport device messageId payload).run tick db
      fun returned tick' db' => Stays tick db tick' db' ∧ ∀ task, returned = .ok (.task task) →
        ∃ deviceId, Resolved same db tick device payload.deviceId deviceId ∧
          db.nextTask deviceId = some task := by
  refine Throwing.ends_bind ((ends_informingDevice device payload.deviceId).mono
    fun returned tick' db' ⟨htasks, hstays, hresolved⟩ => ?_)
  cases returned with
  | error error => exact ⟨hstays, fun _ h => nomatch h⟩
  | ok informing =>
    cases informing with
    | none => exact ends_pure ⟨hstays, fun _ h => nomatch h⟩
    | some informing =>
      have hlater : ∀ {tick'' : Nat}, tick' ≤ tick'' → Stays tick db tick'' db' :=
        fun hle => hstays.trans (.refl hle)
      refine Throwing.ends_bind (ends_reads (fun _ => rfl)
        ⟨hlater (by omega), fun _ h => nomatch h⟩ ?_)
      refine Throwing.ends_bind (Throwing.ends_bind (ends_reads (fun _ => rfl)
        ⟨hlater (by omega), fun _ h => nomatch h⟩ ?_))
      refine (ends_storeParameters payload.parameters).mono fun stored tick'' db'' hstored => ?_
      obtain ⟨rfl, hle⟩ := hstored
      cases stored with
      | error error => exact ⟨hlater (by omega), fun _ h => nomatch h⟩
      | ok _ =>
        have hreply : ∀ task, Reply.informResponse messageId ≠ .task task :=
          fun _ h => nomatch h
        refine (ends_dispatch informing.id hreply).mono
          fun returned tick₃ db₃ ⟨hstays', htask⟩ => ?_
        refine ⟨(hlater (by omega)).trans hstays', fun task h => ?_⟩
        refine ⟨informing.id, hresolved informing rfl, ?_⟩
        have hnext := htask task h
        unfold Db.nextTask at hnext ⊢
        rwa [htasks] at hnext

theorem ends_settleTask (task : CpeTask) (messageType : MessageType) (messageId xml : Text) :
    Ends (engine same) world (settleTask task messageType messageId xml).run tick db
      fun _ tick' db' => Stays tick db tick' db' := by
  have hfinish : ∀ {tick : Nat} {db : Db} (parameterList : List (Text × Text)),
      Ends (engine same) world (processTaskResponse task messageId parameterList).run tick db
        fun _ tick' db' => Stays tick db tick' db' := by
    intro tick db parameterList
    have hstored : Ends (engine same) world
        (onlyIf task.getsParameters (storeParameters parameterList)).run tick db
        fun _ tick' db' => db' = db ∧ tick ≤ tick' := by
      unfold onlyIf
      split_ifs
      · exact ends_storeParameters parameterList
      · exact ends_pure ⟨rfl, Nat.le_refl _⟩
    refine Throwing.ends_bind (hstored.mono fun stored tick' db' hdb => ?_)
    obtain ⟨rfl, hle⟩ := hdb
    cases stored with
    | error error => exact .refl hle
    | ok _ =>
      exact Client.ends_statement (.refl (by omega))
        (.of_ids (by omega) (congrArg _ (devices_settled db' task.id _ _)))
  cases messageType with
  | fault =>
    exact Client.ends_statement (.refl (by omega))
      (.of_ids (by omega) (congrArg _ (devices_settled db task.id _ _)))
  | getParameterValuesResponse =>
    have hstored : Ends (engine same) world (onlyIf task.diagnostic (statement .otherwise)).run
        tick db fun _ tick' db' => db' = db ∧ tick ≤ tick' := by
      unfold onlyIf
      split_ifs
      · exact ends_reads (fun _ => rfl) ⟨rfl, by omega⟩ ⟨rfl, by omega⟩
      · exact ends_pure ⟨rfl, Nat.le_refl _⟩
    refine Throwing.ends_bind (hstored.mono fun stored tick' db' hdb => ?_)
    obtain ⟨rfl, hle⟩ := hdb
    cases stored with
    | error error => exact .refl hle
    | ok _ =>
      exact (hfinish _).mono fun _ tick'' db'' hstays => (Stays.refl hle).trans hstays
  | _ => exact hfinish []

theorem ends_handleResponse (device : CpeDevice) (messageType : MessageType)
    (messageId xml : Text) :
    Ends (engine same) world (handleResponse device messageType messageId xml).run tick db
      fun returned tick' db' => Stays tick db tick' db' ∧
        ∀ task, returned = .ok (.task task) → task.cpeDeviceId = device.id := by
  have hreply : ∀ task, Reply.empty ≠ .task task := fun _ h => nomatch h
  have hdispatch : ∀ {tick' : Nat} {db' : Db}, Stays tick db tick' db' →
      Ends (engine same) world (dispatch device.id .empty).run tick' db'
        fun returned tick' db' => Stays tick db tick' db' ∧
          ∀ task, returned = .ok (.task task) → task.cpeDeviceId = device.id :=
    fun hstays => (ends_dispatch device.id hreply).mono fun _ _ _ ⟨hstays', htask⟩ =>
      ⟨hstays.trans hstays', fun task h => device_of_nextTask (htask task h)⟩
  refine Throwing.ends_bind (ends_reads (fun _ => rfl) ⟨.refl (by omega), fun _ h => nomatch h⟩ ?_)
  have hfound : ((engine same).exec (.activeTask device.id messageId) (tick + 1) db db).1 =
      db.activeTask device.id := rfl
  rw [hfound]
  cases db.activeTask device.id with
  | none => exact hdispatch (.refl (by omega))
  | some task =>
    refine Throwing.ends_bind ((ends_settleTask task messageType messageId xml).mono
      fun settled tick' db' hstays => ?_)
    have hboth : Stays tick db tick' db' := (Stays.refl (by omega)).trans hstays
    cases settled with
    | error error => exact ⟨hboth, fun _ h => nomatch h⟩
    | ok _ => exact hdispatch hboth

theorem ends_handleMessage (request : Request) :
    Ends (engine same) world (handleMessage verifies request).run tick db
      fun returned tick' db' => Stays tick db tick' db' ∧ ∀ task, returned = .ok (.task task) →
        (∃ found, db.verified verifies same request.credentials = some found ∧
          found.id = task.cpeDeviceId) ∨
        request.reports = true ∧ (db.nextTask task.cpeDeviceId).isSome ∧
          Resolved same db tick (db.verified verifies same request.credentials)
            (parseInform request.xml).deviceId task.cpeDeviceId := by
  refine Throwing.ends_bind ((ends_authenticated request.credentials).mono
    fun returned tick' db' hdevice => ?_)
  obtain ⟨rfl, hle, hverified⟩ := hdevice
  cases returned with
  | error error => exact ⟨.refl hle, fun _ h => nomatch h⟩
  | ok device =>
    have hknown := hverified device rfl
    have hreport : request.reports = true → Ends (engine same) world
        (handleReport device (extractMessageId request.now request.xml)
          (parseInform request.xml)).run tick' db'
        fun returned tick'' db'' => Stays tick db' tick'' db'' ∧
          ∀ task, returned = .ok (.task task) →
            (∃ found, db'.verified verifies same request.credentials = some found ∧
              found.id = task.cpeDeviceId) ∨
            request.reports = true ∧ (db'.nextTask task.cpeDeviceId).isSome ∧
              Resolved same db' tick (db'.verified verifies same request.credentials)
                (parseInform request.xml).deviceId task.cpeDeviceId := by
      intro hreports
      refine (ends_handleReport device _ (parseInform request.xml)).mono
        fun returned tick'' db'' ⟨hstays, htask⟩ => ⟨(Stays.refl hle).trans hstays, ?_⟩
      intro task h
      obtain ⟨deviceId, hresolved, hnext⟩ := htask task h
      have hid := device_of_nextTask hnext
      refine .inr ⟨hreports, by rw [hid, hnext]; rfl, ?_⟩
      rw [hid, ← hknown]
      rcases hresolved with hsome | ⟨hnone, hnamed | hnew⟩
      · exact .inl hsome
      · exact .inr ⟨hnone, .inl hnamed⟩
      · exact .inr ⟨hnone, .inr (Nat.le_trans hle hnew)⟩
    dsimp only
    split
    · rename_i hinform
      exact hreport (by unfold Request.reports; rw [hinform]; rfl)
    · rename_i hcomplete
      exact hreport (by unfold Request.reports; rw [hcomplete]; rfl)
    · cases device with
      | none => exact ends_pure ⟨.refl hle, fun _ h => nomatch h⟩
      | some device =>
        refine (ends_handleResponse device _ _ _).mono
          fun returned tick'' db'' ⟨hstays, htask⟩ => ⟨(Stays.refl hle).trans hstays, ?_⟩
        exact fun task h => .inl ⟨device, hknown.symm, (htask task h).symm⟩

theorem ends_call (call : Call) :
    Ends (engine same) world (call.run verifies) tick db
      fun returned tick' db' => Stays tick db tick' db' ∧ ∀ task, returned = .task task →
        ∃ request, call = .cwmp request ∧
          ((∃ found, db.verified verifies same request.credentials = some found ∧
            found.id = task.cpeDeviceId) ∨
          request.reports = true ∧ (db.nextTask task.cpeDeviceId).isSome ∧
            Resolved same db tick (db.verified verifies same request.credentials)
              (parseInform request.xml).deviceId task.cpeDeviceId) := by
  cases call with
  | cwmp request =>
    change Ends _ _ (handleCwmpRequest verifies request) _ _ _
    unfold handleCwmpRequest
    split_ifs
    · exact ends_pure ⟨.refl (Nat.le_refl _), fun _ h => nomatch h⟩
    · refine Txn.ends_bind ((ends_handleMessage request).mono
        fun returned tick' db' ⟨hstays, htask⟩ => ends_pure ⟨hstays, fun task h => ?_⟩)
      cases returned with
      | error error => cases h
      | ok reply => exact ⟨request, rfl, htask task (congrArg Except.ok h)⟩
  | queue task =>
    have hqueue : Ends (engine same) world (queueTask task).run tick db
        fun returned tick' db' => Stays tick db tick' db' ∧
          ∀ sent, returned ≠ .ok (.task sent) := by
      refine Throwing.ends_bind (Client.ends_statement ⟨.refl (by omega), fun _ h => nomatch h⟩
        (ends_pure ⟨?_, fun _ h => nomatch h⟩))
      have hids : ((engine same).visible db [.queued ⟨tick + 1, task.cpeDeviceId,
          task.getsParameters, task.diagnostic, task.body, .queued, task.priority, tick + 1,
          none⟩]).devices.map CpeDevice.id = db.devices.map CpeDevice.id := rfl
      exact .of_ids (by omega) hids
    refine Txn.ends_bind (hqueue.mono fun returned tick' db' ⟨hstays, hnot⟩ =>
      ends_pure ⟨hstays, fun sent h => ?_⟩)
    cases returned with
    | error error => cases h
    | ok reply => exact absurd (congrArg Except.ok h) (hnot sent)

theorem Server.served_guarded {s : Server} (h : Registered s.tick s.db) {incoming : Incoming}
    (hadmits : s.Admits verifies same incoming) :
    s.Guarded verifies same incoming ∧
      Registered (s.step verifies same incoming).tick (s.step verifies same incoming).db := by
  have hends : Ends (engine same) incoming.world (incoming.call.run verifies) s.tick s.db _ :=
    ends_call incoming.call
  obtain ⟨-, hstays, htask⟩ := hends
  refine ⟨fun task hsent device hdevice hid hpassword => ?_,
    (hstays.trans (.refl (Nat.le_succ _))).registered h⟩
  obtain ⟨request, hcall, hrelease⟩ := htask task hsent
  refine ⟨request, hcall, ?_⟩
  rcases hrelease with ⟨found, hfound, heq⟩ | ⟨hreports, hwaits, hresolved⟩
  · exact ⟨found, hfound, heq.trans hid.symm⟩
  rcases hresolved with ⟨known, hknown, heq⟩ | ⟨hnone, ⟨named, hnamed, heq⟩ | hnew⟩
  · exact ⟨known, hknown, heq.trans hid.symm⟩
  · obtain rfl := h.eq (mem_of_named hnamed) hdevice (heq.trans hid.symm)
    have hexposes : Exposes verifies same s.db request = true := by
      unfold Exposes
      rw [hreports, hnone, hnamed]
      change (named.acsPasswordHash.isSome && (s.db.nextTask named.id).isSome) = true
      rw [hpassword, hid, hwaits]
      rfl
    have hadmits' : Exposes verifies same s.db request = false := by
      unfold Server.Admits at hadmits
      rw [hcall] at hadmits
      exact hadmits
    rw [hexposes] at hadmits'
    cases hadmits'
  · have hlt := h.below device hdevice
    omega

/-- In every sequence of calls that exposes no device, guarded tasks go to their device only. -/
theorem tasks_released_to_device {s : Server} (h : Registered s.tick s.db)
    {calls : List Incoming}
    (hrun : Transition.Along (Server.step verifies same) (Server.Admits verifies same) s calls) :
    Transition.Along (Server.step verifies same) (Server.Guarded verifies same) s calls := by
  induction calls generalizing s with
  | nil => trivial
  | cons incoming calls ih =>
    obtain ⟨hguarded, hregistered⟩ := Server.served_guarded h hrun.1
    exact ⟨hguarded, ih hregistered hrun.2⟩

/-- A device with a password and a task that waits. -/
def protectedServer : Server :=
  ⟨2, ⟨[⟨1, ['S'], some ['O'], some ['u'], some ['p'], none⟩],
    [⟨1, 1, false, false, [], .queued, 5, 0, none⟩], []⟩⟩

/-- A report that names the device, with credentials or without. -/
def reportOf (credentials : Option (Text × Text)) : Incoming where
  call := .cwmp ⟨credentials,
    "<Inform><ID>1</ID><SerialNumber>S</SerialNumber><OUI>O</OUI></Inform>".toList, 0⟩
  world := fun _ query => match query with
    | .raises _ => false
    | .fails _ => false
    | .about query => query.elim

theorem protectedServer_registered : Registered protectedServer.tick protectedServer.db :=
  ⟨by decide, by decide⟩

/-- The task is sent to the device that has authenticated, and to no other report after it. -/
theorem tasks_released_to_device_sample :
    let step := Server.step (fun a b : Text => a == b) fun a b : Text => a == b
    let calls := [reportOf (some (['u'], ['p'])), reportOf none]
    (protectedServer.served (fun a b : Text => a == b) (fun a b : Text => a == b)
        (reportOf (some (['u'], ['p'])))).value =
      .task ⟨1, 1, false, false, [], .queued, 5, 0, none⟩ ∧
      Transition.Along step (Server.Guarded (fun a b => a == b) fun a b => a == b)
        protectedServer calls := by
  refine ⟨by decide +kernel, tasks_released_to_device protectedServer_registered
    ⟨?_, ?_, trivial⟩⟩
  all_goals
    change Exposes _ _ _ _ = false
    decide +kernel

/-- A report without credentials is sent the task of the device it names. -/
theorem tasks_released_to_device_fails :
    ¬∀ (verifies same : Text → Text → Bool) (s : Server) (calls : List Incoming),
      Registered s.tick s.db → Transition.Along (Server.step verifies same)
        (Server.Guarded verifies same) s calls := by
  intro h
  have hguarded := (h (fun a b => a == b) (fun a b => a == b) protectedServer [reportOf none]
    protectedServer_registered).1
  have hsent : (protectedServer.served (fun a b : Text => a == b) (fun a b : Text => a == b)
      (reportOf none)).value = .task ⟨1, 1, false, false, [], .queued, 5, 0, none⟩ := by
    decide +kernel
  obtain ⟨request, hcall, found, hfound, -⟩ := hguarded _ hsent
    ⟨1, ['S'], some ['O'], some ['u'], some ['p'], none⟩ (by decide) rfl rfl
  obtain rfl := Call.cwmp.inj hcall
  cases hfound

end FireIsp.Acs
