import FireIsp.Acs.Session
import FireIsp.Base.Guard
import Mathlib.Data.List.Nodup

/-!
# Tasks and their own responses

A request that is not a report settles the task of its device that was started last, and a task is
started without asking whether it still waits.  In every interleaving in which each task that is
started still waits, and each message carries the id of the task that was started last, a task is
sent once and settled by its own response.
-/

namespace FireIsp.Acs

open Txn Throwing Cwmp

variable {verifies same : Text → Text → Bool}

/-- What a request may settle: the task it has read, for the message with an id. -/
abbrev Know := Option (Nat × Text)

/-- A task is settled only after it was read for the same message. -/
def Know.sent (know : Know) : (op : Stmt) → Option (op.Res → Know)
  | .activeTask _ messageId => some fun reply => reply.map fun t => (t.id, messageId)
  | .failTask taskId messageId => if know = some (taskId, messageId) then some fun _ => know else none
  | .finishTask taskId messageId =>
    if know = some (taskId, messageId) then some fun _ => know else none
  | _ => some fun _ => know

/-- How requests settle tasks. -/
def settling : Discipline Know Stmt Stmt.Res (Outside Stmt Empty) (Outside.Answer Answer) where
  started _ := none
  committed _ := none
  rolledBack _ := none
  sent know via op := match via with
    | .pool => know.sent op
    | .conn => none
  asked know _ := some fun _ => know

/-- A statement that neither reads nor settles the task that was started last. -/
def Bare : Via → Stmt → Prop
  | .conn, _ => False
  | .pool, .activeTask .. => False
  | .pool, .failTask .. => False
  | .pool, .finishTask .. => False
  | .pool, _ => True

theorem bare_statement {op : Stmt} (h : Bare .pool op) : (statement op).run.Within Bare :=
  Client.within_statement h

theorem Keeps.of_bare {A : Type} {p : Body A} (h : p.run.Within Bare) (know : Know) :
    Client.Keeps settling know p (fun _ know' => know' = know) fun _ => True := by
  have hsent : ∀ via op, Bare via op → settling.sent know via op = some fun _ => know := by
    intro via op hbare
    cases via with
    | conn => exact hbare.elim
    | pool => cases op <;> first | rfl | exact hbare.elim
  refine (Prog.Follows.of_within hsent (fun _ => rfl) h).mono fun returned know' hknow => ?_
  cases returned with
  | ok value => exact hknow
  | error error => trivial

theorem bare_authenticated (credentials : Option (Text × Text)) :
    (authenticated verifies credentials).run.Within Bare := by
  cases credentials with
  | none => trivial
  | some pair =>
    obtain ⟨username, password⟩ := pair
    change (verifyAcsCredentials verifies username password).run.Within Bare
    unfold verifyAcsCredentials
    split_ifs
    · trivial
    · exact within_bind (bare_statement trivial) fun _ => trivial

theorem bare_informingDevice (device : Option CpeDevice) (id : DeviceId) :
    (informingDevice device id).run.Within Bare := by
  unfold informingDevice
  cases device with
  | some device => trivial
  | none =>
    dsimp only
    split_ifs
    · trivial
    · refine within_bind (bare_statement trivial) fun existing => ?_
      cases existing with
      | some device => trivial
      | none =>
        refine within_bind (bare_statement trivial) fun unidentified => ?_
        cases unidentified with
        | some inventory =>
          exact within_bind (bare_statement trivial) fun _ =>
            within_bind (bare_statement trivial) fun _ =>
              within_bind (bare_statement trivial) fun _ => trivial
        | none => exact within_bind (bare_statement trivial) fun _ => trivial

theorem bare_storeParameters (parameters : List (Text × Text)) :
    (storeParameters parameters).run.Within Bare := by
  induction parameters with
  | nil => trivial
  | cons parameter parameters ih =>
    obtain ⟨name, value⟩ := parameter
    rw [storeParameters]
    split_ifs
    · exact ih
    · exact within_bind (bare_statement trivial) fun _ => ih

theorem bare_onlyIf {part : Body Unit} (condition : Bool) (h : part.run.Within Bare) :
    (onlyIf condition part).run.Within Bare := by
  cases condition with
  | false => trivial
  | true => exact h

theorem bare_dispatch (deviceId : Nat) (reply : Reply) :
    (dispatch deviceId reply).run.Within Bare := by
  refine within_bind (bare_statement trivial) fun nextTask => ?_
  cases nextTask with
  | none => trivial
  | some task => exact within_bind (bare_statement trivial) fun _ => trivial

theorem bare_handleReport (device : Option CpeDevice) (messageId : Text)
    (payload : InformPayload) : (handleReport device messageId payload).run.Within Bare := by
  refine within_bind (bare_informingDevice device payload.deviceId) fun informing => ?_
  cases informing with
  | none => trivial
  | some device =>
    exact within_bind (bare_statement trivial) fun _ =>
      within_bind (within_bind (bare_statement trivial) fun _ =>
        bare_storeParameters payload.parameters) fun _ => bare_dispatch _ _

theorem keeps_settleTask (task : CpeTask) (messageType : MessageType) (messageId xml : Text) :
    Client.Keeps settling (some (task.id, messageId)) (settleTask task messageType messageId xml)
      (fun _ _ => True) fun _ => True := by
  have hsilent : Client.Silent settling := ⟨fun _ _ => rfl, fun _ _ => rfl⟩
  have hstatement : ∀ {op : Stmt}, (op = .failTask task.id messageId ∨
      op = .finishTask task.id messageId) → Client.Keeps settling (some (task.id, messageId))
        (statement op) (fun _ _ => True) fun _ => True := by
    intro op hop
    have hsent : ∃ learn, settling.sent (some (task.id, messageId)) .pool op = some learn := by
      rcases hop with rfl | rfl <;> exact ⟨_, if_pos rfl⟩
    obtain ⟨learn, hlearn⟩ := hsent
    have hkeeps : Client.Keeps settling (some (task.id, messageId)) (statement op)
        (fun reply know' => know' = learn reply) fun _ => True :=
      Client.keeps_statement hsilent hlearn trivial
    exact hkeeps.mono (fun _ _ _ => trivial) fun _ _ => trivial
  have hprocess : ∀ parameterList, Client.Keeps settling (some (task.id, messageId))
      (processTaskResponse task messageId parameterList) (fun _ _ => True) fun _ => True := by
    intro parameterList
    have hbare := bare_onlyIf task.getsParameters (bare_storeParameters parameterList)
    refine (Keeps.of_bare hbare _).bind fun _ know hknow => ?_
    subst hknow
    exact hstatement (.inr rfl)
  cases messageType with
  | fault => exact hstatement (.inl rfl)
  | getParameterValuesResponse =>
    have hstored : (statement .otherwise).run.Within Bare := bare_statement trivial
    have hbare := bare_onlyIf task.diagnostic hstored
    refine (Keeps.of_bare hbare _).bind fun _ know hknow => ?_
    subst hknow
    exact hprocess _
  | _ => exact hprocess []

theorem keeps_handleResponse (device : CpeDevice) (messageType : MessageType)
    (messageId xml : Text) (know : Know) :
    Client.Keeps settling know (handleResponse device messageType messageId xml)
      (fun _ _ => True) fun _ => True := by
  have hsilent : Client.Silent settling := ⟨fun _ _ => rfl, fun _ _ => rfl⟩
  have hdispatch : ∀ know, Client.Keeps settling know (dispatch device.id .empty)
      (fun _ _ => True) fun _ => True := fun know =>
    (Keeps.of_bare (bare_dispatch device.id .empty) know).mono (fun _ _ _ => trivial)
      fun _ _ => trivial
  have hactive : Client.Keeps settling know (statement (.activeTask device.id messageId))
      (fun reply know' => know' = reply.map fun t => (t.id, messageId)) fun _ => True :=
    Client.keeps_statement hsilent rfl trivial
  refine hactive.bind fun activeTask know hknow => ?_
  subst hknow
  cases activeTask with
  | none => exact hdispatch _
  | some task =>
    exact (keeps_settleTask task messageType messageId xml).bind fun _ know _ => hdispatch know

theorem keeps_handleMessage (request : Request) :
    Client.Keeps settling none (handleMessage verifies request) (fun _ _ => True)
      fun _ => True := by
  have hreport : ∀ device payload, Client.Keeps settling none
      (handleReport device (extractMessageId request.now request.xml) payload)
      (fun _ _ => True) fun _ => True := fun device payload =>
    (Keeps.of_bare (bare_handleReport device _ payload) none).mono (fun _ _ _ => trivial)
      fun _ _ => trivial
  refine (Keeps.of_bare (bare_authenticated request.credentials) none).bind
    fun device know hknow => ?_
  subst hknow
  dsimp only
  split
  · exact hreport device _
  · exact hreport device _
  · cases device with
    | none => exact Client.keeps_pure trivial
    | some device => exact keeps_handleResponse device _ _ _ none

theorem follows_call (call : Call) : (call.run verifies).Follows settling none fun _ _ => True := by
  cases call with
  | cwmp request =>
    change (handleCwmpRequest verifies request).Follows settling none fun _ _ => True
    unfold handleCwmpRequest
    split_ifs
    · trivial
    · exact Prog.Follows.bind (keeps_handleMessage request) fun _ _ _ => trivial
  | queue task =>
    have hbare : (queueTask task).run.Within Bare :=
      within_bind (bare_statement trivial) fun _ => trivial
    exact Prog.Follows.bind (Keeps.of_bare hbare none) fun _ _ _ => trivial

/-- The tables with all calls on them. -/
abbrev System :=
  Sys Db Write Nat Stmt Stmt.Res (Outside Stmt Empty) (Outside.Answer Answer) Reply

/-- A task that is started still waits, and a message is for the task that was started last. -/
def May (db : Db) : Act Stmt (Outside Stmt Empty) (Outside.Answer Answer) → Prop
  | .sends (.startTask taskId) => (db.task taskId).all fun t => t.status = .queued
  | .sends (.activeTask deviceId messageId) =>
    (db.activeTask deviceId).all fun t => messageId = taskMessageId t.id
  | _ => True

instance (db : Db) : DecidablePred (May db)
  | .sends (.startTask taskId) =>
    inferInstanceAs (Decidable ((db.task taskId).all fun t => t.status = .queued))
  | .sends (.activeTask deviceId messageId) =>
    inferInstanceAs (Decidable
      ((db.activeTask deviceId).all fun t => messageId = taskMessageId t.id))
  | .quiet => isTrue trivial
  | .cut => isTrue trivial
  | .hears _ _ => isTrue trivial
  | .sends (.byUsername _) => isTrue trivial
  | .sends (.byIdentity ..) => isTrue trivial
  | .sends (.bySerialNumber _) => isTrue trivial
  | .sends (.identify ..) => isTrue trivial
  | .sends (.device _) => isTrue trivial
  | .sends (.register ..) => isTrue trivial
  | .sends (.nextTask _) => isTrue trivial
  | .sends (.failTask ..) => isTrue trivial
  | .sends (.finishTask ..) => isTrue trivial
  | .sends (.queueTask _) => isTrue trivial
  | .sends .otherwise => isTrue trivial

/-- A recorded task was sent unless it still waits, and was settled by its own response. -/
structure Accounted (tick : Nat) (db : Db) : Prop where
  keyed : (db.tasks.map CpeTask.id).Nodup
  below : ∀ t ∈ db.tasks, t.id < tick
  sent : ∀ t ∈ db.tasks, db.events.count (.dispatched t.id) = if t.status = .queued then 0 else 1
  known : ∀ taskId, .dispatched taskId ∈ db.events → ∃ t ∈ db.tasks, t.id = taskId
  settled : ∀ taskId messageId, .settled taskId messageId .inProgress ∈ db.events →
    messageId = taskMessageId taskId

/-- A task that does not wait any more. -/
def Db.Begun (db : Db) (taskId : Nat) : Prop :=
  ∀ t ∈ db.tasks, t.id = taskId → t.status ≠ .queued

variable {tick : Nat} {db : Db}

variable {taskId : Nat} {t : CpeTask}

theorem mem_of_task (h : db.task taskId = some t) :
    t ∈ db.tasks ∧ t.id = taskId := by
  have hid := List.find?_some h
  exact ⟨List.mem_of_find?_eq_some h, of_decide_eq_true hid⟩

theorem mem_of_activeTask {deviceId : Nat} (h : db.activeTask deviceId = some t) :
    t ∈ db.tasks ∧ t.status = .inProgress := by
  have hmem := List.mem_filter.mp (List.mem_of_find?_eq_some h)
  exact ⟨hmem.1, (of_decide_eq_true hmem.2).2⟩

theorem Accounted.eq (h : Accounted tick db) {t' : CpeTask} (ht : t ∈ db.tasks)
    (ht' : t' ∈ db.tasks) (hid : t.id = t'.id) : t = t' :=
  List.inj_on_of_nodup_map h.keyed ht ht' hid

variable {change : CpeTask → CpeTask}

theorem ids_updateTask (hid : ∀ t, (change t).id = t.id) :
    (db.updateTask taskId change).map CpeTask.id = db.tasks.map CpeTask.id := by
  unfold Db.updateTask
  rw [List.map_map]
  refine List.map_congr_left fun t _ => ?_
  change (if t.id = taskId then change t else t).id = t.id
  split_ifs
  · exact hid t
  · rfl

theorem mem_updateTask (h : t ∈ db.updateTask taskId change) :
    t ∈ db.tasks ∧ t.id ≠ taskId ∨ ∃ old ∈ db.tasks, old.id = taskId ∧ t = change old := by
  obtain ⟨old, hold, rfl⟩ := List.mem_map.mp h
  split_ifs with hid
  · exact .inr ⟨old, hold, hid, rfl⟩
  · exact .inl ⟨hold, hid⟩

theorem Accounted.later (h : Accounted tick db) : Accounted (tick + 1) db :=
  { h with below := fun t ht => Nat.lt_succ_of_lt (h.below t ht) }

theorem Accounted.update (h : Accounted tick db) {event : Event} {devices : List CpeDevice}
    (hid : ∀ t, (change t).id = t.id) (hsent : ∀ t ∈ db.tasks, t.id = taskId →
      (db.events ++ [event]).count (.dispatched taskId) =
        if (change t).status = .queued then 0 else 1)
    (hother : ∀ other, other ≠ taskId → event ≠ .dispatched other)
    (hthere : ∃ t ∈ db.tasks, t.id = taskId)
    (hsettled : ∀ other messageId, event = .settled other messageId .inProgress →
      messageId = taskMessageId other) :
    Accounted tick ⟨devices, db.updateTask taskId change, db.events ++ [event]⟩ := by
  have hids : (db.updateTask taskId change).map CpeTask.id = db.tasks.map CpeTask.id :=
    ids_updateTask hid
  have hmem : ∀ t ∈ db.tasks, ∃ t' ∈ db.updateTask taskId change, t'.id = t.id := by
    intro t ht
    have hin : t.id ∈ (db.updateTask taskId change).map CpeTask.id :=
      hids ▸ List.mem_map_of_mem ht
    exact List.mem_map.mp hin
  refine ⟨hids ▸ h.keyed, fun t ht => ?_, fun t ht => ?_, fun other hevent => ?_,
    fun other messageId hevent => ?_⟩
  · rcases mem_updateTask ht with ⟨hold, -⟩ | ⟨old, hold, -, rfl⟩
    · exact h.below t hold
    · rw [hid]
      exact h.below old hold
  · rcases mem_updateTask ht with ⟨hold, hne⟩ | ⟨old, hold, hold', rfl⟩
    · change (db.events ++ [event]).count (.dispatched t.id) = _
      rw [List.count_append, List.count_singleton, if_neg, Nat.add_zero]
      · exact h.sent t hold
      · rw [beq_iff_eq]
        exact hother t.id hne
    · rw [hid, hold']
      exact hsent old hold hold'
  · rcases List.mem_append.mp hevent with hold | hnew
    · obtain ⟨t, ht, rfl⟩ := h.known other hold
      exact hmem t ht
    · by_cases heq : other = taskId
      · subst heq
        obtain ⟨t, ht, rfl⟩ := hthere
        exact hmem t ht
      · exact absurd (List.mem_singleton.mp hnew).symm (hother other heq)
  · rcases List.mem_append.mp hevent with hold | hnew
    · exact h.settled other messageId hold
    · exact hsettled other messageId (List.mem_singleton.mp hnew).symm

theorem Accounted.started (h : Accounted tick db) (at_ : Nat)
    (hqueued : ∀ t, db.task taskId = some t → t.status = .queued) :
    Accounted tick (db.apply (.started taskId at_)) := by
  rcases apply_started db taskId at_ with ⟨-, heq⟩ | ⟨t, htask, heq⟩
  · rw [heq]
    exact h
  · obtain ⟨ht, hid⟩ := mem_of_task htask
    rw [heq]
    refine h.update (fun _ => rfl) (fun _ _ _ => ?_) (fun other hne hevent => ?_) ⟨t, ht, hid⟩
      (fun other messageId hevent => nomatch hevent)
    · have hzero := h.sent t ht
      rw [hqueued t htask, if_pos rfl, hid] at hzero
      rw [List.count_append, hzero, List.count_singleton_self]
      exact (if_neg nofun).symm
    · exact hne (Event.dispatched.inj hevent).symm

theorem Accounted.settle (h : Accounted tick db) {status : TaskStatus} {messageId : Text}
    (hbegun : db.Begun taskId) (hstatus : status ≠ .queued)
    (hmessage : messageId = taskMessageId taskId) :
    Accounted tick (db.apply (.settled taskId status messageId)) := by
  rcases apply_settled db taskId status messageId with ⟨-, heq⟩ | ⟨t, htask, heq⟩
  · rw [heq]
    exact h
  · obtain ⟨ht, hid⟩ := mem_of_task htask
    rw [heq]
    refine h.update (fun _ => rfl) (fun _ _ _ => ?_) (fun other _ hevent => ?_) ⟨t, ht, hid⟩
      (fun other messageId' hevent => ?_)
    · have hone := h.sent t ht
      rw [if_neg (hbegun t ht hid), hid] at hone
      rw [List.count_append, hone, List.count_singleton, if_neg, if_neg hstatus]
      rw [beq_iff_eq]
      exact nofun
    · cases hevent
    · obtain ⟨rfl, rfl, -⟩ := Event.settled.inj hevent
      exact hmessage

theorem Accounted.queue (h : Accounted tick db) (hid : t.id = tick) (hqueued : t.status = .queued) :
    Accounted (tick + 1) (db.apply (.queued t)) := by
  have hfresh : ∀ other ∈ db.tasks, other.id ≠ tick :=
    fun other hother => Nat.ne_of_lt (h.below other hother)
  refine ⟨?_, fun other hother => ?_, fun other hother => ?_, fun taskId hevent => ?_, h.settled⟩
  · change ((db.tasks ++ [t]).map CpeTask.id).Nodup
    rw [List.map_append, List.map_singleton, List.nodup_append]
    refine ⟨h.keyed, List.nodup_singleton _, fun a ha b hb => ?_⟩
    obtain ⟨other, hother, rfl⟩ := List.mem_map.mp ha
    obtain rfl := List.mem_singleton.mp hb
    rw [hid]
    exact hfresh other hother
  · rcases List.mem_append.mp hother with hold | hnew
    · exact Nat.lt_succ_of_lt (h.below other hold)
    · obtain rfl := List.mem_singleton.mp hnew
      exact hid ▸ Nat.lt_succ_self _
  · rcases List.mem_append.mp hother with hold | hnew
    · exact h.sent other hold
    · obtain rfl := List.mem_singleton.mp hnew
      change db.events.count (.dispatched other.id) = _
      rw [if_pos hqueued, List.count_eq_zero]
      intro hevent
      obtain ⟨old, hold, heq⟩ := h.known _ hevent
      exact hfresh old hold (heq.trans hid)
  · obtain ⟨old, hold, heq⟩ := h.known taskId hevent
    exact ⟨old, List.mem_append_left _ hold, heq⟩

theorem Db.Begun.apply (h : db.Begun taskId) {w : Write}
    (hstatus : ∀ other status messageId, w = .settled other status messageId → status ≠ .queued)
    (hnew : ∀ t, w = .queued t → t.id ≠ taskId) : (db.apply w).Begun taskId := by
  have hchange : ∀ {other : Nat} {change : CpeTask → CpeTask},
      (∀ t, (change t).status ≠ .queued) → ∀ t ∈ db.updateTask other change, t.id = taskId →
        t.status ≠ .queued := by
    intro other change hchange t ht hid
    rcases mem_updateTask ht with ⟨hold, -⟩ | ⟨old, -, -, rfl⟩
    · exact h t hold hid
    · exact hchange old
  cases w with
  | registered device => exact h
  | identified deviceId oui => exact h
  | queued t =>
    intro other hother hid
    rcases List.mem_append.mp hother with hold | hlast
    · exact h other hold hid
    · obtain rfl := List.mem_singleton.mp hlast
      exact absurd hid (hnew other rfl)
  | started other at_ =>
    rcases apply_started db other at_ with ⟨-, heq⟩ | ⟨t, -, heq⟩ <;> rw [heq]
    · exact h
    · exact hchange fun _ => nofun
  | settled other status messageId =>
    rcases apply_settled db other status messageId with ⟨-, heq⟩ | ⟨t, -, heq⟩ <;> rw [heq]
    · exact h
    · exact hchange fun _ => hstatus other status messageId rfl

/-- What a request may settle is a task that was read for its own response. -/
def Know.Fits (tick : Nat) (db : Db) (know : Know) : Prop :=
  ∀ taskId messageId, know = some (taskId, messageId) →
    messageId = taskMessageId taskId ∧ taskId < tick ∧ db.Begun taskId

/-- The tasks are accounted for, no transaction is open, and what is settled fits. -/
structure TasksInv (tick : Nat) (db : Db) (held : List (Nat × Nat))
    (ghosts : Nat → Ghost Db Write Know) : Prop where
  accounted : Accounted tick db
  closed : ∀ i, (ghosts i).tx = none
  fits : ∀ i know, (ghosts i).know = some know → know.Fits tick db
  free : held = []

variable {know : Know}

theorem Know.Fits.apply (h : know.Fits tick db) {w : Write}
    (hstatus : ∀ other status messageId, w = .settled other status messageId → status ≠ .queued)
    (hnew : ∀ t, w = .queued t → t.id = tick) : know.Fits (tick + 1) (db.apply w) := by
  intro taskId messageId hknow
  obtain ⟨hmessage, hlt, hbegun⟩ := h taskId messageId hknow
  refine ⟨hmessage, Nat.lt_succ_of_lt hlt, hbegun.apply hstatus fun t ht => ?_⟩
  rw [hnew t ht]
  exact Nat.ne_of_gt hlt

theorem Know.Fits.later (h : know.Fits tick db) : know.Fits (tick + 1) db := by
  intro taskId messageId hknow
  obtain ⟨hmessage, hlt, hbegun⟩ := h taskId messageId hknow
  exact ⟨hmessage, Nat.lt_succ_of_lt hlt, hbegun⟩

/-- A statement that is allowed keeps the account, what others know, and teaches what is true. -/
theorem statement_accounted (same : Text → Text → Bool) {op : Stmt} {learn : op.Res → Know}
    (h : Accounted tick db) (hfits : know.Fits tick db) (hsent : know.sent op = some learn)
    (hmay : May db (.sends op)) :
    let out := (engine same).exec op tick db db
    let db' := (engine same).visible db out.2
    Accounted (tick + 1) db' ∧ (∀ other : Know, other.Fits tick db → other.Fits (tick + 1) db') ∧
      (learn out.1).Fits (tick + 1) db' := by
  intro out db'
  have hquiet : out.2 = [] → learn out.1 = know →
      Accounted (tick + 1) db' ∧ (∀ other : Know, other.Fits tick db → other.Fits (tick + 1) db') ∧
        (learn out.1).Fits (tick + 1) db' := by
    intro hwrites hlearn
    have hsame : db' = db := by
      change (engine same).visible db out.2 = db
      rw [hwrites]
      rfl
    rw [hsame, hlearn]
    exact ⟨h.later, fun _ hother => hother.later, hfits.later⟩
  have hwrite : ∀ {w : Write}, db' = db.apply w → learn out.1 = know →
      (∀ other status messageId, w = .settled other status messageId → status ≠ .queued) →
      (∀ t, w = .queued t → t.id = tick) → Accounted (tick + 1) (db.apply w) →
      Accounted (tick + 1) db' ∧ (∀ other : Know, other.Fits tick db → other.Fits (tick + 1) db') ∧
        (learn out.1).Fits (tick + 1) db' := by
    intro w hdb hlearn hstatus hnew haccounted
    rw [hdb, hlearn]
    exact ⟨haccounted, fun _ hother => hother.apply hstatus hnew, hfits.apply hstatus hnew⟩
  have hsettle : ∀ {taskId : Nat} {messageId : Text} {status : TaskStatus},
      status ≠ .queued → know = some (taskId, messageId) →
      db' = db.apply (.settled taskId status messageId) → learn out.1 = know →
      Accounted (tick + 1) db' ∧ (∀ other : Know, other.Fits tick db → other.Fits (tick + 1) db') ∧
        (learn out.1).Fits (tick + 1) db' := by
    intro taskId messageId status hstatus hknow hdb hlearn
    obtain ⟨hmessage, -, hbegun⟩ := hfits taskId messageId hknow
    refine hwrite hdb hlearn (fun _ _ _ heq => ?_) (fun _ heq => nomatch heq)
      (h.settle hbegun hstatus hmessage).later
    obtain ⟨-, rfl, -⟩ := Write.settled.inj heq
    exact hstatus
  cases op with
  | activeTask deviceId messageId =>
    obtain rfl := Option.some.inj hsent
    refine ⟨h.later, fun _ hother => hother.later, fun taskId messageId' hknow => ?_⟩
    obtain ⟨t, ht, heq⟩ := Option.map_eq_some_iff.mp hknow
    obtain ⟨rfl, rfl⟩ := Prod.mk.inj heq
    obtain ⟨hmem, hstatus⟩ := mem_of_activeTask ht
    refine ⟨?_, Nat.lt_succ_of_lt (h.below t hmem), fun other hother hid => ?_⟩
    · have hall := hmay
      have hactive : db.activeTask deviceId = some t := ht
      change (db.activeTask deviceId).all _ = true at hall
      rw [hactive] at hall
      exact of_decide_eq_true hall
    · obtain rfl := h.eq hother hmem hid
      rw [hstatus]
      nofun
  | startTask taskId =>
    obtain rfl := Option.some.inj hsent
    refine hwrite (w := .started taskId tick) rfl rfl (fun _ _ _ heq => nomatch heq)
      (fun _ heq => nomatch heq) (h.started tick fun t ht => ?_).later
    have hall := hmay
    change (db.task taskId).all _ = true at hall
    rw [ht] at hall
    exact of_decide_eq_true hall
  | failTask taskId messageId =>
    obtain ⟨hknow, hlearn⟩ := Option.ite_none_right_eq_some.mp hsent
    have hstatus : TaskStatus.failed ≠ .queued := nofun
    exact hsettle hstatus hknow rfl (congrFun (Option.some.inj hlearn) _).symm
  | finishTask taskId messageId =>
    obtain ⟨hknow, hlearn⟩ := Option.ite_none_right_eq_some.mp hsent
    have hstatus : TaskStatus.done ≠ .queued := nofun
    exact hsettle hstatus hknow rfl (congrFun (Option.some.inj hlearn) _).symm
  | queueTask task =>
    obtain rfl := Option.some.inj hsent
    refine hwrite (w := .queued ⟨tick, task.cpeDeviceId, task.getsParameters, task.diagnostic,
      task.body, .queued, task.priority, tick, none⟩) rfl rfl (fun _ _ _ heq => nomatch heq)
      (fun t heq => ?_) (h.queue rfl rfl)
    obtain rfl := Write.queued.inj heq
    rfl
  | identify deviceId oui =>
    obtain rfl := Option.some.inj hsent
    exact hwrite (w := .identified deviceId oui) rfl rfl (fun _ _ _ heq => nomatch heq)
      (fun _ heq => nomatch heq) ⟨h.keyed, h.later.below, h.sent, h.known, h.settled⟩
  | register serialNumber oui =>
    obtain rfl := Option.some.inj hsent
    exact hwrite (w := .registered _) rfl rfl (fun _ _ _ heq => nomatch heq)
      (fun _ heq => nomatch heq) ⟨h.keyed, h.later.below, h.sent, h.known, h.settled⟩
  | byUsername username =>
    obtain rfl := Option.some.inj hsent
    exact hquiet rfl rfl
  | byIdentity serialNumber oui =>
    obtain rfl := Option.some.inj hsent
    exact hquiet rfl rfl
  | bySerialNumber serialNumber =>
    obtain rfl := Option.some.inj hsent
    exact hquiet rfl rfl
  | device deviceId =>
    obtain rfl := Option.some.inj hsent
    exact hquiet rfl rfl
  | nextTask deviceId =>
    obtain rfl := Option.some.inj hsent
    exact hquiet rfl rfl
  | otherwise =>
    obtain rfl := Option.some.inj hsent
    exact hquiet rfl rfl

theorem TasksInv.step {i : Nat} {held held' : List (Nat × Nat)} {db' : Db}
    {ghosts : Nat → Ghost Db Write Know} {ghost' : Ghost Db Write Know}
    (h : TasksInv tick db held ghosts)
    (hstep : Guarded (engine same) settling (May db) i tick db held (ghosts i) db' held' ghost') :
    TasksInv (tick + 1) db' held' (Function.update ghosts i ghost') := by
  have hopen : ∀ tx, (ghosts i).tx ≠ some tx := fun tx htx => nomatch (h.closed i).symm.trans htx
  have hnext : ∀ {db' : Db} {ghost' : Ghost Db Write Know}, Accounted (tick + 1) db' →
      (∀ other : Know, other.Fits tick db → other.Fits (tick + 1) db') → ghost'.tx = none →
      (∀ know, ghost'.know = some know → know.Fits (tick + 1) db') →
      TasksInv (tick + 1) db' held (Function.update ghosts i ghost') := by
    intro db' ghost' haccounted hothers htx hknow
    refine ⟨haccounted, fun j => ?_, fun j know hj => ?_, h.free⟩
    · by_cases hji : j = i
      · subst hji
        rw [Function.update_self]
        exact htx
      · rw [Function.update_of_ne hji]
        exact h.closed j
    · by_cases hji : j = i
      · subst hji
        rw [Function.update_self] at hj
        exact hknow know hj
      · rw [Function.update_of_ne hji] at hj
        exact hothers know (h.fits j know hj)
  generalize hghost : ghosts i = ghost at hstep hopen
  cases hstep with
  | idle =>
    refine hnext h.accounted.later (fun _ hother => hother.later) (hghost ▸ h.closed i)
      fun know hknow => (h.fits i know (hghost ▸ hknow)).later
  | abort hmay =>
    have hreleased : Sys.releasedBy held i = held := by
      rw [h.free]
      rfl
    rw [hreleased]
    exact hnext h.accounted.later (fun _ hother => hother.later) rfl fun _ hknow => nomatch hknow
  | start know know' tx hk => cases hk
  | commit know know' tx hk => cases hk
  | rollback know know' tx hk => cases hk
  | within know op learn tx => exact absurd rfl (hopen tx)
  | call know query learn tx hk answer hmay =>
    obtain rfl := Option.some.inj hk
    refine hnext h.accounted.later (fun _ hother => hother.later) ?_ fun know' hknow => ?_
    · have hclosed := h.closed i
      rw [hghost] at hclosed
      exact hclosed
    · obtain rfl := Option.some.inj hknow
      exact (h.fits i _ (by rw [hghost])).later
  | auto know via op learn tx hk hin hfree hmay =>
    have hsent : know.sent op = some learn := by
      cases via with
      | pool => exact hk
      | conn => cases hk
    have hfits := h.fits i know (by rw [hghost])
    obtain ⟨haccounted, hothers, hlearnt⟩ :=
      statement_accounted same h.accounted hfits hsent hmay
    refine hnext haccounted hothers ?_ fun know' hknow => ?_
    · have hclosed := h.closed i
      rw [hghost] at hclosed
      exact hclosed
    · obtain rfl := Option.some.inj hknow
      exact hlearnt

/-- Calls that have not started, on tables whose tasks are accounted for. -/
structure Opening (verifies : Text → Text → Bool) (calls : Nat → Call) (s : System) : Prop where
  accounted : Accounted s.tick s.db
  free : s.held = []
  sessions : ∀ i, s.sessions i = ⟨some ((calls i).run verifies), none⟩

/-- Where started tasks still wait, and messages are for the last, a task is sent and settled once. -/
theorem tasks_sent_once {calls : Nat → Call} {s : System} (h : Opening verifies calls s)
    {labels : List (Label (Outside.Answer Answer))}
    (hrun : s.Keeping (engine same) (fun s => May s.db) labels) :
    let events := (Transition.run (Sys.step (engine same)) s labels).db.events
    (∀ taskId, events.count (.dispatched taskId) ≤ 1) ∧
      ∀ taskId messageId, .settled taskId messageId .inProgress ∈ events →
        messageId = taskMessageId taskId := by
  have hinv : TasksInv s.tick s.db s.held fun _ => ⟨some none, none⟩ := by
    refine ⟨h.accounted, fun _ => rfl, fun _ know hknow => ?_, h.free⟩
    obtain rfl := Option.some.inj hknow
    exact fun _ _ hsome => nomatch hsome
  have htrack : ∀ i, TracksTo settling (fun _ _ => True) (s.sessions i)
      (⟨some none, none⟩ : Ghost Db Write Know) := by
    intro i
    rw [h.sessions i]
    exact ⟨rfl, fun p hp => ⟨none, rfl, Option.some.inj hp ▸ follows_call (calls i)⟩⟩
  obtain ⟨ghosts, hend, -⟩ := Sys.run_guarded
    (fun i tick db held ghosts db' held' ghost' hinv hstep => hinv.step hstep) hinv htrack hrun
  refine ⟨fun taskId => ?_, hend.accounted.settled⟩
  by_cases hsent : .dispatched taskId ∈
      (Transition.run (Sys.step (engine same)) s labels).db.events
  · obtain ⟨t, ht, rfl⟩ := hend.accounted.known taskId hsent
    rw [hend.accounted.sent t ht]
    split_ifs <;> omega
  · rw [List.count_eq_zero.mpr hsent]
    omega

/-- A device with a task that waits. -/
def sampleDb : Db :=
  ⟨[⟨1, ['S'], some ['O'], some ['u'], some ['p'], none⟩],
    [⟨1, 1, false, false, [], .queued, 5, 0, none⟩], []⟩

def sampleVerifies (password hash : Text) : Bool := password == hash

/-- Strings are compared as they are. -/
def sampleSame (a b : Text) : Bool := a == b

/-- The device reports. -/
def sampleInform : Request :=
  ⟨some (['u'], ['p']), "<Inform><ID>1</ID></Inform>".toList, 0⟩

/-- The device answers a request. -/
def sampleResponse (messageId : String) : Request :=
  ⟨some (['u'], ['p']), ("<RebootResponse/><ID>" ++ messageId ++ "</ID>").toList, 0⟩

/-- The calls before they start. -/
def sampleSystem (calls : Nat → Call) : System where
  db := sampleDb
  tick := 2
  held := []
  sessions := fun i => ⟨some ((calls i).run sampleVerifies), none⟩
  calls := []

/-- Nothing raises. -/
def sampleWorld : (query : Outside Stmt Empty) → Outside.Answer Answer query
  | .raises _ => false
  | .fails _ => false
  | .about query => query.elim

theorem sampleDb_accounted : Accounted 2 sampleDb :=
  ⟨by decide, by decide, by decide, fun _ h => absurd h List.not_mem_nil,
    fun _ _ h => absurd h List.not_mem_nil⟩

theorem sampleSystem_opening (calls : Nat → Call) :
    Opening sampleVerifies calls (sampleSystem calls) :=
  ⟨sampleDb_accounted, rfl, fun _ => rfl⟩

/-- The device reports and then answers. -/
def sampleCalls : Nat → Call
  | 0 => .cwmp sampleInform
  | _ => .cwmp (sampleResponse "TASK-1")

/-- A task is sent and settled by its own response. -/
theorem tasks_sent_once_sample :
    let labels := List.replicate 20 (.step 0 sampleWorld) ++ List.replicate 20 (.step 1 sampleWorld)
    let events := (Transition.run (Sys.step (engine sampleSame)) (sampleSystem sampleCalls)
      labels).db.events
    (events = [.dispatched 1, .settled 1 (taskMessageId 1) .inProgress]) ∧
      (∀ taskId, events.count (.dispatched taskId) ≤ 1) ∧
      ∀ taskId messageId, .settled taskId messageId .inProgress ∈ events →
        messageId = taskMessageId taskId :=
  ⟨by decide +kernel, tasks_sent_once (sampleSystem_opening sampleCalls) (by decide +kernel)⟩

/-- Two reports that overlap are both sent the task. -/
theorem tasks_sent_once_fails :
    ¬∀ (calls : Nat → Call) (s : System) (labels : List (Label (Outside.Answer Answer))),
      Opening sampleVerifies calls s →
      let events := (Transition.run (Sys.step (engine sampleSame)) s labels).db.events
      (∀ taskId, events.count (.dispatched taskId) ≤ 1) ∧
        ∀ taskId messageId, .settled taskId messageId .inProgress ∈ events →
          messageId = taskMessageId taskId := by
  intro h
  have htwice := (h (fun _ => .cwmp sampleInform) (sampleSystem fun _ => .cwmp sampleInform)
    (List.replicate 20 [.step 0 sampleWorld, .step 1 sampleWorld]).flatten
    (sampleSystem_opening _)).1 1
  revert htwice
  decide +kernel

end FireIsp.Acs
