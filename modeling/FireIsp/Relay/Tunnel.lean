import FireIsp.Base.Run
import FireIsp.Base.Text
import Mathlib.Data.List.Nodup
import Mathlib.Logic.Function.Basic

/-!
# The relay tunnel

`TunnelServer`: agents connect, authenticate for a node and answer commands.  Each event runs to its
end before the next one; what is sent to whom, who has authenticated and how each command ended is
kept as a history.
-/

namespace FireIsp.Relay

/-- `ws.readyState` of a socket that has connected. -/
inductive ReadyState
  | open_
  | closing
  | closed
  deriving DecidableEq

structure Socket where
  readyState : ReadyState
  nodeId : Option String

/-- What a message of an agent says. -/
inductive Message
  | malformed
  | auth (nodeId token : Option String)
  /-- `'response'`, with the id of a command if it carries one. -/
  | response (id : Option Nat) (ok : Bool) (data error : Option String)
  | other

/-- What is sent to an agent. -/
inductive Frame
  | error (reason : String)
  | authFail (reason : String)
  | authOk
  | command (id : Nat) (method : String)
  | close (code : Nat) (reason : String)

/-- How a command ends. -/
inductive Outcome
  | fulfilled (socket : Nat) (data : Option String)
  | rejected (message : String)
  deriving DecidableEq

structure Command where
  id : Nat
  nodeId : String
  method : String
  timeout : Nat

/-- `relayConfig` -/
structure Config where
  /-- `FIRERELAY_TUNNEL_SECRET`; without one the tunnel is not attached. -/
  tunnelSecret : String
  /-- Milliseconds a command may take if its caller does not say. -/
  tunnelCommandTimeout : Nat

/-- The state of the server, and its history. -/
structure Tunnel where
  /-- Number of events so far; names sockets and commands. -/
  tick : Nat
  sockets : Nat → Option Socket
  agents : String → Option Nat
  pending : List Nat
  timers : List Nat
  sent : List (Nat × Frame)
  /-- Which socket has authenticated for which node, newest first. -/
  authentications : List (Nat × String)
  commands : List Command
  outcomes : List (Nat × Outcome)

/-- What happens. -/
inductive Event
  | connects
  | receives (socket : Nat) (message : Message)
  | authTimeout (socket : Nat)
  /-- The agent closes, or has missed its heartbeat. -/
  | closes (socket : Nat)
  | closed (socket : Nat)
  | sendCommand (nodeId method : String) (timeoutMs : Option Nat) (thrown : Option String)
  | timeout (id : Nat)

namespace Tunnel

/-- Something is sent. -/
def send (t : Tunnel) (socket : Nat) (frame : Frame) : Tunnel :=
  { t with sent := (socket, frame) :: t.sent }

def setState (t : Tunnel) (socket : Nat) (readyState : ReadyState) : Tunnel :=
  { t with
    sockets := Function.update t.sockets socket
      ((t.sockets socket).map fun ws => { ws with readyState := readyState }) }

@[simp] theorem setState_self (t : Tunnel) (socket : Nat) (readyState : ReadyState) :
    (t.setState socket readyState).sockets socket =
      (t.sockets socket).map fun ws => { ws with readyState := readyState } :=
  Function.update_self _ _ _

theorem setState_other (t : Tunnel) {socket other : Nat} (readyState : ReadyState)
    (h : other ≠ socket) : (t.setState socket readyState).sockets other = t.sockets other :=
  Function.update_of_ne h _ _

def close (t : Tunnel) (socket code : Nat) (reason : String) : Tunnel :=
  (t.send socket (.close code reason)).setState socket .closing

def refuse (t : Tunnel) (socket : Nat) (reason : String) (code : Nat) (closeReason : String) :
    Tunnel := (t.send socket (.authFail reason)).close socket code closeReason

/-- Another socket of the node is replaced. -/
def replace (t : Tunnel) (nodeId : String) : Tunnel :=
  match t.agents nodeId with
  | some existing => t.close existing 4010 "Replaced by new connection"
  | none => t

def register (t : Tunnel) (socket : Nat) (nodeId : String) : Tunnel :=
  { t with
    sockets := Function.update t.sockets socket
      ((t.sockets socket).map fun ws => { ws with nodeId := some nodeId })
    agents := Function.update t.agents nodeId (some socket)
    authentications := (socket, nodeId) :: t.authentications }

@[simp] theorem register_self (t : Tunnel) (socket : Nat) (nodeId : String) :
    (t.register socket nodeId).sockets socket =
      (t.sockets socket).map fun ws => { ws with nodeId := some nodeId } :=
  Function.update_self _ _ _

theorem register_other (t : Tunnel) {socket other : Nat} (nodeId : String) (h : other ≠ socket) :
    (t.register socket nodeId).sockets other = t.sockets other := Function.update_of_ne h _ _

def handleAuth (config : Config) (t : Tunnel) (socket : Nat) : Message → Tunnel
  | .auth nodeId token =>
    match nodeId with
    | none => t.refuse socket "Invalid node_id" 4003 "Invalid node_id"
    | some nodeId =>
      if Text.units nodeId < 1 || Text.units nodeId > 64 then
        t.refuse socket "Invalid node_id" 4003 "Invalid node_id"
      else if token = some "" || token ≠ some config.tunnelSecret then
        t.refuse socket "Invalid token" 4004 "Unauthorized"
      else ((t.replace nodeId).register socket nodeId).send socket .authOk
  | _ => t.refuse socket "Expected auth message first" 4002 "Protocol error"

/-- A command ends. -/
def settle (t : Tunnel) (id : Nat) (outcome : Outcome) : Tunnel :=
  { t with
    pending := t.pending.filter fun other => other ≠ id
    timers := t.timers.filter fun other => other ≠ id
    outcomes := (id, outcome) :: t.outcomes }

/-- How a response ends its command. -/
def answer (socket : Nat) (ok : Bool) (data error : Option String) : Outcome :=
  if ok then .fulfilled socket data
  else .rejected (match error with
    | some message => if message = "" then "Agent returned error" else message
    | none => "Agent returned error")

def handleMessage (t : Tunnel) (socket : Nat) : Message → Tunnel
  | .response (some id) ok data error =>
    if id ∈ t.pending then t.settle id (answer socket ok data error) else t
  | _ => t

/-- A message comes in on a socket that has not closed. -/
def receive (config : Config) (t : Tunnel) (socket : Nat) (ws : Socket) (message : Message) :
    Tunnel :=
  match message with
  | .malformed => t.send socket (.error "Invalid JSON")
  | message =>
    match ws.nodeId with
    | none => t.handleAuth config socket message
    | some _ => t.handleMessage socket message

def onAgentDisconnect (t : Tunnel) (socket : Nat) (nodeId : String) : Tunnel :=
  if t.agents nodeId = some socket then { t with agents := Function.update t.agents nodeId none }
  else t

def fire (t : Tunnel) (id : Nat) : Tunnel :=
  match t.commands.find? fun command => command.id = id with
  | some command => t.settle id (.rejected ("Command " ++ command.method ++ " to agent " ++
      command.nodeId ++ " timed out after " ++ toString command.timeout ++ "ms"))
  | none => t

def notConnected (t : Tunnel) (command : Command) : Tunnel :=
  { t with
    commands := command :: t.commands
    outcomes := (command.id, .rejected ("Agent " ++ command.nodeId ++ " is not connected")) ::
      t.outcomes }

/-- A command waits for its response. -/
def await (t : Tunnel) (command : Command) : Tunnel :=
  { t with
    commands := command :: t.commands
    pending := command.id :: t.pending
    timers := command.id :: t.timers }

def sendCommand (t : Tunnel) (command : Command) (thrown : Option String) : Tunnel :=
  match t.agents command.nodeId with
  | none => t.notConnected command
  | some socket =>
    if (t.sockets socket).any fun ws => ws.readyState = .open_ then
      match thrown with
      | some message => (t.await command).settle command.id (.rejected message)
      | none => (t.await command).send socket (.command command.id command.method)
    else t.notConnected command

/-- The timeout of a command, within its bounds. -/
def commandTimeout (config : Config) (timeoutMs : Option Nat) : Nat :=
  min (max (timeoutMs.getD config.tunnelCommandTimeout) 1000) 60000

/-- One event, before the time goes on. -/
def handle (config : Config) (t : Tunnel) : Event → Tunnel
  | .connects => { t with sockets := Function.update t.sockets t.tick (some ⟨.open_, none⟩) }
  | .receives socket message =>
    match t.sockets socket with
    | some ws => if ws.readyState = .closed then t else t.receive config socket ws message
    | none => t
  | .authTimeout socket =>
    match t.sockets socket with
    | some ws =>
      if ws.readyState = .closed || ws.nodeId.isSome then t
      else t.close socket 4001 "Authentication timeout"
    | none => t
  | .closes socket =>
    match t.sockets socket with
    | some ws => if ws.readyState = .closed then t else t.setState socket .closing
    | none => t
  | .closed socket =>
    match t.sockets socket with
    | some ws =>
      if ws.readyState = .closed then t
      else match ws.nodeId with
        | some nodeId => (t.setState socket .closed).onAgentDisconnect socket nodeId
        | none => t.setState socket .closed
    | none => t
  | .sendCommand nodeId method timeoutMs thrown =>
    t.sendCommand ⟨t.tick, nodeId, method, commandTimeout config timeoutMs⟩ thrown
  | .timeout id => if id ∈ t.timers then t.fire id else t

def step (config : Config) (t : Tunnel) (event : Event) : Tunnel :=
  { t.handle config event with tick := t.tick + 1 }

/-- A server to which nobody has connected. -/
def initial : Tunnel := ⟨0, fun _ => none, fun _ => none, [], [], [], [], [], []⟩

end Tunnel

end FireIsp.Relay

/-!
## Commands and how they end

A command that waits has a timer and has not ended, and ends once.
-/

namespace FireIsp.Relay

namespace Tunnel

variable {config : Config} {t t' : Tunnel}

/-- The part of the state that the ledger is about stays. -/
structure SameLedger (t t' : Tunnel) : Prop where
  tick : t'.tick = t.tick
  commands : t'.commands = t.commands
  pending : t'.pending = t.pending
  timers : t'.timers = t.timers
  outcomes : t'.outcomes = t.outcomes

/-- Commands, those that wait, and how they end. -/
structure Ledger (t : Tunnel) : Prop where
  past : ∀ command ∈ t.commands, command.id < t.tick
  once : (t.commands.map Command.id).Nodup
  ended : ∀ entry ∈ t.outcomes, entry.1 ∈ t.commands.map Command.id
  waiting : ∀ id ∈ t.pending, id ∈ t.commands.map Command.id
  unsettled : ∀ id ∈ t.pending, id ∉ t.outcomes.map Prod.fst
  timed : t.timers = t.pending
  settledOnce : (t.outcomes.map Prod.fst).Nodup

theorem Ledger.same (h : t.Ledger) (hsame : SameLedger t t') : t'.Ledger := by
  obtain ⟨htick, hcommands, hpending, htimers, houtcomes⟩ := hsame
  refine ⟨fun command hmem => ?_, hcommands ▸ h.once, ?_, ?_, ?_, ?_, houtcomes ▸ h.settledOnce⟩
  · exact htick ▸ h.past command (hcommands ▸ hmem)
  · rw [houtcomes, hcommands]
    exact h.ended
  · rw [hpending, hcommands]
    exact h.waiting
  · rw [hpending, houtcomes]
    exact h.unsettled
  · rw [htimers, hpending]
    exact h.timed

theorem Ledger.later (h : t.Ledger) : ({ t with tick := t.tick + 1 } : Tunnel).Ledger :=
  ⟨fun command hmem => Nat.lt_succ_of_lt (h.past command hmem), h.once, h.ended, h.waiting,
    h.unsettled, h.timed, h.settledOnce⟩

theorem Ledger.settle (h : t.Ledger) {id : Nat} (hid : id ∈ t.pending) (outcome : Outcome) :
    (t.settle id outcome).Ledger where
  past := h.past
  once := h.once
  ended := by
    intro entry hentry
    rcases List.mem_cons.mp hentry with rfl | hentry
    · exact h.waiting id hid
    · exact h.ended entry hentry
  waiting := fun other hother => h.waiting other (List.mem_filter.mp hother).1
  unsettled := by
    intro other hother hended
    obtain ⟨hmem, hne⟩ := List.mem_filter.mp hother
    rcases List.mem_cons.mp hended with rfl | hended
    · exact of_decide_eq_true hne rfl
    · exact h.unsettled other hmem hended
  timed := congrArg (List.filter fun other => other ≠ id) h.timed
  settledOnce := List.nodup_cons.mpr ⟨h.unsettled id hid, h.settledOnce⟩

theorem Ledger.new (h : t.Ledger) : t.tick ∉ t.commands.map Command.id := by
  intro hmem
  obtain ⟨command, hcommand, hid⟩ := List.mem_map.mp hmem
  have hlt := h.past command hcommand
  omega

theorem Ledger.sendCommand (h : t.Ledger) {command : Command} (hid : command.id = t.tick)
    (thrown : Option String) :
    ({ t.sendCommand command thrown with tick := t.tick + 1 } : Tunnel).Ledger := by
  have hnew := hid ▸ h.new
  have hpast : ∀ other ∈ command :: t.commands, other.id < t.tick + 1 := by
    intro other hother
    rcases List.mem_cons.mp hother with rfl | hother
    · omega
    · exact Nat.lt_succ_of_lt (h.past other hother)
  have hawaits : ({ t.await command with tick := t.tick + 1 } : Tunnel).Ledger := by
    refine ⟨hpast, List.nodup_cons.mpr ⟨hnew, h.once⟩, fun entry hentry => ?_, fun id hmem => ?_,
      fun id hmem hended => ?_, congrArg (command.id :: ·) h.timed, h.settledOnce⟩
    · exact List.mem_cons_of_mem _ (h.ended entry hentry)
    · rcases List.mem_cons.mp hmem with rfl | hmem
      · exact List.mem_cons_self
      · exact List.mem_cons_of_mem _ (h.waiting id hmem)
    · rcases List.mem_cons.mp hmem with rfl | hmem
      · obtain ⟨entry, hentry, heq⟩ := List.mem_map.mp hended
        exact hnew (heq ▸ h.ended entry hentry)
      · exact h.unsettled id hmem hended
  have hrefused : ({ t.notConnected command with tick := t.tick + 1 } : Tunnel).Ledger := by
    refine ⟨hpast, List.nodup_cons.mpr ⟨hnew, h.once⟩, fun entry hentry => ?_, fun id hmem => ?_,
      fun id hmem hended => ?_, h.timed, List.nodup_cons.mpr ⟨fun hended => ?_, h.settledOnce⟩⟩
    · rcases List.mem_cons.mp hentry with rfl | hentry
      · exact List.mem_cons_self
      · exact List.mem_cons_of_mem _ (h.ended entry hentry)
    · exact List.mem_cons_of_mem _ (h.waiting id hmem)
    · rcases List.mem_cons.mp hended with rfl | hended
      · exact hnew (h.waiting _ hmem)
      · exact h.unsettled id hmem hended
    · obtain ⟨entry, hentry, heq⟩ := List.mem_map.mp hended
      have hlisted := h.ended entry hentry
      rw [heq] at hlisted
      exact hnew hlisted
  unfold Tunnel.sendCommand
  split
  · exact hrefused
  · split_ifs
    · split
      · exact hawaits.settle List.mem_cons_self _
      · exact hawaits.same ⟨rfl, rfl, rfl, rfl, rfl⟩
    · exact hrefused

theorem sameLedger_handleAuth (socket : Nat) (message : Message) :
    SameLedger t (t.handleAuth config socket message) := by
  have hsame : ∀ reason code closeReason,
      SameLedger t (t.refuse socket reason code closeReason) := fun _ _ _ => ⟨rfl, rfl, rfl, rfl, rfl⟩
  cases message with
  | auth nodeId token =>
    cases nodeId with
    | none => exact hsame _ _ _
    | some nodeId =>
      unfold handleAuth
      dsimp only
      split_ifs
      · exact hsame _ _ _
      · exact hsame _ _ _
      · unfold replace
        cases t.agents nodeId with
        | none => exact ⟨rfl, rfl, rfl, rfl, rfl⟩
        | some existing => exact ⟨rfl, rfl, rfl, rfl, rfl⟩
  | malformed => exact hsame _ _ _
  | response id ok data error => exact hsame _ _ _
  | other => exact hsame _ _ _

end Tunnel

end FireIsp.Relay
