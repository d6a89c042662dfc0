import FireIsp.Relay.Registry

/-!
# Replies of the addressed agent

Which agent a response is from is not looked at, so a command is fulfilled by its own agent as long
as agents answer only what they were sent.
-/

namespace FireIsp.Relay

namespace Tunnel

variable {config : Config} {t t' : Tunnel}

def Answered (t : Tunnel) : Prop :=
  ∀ id socket data, (id, Outcome.fulfilled socket data) ∈ t.outcomes →
    ∃ command ∈ t.commands, command.id = id ∧ (socket, command.nodeId) ∈ t.authentications

/-- What an event does. -/
inductive Change (config : Config) (t : Tunnel) : Event → Tunnel → Prop
  | stays {event : Event} {t' : Tunnel} (hledger : SameLedger t t')
      (hregistry : SameRegistry t t') : Change config t event t'
  | connects : Change config t .connects
      { t with sockets := Function.update t.sockets t.tick (some ⟨.open_, none⟩) }
  | authenticates {socket : Nat} {ws : Socket} {message : Message}
      (hws : t.sockets socket = some ws) (hopen : ws.readyState ≠ .closed)
      (hname : ws.nodeId = none) : Change config t (.receives socket message)
        (t.handleAuth config socket message)
  /-- An agent answers a command that waits. -/
  | answers {socket : Nat} {ws : Socket} {nodeId : String} {id : Nat} {ok : Bool}
      {data error : Option String} (hws : t.sockets socket = some ws)
      (hopen : ws.readyState ≠ .closed) (hname : ws.nodeId = some nodeId) (hid : id ∈ t.pending) :
      Change config t (.receives socket (.response (some id) ok data error))
        (t.settle id (answer socket ok data error))
  | rejects {event : Event} {id : Nat} {message : String} (hid : id ∈ t.timers) :
      Change config t event (t.settle id (.rejected message))
  | closing {event : Event} {t' : Tunnel} {socket : Nat} (hledger : SameLedger t t')
      (hregistry : SameRegistry t t') (hopen : t'.Unclosed socket) :
      Change config t event (t'.setState socket .closing)
  | closed {socket : Nat} {ws : Socket} (hws : t.sockets socket = some ws) :
      Change config t (.closed socket) (match ws.nodeId with
        | some nodeId => (t.setState socket .closed).onAgentDisconnect socket nodeId
        | none => t.setState socket .closed)
  | sends {nodeId method : String} {timeoutMs : Option Nat} {command : Command}
      {thrown : Option String} (hid : command.id = t.tick) :
      Change config t (.sendCommand nodeId method timeoutMs thrown) (t.sendCommand command thrown)

theorem handle_change (event : Event) : Change config t event (t.handle config event) := by
  have hstay : ∀ {event}, Change config t event t :=
    .stays ⟨rfl, rfl, rfl, rfl, rfl⟩ ⟨rfl, rfl, rfl, rfl⟩
  cases event with
  | connects => exact .connects
  | receives socket message =>
    unfold handle
    dsimp only
    split
    · rename_i ws hws
      split_ifs with hopen
      · exact hstay
      · unfold receive
        split
        · exact .stays ⟨rfl, rfl, rfl, rfl, rfl⟩ ⟨rfl, rfl, rfl, rfl⟩
        · split
          · rename_i hname
            exact .authenticates hws hopen hname
          · rename_i nodeId hname
            unfold handleMessage
            split
            · split_ifs with hid
              · exact .answers hws hopen hname hid
              · exact hstay
            · exact hstay
    · exact hstay
  | authTimeout socket =>
    unfold handle
    dsimp only
    split
    · rename_i ws hws
      split_ifs with hopen
      · exact hstay
      · refine .closing ⟨rfl, rfl, rfl, rfl, rfl⟩ ⟨rfl, rfl, rfl, rfl⟩ ⟨ws, hws, fun hclosed => hopen ?_⟩
        rw [hclosed]
        rfl
    · exact hstay
  | closes socket =>
    unfold handle
    dsimp only
    split
    · rename_i ws hws
      split_ifs with hopen
      · exact hstay
      · exact .closing ⟨rfl, rfl, rfl, rfl, rfl⟩ ⟨rfl, rfl, rfl, rfl⟩ ⟨ws, hws, hopen⟩
    · exact hstay
  | closed socket =>
    unfold handle
    dsimp only
    split
    · rename_i ws hws
      split_ifs
      · exact hstay
      · exact .closed hws
    · exact hstay
  | sendCommand nodeId method timeoutMs thrown => exact .sends rfl
  | timeout id =>
    unfold handle
    dsimp only
    split_ifs with hid
    · unfold fire
      split
      · exact .rejects hid
      · exact hstay
    · exact hstay

theorem Ledger.step (h : t.Ledger) (event : Event) : (t.step config event).Ledger := by
  have hsame : ∀ {t'}, SameLedger t t' → ({ t' with tick := t.tick + 1 } : Tunnel).Ledger :=
    fun hsame => hsame.tick ▸ (h.same hsame).later
  have hsettled : ∀ {id outcome}, id ∈ t.pending →
      ({ t.settle id outcome with tick := t.tick + 1 } : Tunnel).Ledger :=
    fun hid => (h.settle hid _).later
  unfold Tunnel.step
  have hchange : Change config t event (t.handle config event) := handle_change event
  generalize t.handle config event = t' at hchange
  cases hchange with
  | stays hledger hregistry => exact hsame hledger
  | connects => exact hsame ⟨rfl, rfl, rfl, rfl, rfl⟩
  | authenticates hws hopen hname => exact hsame (sameLedger_handleAuth _ _)
  | answers hws hopen hname hid => exact hsettled hid
  | rejects hid => exact hsettled (h.timed ▸ hid)
  | closing hledger hregistry hopen =>
    exact hsame ⟨hledger.tick, hledger.commands, hledger.pending, hledger.timers,
      hledger.outcomes⟩
  | @closed socket ws hws =>
    cases ws.nodeId with
    | none => exact hsame ⟨rfl, rfl, rfl, rfl, rfl⟩
    | some nodeId =>
      dsimp only
      unfold onAgentDisconnect
      split_ifs <;> exact hsame ⟨rfl, rfl, rfl, rfl, rfl⟩
  | sends hid => exact h.sendCommand hid _

theorem Registry.step (h : t.Registry) (event : Event) : (t.step config event).Registry := by
  have hlater : ∀ {t' : Tunnel}, t'.tick = t.tick → t'.Registry →
      ({ t' with tick := t.tick + 1 } : Tunnel).Registry := fun htick h => htick ▸ h.later
  have hsame : ∀ {t'}, SameRegistry t t' → ({ t' with tick := t.tick + 1 } : Tunnel).Registry :=
    fun hsame => hlater hsame.tick (h.of_same hsame)
  unfold Tunnel.step
  have hchange : Change config t event (t.handle config event) := handle_change event
  generalize t.handle config event = t' at hchange
  cases hchange with
  | stays hledger hregistry => exact hsame hregistry
  | connects => exact h.connects
  | authenticates hws hopen hname =>
    exact hlater (sameLedger_handleAuth _ _).tick (h.handleAuth hws hname hopen _)
  | answers hws hopen hname hid => exact hsame ⟨rfl, rfl, rfl, rfl⟩
  | rejects hid => exact hsame ⟨rfl, rfl, rfl, rfl⟩
  | closing hledger hregistry hopen =>
    exact hlater hledger.tick ((h.of_same hregistry).closing hopen)
  | @closed socket ws hws =>
    refine hlater ?_ (h.disconnect hws)
    cases ws.nodeId with
    | none => rfl
    | some nodeId =>
      dsimp only
      unfold onAgentDisconnect
      split_ifs <;> rfl
  | @sends nodeId method timeoutMs command thrown hid =>
    exact hsame (sameRegistry_sendCommand command thrown)

/-- An agent answers a command of its own node. -/
def Faithful (t : Tunnel) (event : Event) : Prop :=
  ∀ socket id data error ws nodeId command,
    event = .receives socket (.response (some id) true data error) →
      t.sockets socket = some ws → ws.nodeId = some nodeId → id ∈ t.pending →
        command ∈ t.commands → command.id = id → command.nodeId = nodeId

theorem Answered.mono (h : t.Answered)
    (houtcomes : ∀ id socket data, (id, Outcome.fulfilled socket data) ∈ t'.outcomes →
      (id, Outcome.fulfilled socket data) ∈ t.outcomes)
    (hcommands : ∀ command ∈ t.commands, command ∈ t'.commands)
    (hauthentications : ∀ entry ∈ t.authentications, entry ∈ t'.authentications) :
    t'.Answered := by
  intro id socket data hmem
  obtain ⟨command, hcommand, hid, hauthentication⟩ := h id socket data (houtcomes _ _ _ hmem)
  exact ⟨command, hcommands _ hcommand, hid, hauthentications _ hauthentication⟩

theorem mem_handleAuth {entry : Nat × String} (h : entry ∈ t.authentications) (socket : Nat)
    (message : Message) : entry ∈ (t.handleAuth config socket message).authentications := by
  cases message with
  | auth nodeId token =>
    cases nodeId with
    | none => exact h
    | some nodeId =>
      unfold handleAuth
      dsimp only
      split_ifs
      · exact h
      · exact h
      · refine List.mem_cons_of_mem _ ?_
        unfold replace
        cases t.agents nodeId with
        | none => exact h
        | some existing => exact h
  | malformed => exact h
  | response id ok data error => exact h
  | other => exact h

theorem Answered.sendCommand (h : t.Answered) (command : Command) (thrown : Option String) :
    (t.sendCommand command thrown).Answered := by
  have hended : ∀ {message : String} {id socket data},
      (id, Outcome.fulfilled socket data) ∈ (command.id, .rejected message) :: t.outcomes →
        (id, Outcome.fulfilled socket data) ∈ t.outcomes := by
    intro message id socket data hmem
    rcases List.mem_cons.mp hmem with heq | hmem
    · cases heq
    · exact hmem
  unfold Tunnel.sendCommand
  split
  · exact h.mono (fun _ _ _ => hended) (fun _ => List.mem_cons_of_mem _) fun _ => id
  · split_ifs
    · split
      · exact h.mono (fun _ _ _ => hended) (fun _ => List.mem_cons_of_mem _) fun _ => id
      · exact h.mono (fun _ _ _ => id) (fun _ => List.mem_cons_of_mem _) fun _ => id
    · exact h.mono (fun _ _ _ => hended) (fun _ => List.mem_cons_of_mem _) fun _ => id

theorem Answered.step (hledger : t.Ledger) (hregistry : t.Registry) (h : t.Answered) {event : Event}
    (hfaithful : t.Faithful event) : (t.step config event).Answered := by
  unfold Tunnel.step
  have hchange : Change config t event (t.handle config event) := handle_change event
  generalize t.handle config event = t' at hchange
  cases hchange with
  | stays hsame hregistered =>
    refine h.mono (fun _ _ _ hmem => hsame.outcomes ▸ hmem) (fun _ hmem => ?_) fun _ hmem => ?_
    · exact hsame.commands ▸ hmem
    · exact hregistered.authentications ▸ hmem
  | connects => exact h
  | @authenticates socket ws message hws hopen hname =>
    have hsame : SameLedger t (t.handleAuth config socket message) :=
      sameLedger_handleAuth socket message
    refine h.mono (fun _ _ _ hmem => hsame.outcomes ▸ hmem) (fun _ hmem => ?_) fun _ hmem => ?_
    · exact hsame.commands ▸ hmem
    · exact mem_handleAuth hmem socket message
  | @answers socket ws nodeId id ok data error hws hopen hname hid =>
    intro id' socket' data' hmem
    rcases List.mem_cons.mp hmem with heq | hmem
    · obtain ⟨rfl, hanswer⟩ := Prod.mk.inj heq
      unfold answer at hanswer
      split_ifs at hanswer with hok
      obtain ⟨rfl, rfl⟩ := Outcome.fulfilled.inj hanswer
      obtain ⟨command, hcommand, hcommand_id⟩ := List.mem_map.mp (hledger.waiting id' hid)
      refine ⟨command, hcommand, hcommand_id, ?_⟩
      rw [hfaithful socket' id' data' error ws nodeId command (hok ▸ rfl) hws hname hid hcommand
        hcommand_id]
      exact (hregistry.named socket' ws nodeId hws).mp hname
    · exact h id' socket' data' hmem
  | rejects hid =>
    refine h.mono (fun _ _ _ hmem => ?_) (fun _ => id) fun _ => id
    rcases List.mem_cons.mp hmem with heq | hmem
    · cases heq
    · exact hmem
  | closing hsame hregistered hopen =>
    refine h.mono (fun _ _ _ hmem => hsame.outcomes ▸ hmem) (fun _ hmem => ?_) fun _ hmem => ?_
    · exact hsame.commands ▸ hmem
    · exact hregistered.authentications ▸ hmem
  | @closed socket ws hws =>
    cases ws.nodeId with
    | none => exact h
    | some nodeId =>
      dsimp only
      unfold onAgentDisconnect
      split_ifs <;> exact h
  | sends hid => exact h.sendCommand _ _

theorem initial_ledger : initial.Ledger where
  past := nofun
  once := List.nodup_nil
  ended := nofun
  waiting := nofun
  unsettled := nofun
  timed := rfl
  settledOnce := List.nodup_nil

theorem initial_registry : initial.Registry where
  past := nofun
  named := nofun
  connected := nofun
  registered := fun _ _ => ⟨nofun, nofun⟩

/-- Where agents answer only their nodes, a command ends once, on a socket of its node. -/
theorem replies_from_addressed_agent {events : List Event}
    (hrun : Transition.Along (step config) Faithful initial events) :
    ((Transition.run (step config) initial events).outcomes.map Prod.fst).Nodup ∧
      (Transition.run (step config) initial events).Answered ∧
      ∀ nodeId socket, (Transition.run (step config) initial events).agents nodeId = some socket ↔
        (Transition.run (step config) initial events).latest nodeId = some socket ∧
          (Transition.run (step config) initial events).Unclosed socket := by
  have hinv : ∀ (t : Tunnel) (event : Event), t.Ledger ∧ t.Registry ∧ t.Answered →
      t.Faithful event → (t.step config event).Ledger ∧ (t.step config event).Registry ∧
        (t.step config event).Answered :=
    fun _ _ ⟨hledger, hregistry, hanswered⟩ hfaithful =>
      ⟨hledger.step _, hregistry.step _, hanswered.step hledger hregistry hfaithful⟩
  obtain ⟨hledger, hregistry, hanswered⟩ := Transition.run_invariant hinv
    ⟨initial_ledger, initial_registry, nofun⟩ hrun
  exact ⟨hledger.settledOnce, hanswered, hregistry.registered⟩

/-- A tunnel with a secret. -/
def sampleConfig : Config := ⟨"s", 5000⟩

/-- Two agents connect and authenticate, and the first one is sent a command. -/
def sampleEvents : List Event :=
  [.connects, .connects, .receives 0 (.auth (some "a") (some "s")),
    .receives 1 (.auth (some "b") (some "s")), .sendCommand "a" "m" none none]

/-- The agent that was sent the command answers it. -/
theorem replies_from_addressed_agent_sample :
    let t := Transition.run (step sampleConfig) initial
      (sampleEvents ++ [.receives 0 (.response (some 4) true (some "d") none)])
    (4, Outcome.fulfilled 0 (some "d")) ∈ t.outcomes ∧ t.Answered ∧ t.agents "a" = some 0 := by
  have hrun : Transition.Along (step sampleConfig) Faithful initial
      (sampleEvents ++ [.receives 0 (.response (some 4) true (some "d") none)]) := by
    refine ⟨nofun, nofun, nofun, nofun, nofun, ?_, trivial⟩
    intro socket id data error ws nodeId command hevent hws hname hid hcommand hcommand_id
    obtain ⟨rfl, hmessage⟩ := Event.receives.inj hevent
    obtain rfl := List.mem_singleton.mp hcommand
    obtain rfl : (⟨.open_, some "a"⟩ : Socket) = ws := Option.some.inj hws
    exact Option.some.inj hname
  exact ⟨by decide, (replies_from_addressed_agent hrun).2.1, by decide⟩

theorem replies_from_addressed_agent_fails :
    ¬(Transition.run (step sampleConfig) initial
      (sampleEvents ++ [.receives 1 (.response (some 4) true (some "d") none)])).Answered := by
  intro h
  obtain ⟨command, hcommand, -, hmem⟩ := h 4 1 (some "d") (.head _)
  obtain rfl := List.mem_singleton.mp hcommand
  revert hmem
  decide

end Tunnel

end FireIsp.Relay
