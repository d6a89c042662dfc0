import FireIsp.Relay.Tunnel

/-!
# Who is registered

The socket that is registered for a node is the one that authenticated last and has not closed.
-/

namespace FireIsp.Relay

namespace Tunnel

variable {config : Config} {t t' : Tunnel}

/-- A socket has authenticated for the node. -/
def isFor (nodeId : String) (entry : Nat × String) : Bool := entry.2 = nodeId

/-- The socket that authenticated last for a node. -/
def latest (t : Tunnel) (nodeId : String) : Option Nat :=
  (t.authentications.find? (isFor nodeId)).map Prod.fst

def Unclosed (t : Tunnel) (socket : Nat) : Prop :=
  ∃ ws, t.sockets socket = some ws ∧ ws.readyState ≠ .closed

/-- The sockets and what is registered stay. -/
structure SameRegistry (t t' : Tunnel) : Prop where
  tick : t'.tick = t.tick
  sockets : t'.sockets = t.sockets
  agents : t'.agents = t.agents
  authentications : t'.authentications = t.authentications

structure Registry (t : Tunnel) : Prop where
  past : ∀ socket ws, t.sockets socket = some ws → socket < t.tick
  named : ∀ socket ws nodeId, t.sockets socket = some ws →
    (ws.nodeId = some nodeId ↔ (socket, nodeId) ∈ t.authentications)
  connected : ∀ entry ∈ t.authentications, (t.sockets entry.1).isSome
  registered : ∀ nodeId socket, t.agents nodeId = some socket ↔
    t.latest nodeId = some socket ∧ t.Unclosed socket

theorem Registry.same (h : t.Registry) (htick : t.tick ≤ t'.tick)
    (hsockets : ∀ socket, (t'.sockets socket).map Socket.nodeId =
      (t.sockets socket).map Socket.nodeId)
    (hunclosed : ∀ socket, t'.Unclosed socket ↔ t.Unclosed socket)
    (hagents : t'.agents = t.agents) (hauthentications : t'.authentications = t.authentications) :
    t'.Registry := by
  have hfound : ∀ {socket ws}, t'.sockets socket = some ws →
      ∃ old, t.sockets socket = some old ∧ old.nodeId = ws.nodeId := by
    intro socket ws hws
    have hmap := hsockets socket
    rw [hws, Option.map_some] at hmap
    obtain ⟨old, hold, hname⟩ := Option.map_eq_some_iff.mp hmap.symm
    exact ⟨old, hold, hname⟩
  refine ⟨fun socket ws hws => ?_, fun socket ws nodeId hws => ?_, fun entry hentry => ?_,
    fun nodeId socket => ?_⟩
  · obtain ⟨old, hold, -⟩ := hfound hws
    exact Nat.lt_of_lt_of_le (h.past socket old hold) htick
  · obtain ⟨old, hold, hname⟩ := hfound hws
    rw [← hname, hauthentications]
    exact h.named socket old nodeId hold
  · rw [hauthentications] at hentry
    rw [← Option.isSome_map, hsockets, Option.isSome_map]
    exact h.connected entry hentry
  · unfold latest
    rw [hagents, hauthentications, hunclosed]
    exact h.registered nodeId socket

variable {socket : Nat}

theorem unclosed_closing (h : t.Unclosed socket) (other : Nat) :
    (t.setState socket .closing).Unclosed other ↔ t.Unclosed other := by
  unfold Unclosed
  by_cases hother : other = socket
  · subst hother
    obtain ⟨ws, hws, hstate⟩ := h
    rw [setState_self, hws, Option.map_some]
    constructor
    · exact fun _ => ⟨ws, rfl, hstate⟩
    · exact fun _ => ⟨_, rfl, nofun⟩
  · rw [setState_other t _ hother]

theorem nodeId_setState (socket : Nat) (readyState : ReadyState) (other : Nat) :
    ((t.setState socket readyState).sockets other).map Socket.nodeId =
      (t.sockets other).map Socket.nodeId := by
  by_cases hother : other = socket
  · subst hother
    rw [setState_self, Option.map_map]
    rfl
  · rw [setState_other t _ hother]

theorem Registry.closing (h : t.Registry) (hopen : t.Unclosed socket) :
    (t.setState socket .closing).Registry :=
  h.same (Nat.le_refl _) (nodeId_setState socket .closing) (unclosed_closing hopen) rfl rfl

theorem Registry.connects (h : t.Registry) :
    ({ t with
      sockets := Function.update t.sockets t.tick (some ⟨.open_, none⟩)
      tick := t.tick + 1 } : Tunnel).Registry := by
  have hnone : t.sockets t.tick = none := by
    cases hws : t.sockets t.tick with
    | none => rfl
    | some ws => exact absurd (h.past _ ws hws) (Nat.lt_irrefl _)
  have hnever : ∀ nodeId, (t.tick, nodeId) ∉ t.authentications := by
    intro nodeId hmem
    have hsome := h.connected _ hmem
    rw [hnone] at hsome
    cases hsome
  refine ⟨fun socket ws hws => ?_, fun socket ws nodeId hws => ?_, fun entry hentry => ?_,
    fun nodeId socket => ?_⟩
  · dsimp only at hws
    by_cases hsocket : socket = t.tick
    · exact hsocket ▸ Nat.lt_succ_self _
    · rw [Function.update_of_ne hsocket] at hws
      exact Nat.lt_succ_of_lt (h.past socket ws hws)
  · dsimp only at hws
    by_cases hsocket : socket = t.tick
    · subst hsocket
      rw [Function.update_self] at hws
      obtain rfl := Option.some.inj hws
      exact ⟨nofun, fun hmem => absurd hmem (hnever nodeId)⟩
    · rw [Function.update_of_ne hsocket] at hws
      exact h.named socket ws nodeId hws
  · dsimp only
    by_cases hentry' : entry.1 = t.tick
    · exact absurd (hentry' ▸ hentry) (hnever entry.2)
    · rw [Function.update_of_ne hentry']
      exact h.connected entry hentry
  · refine (h.registered nodeId socket).trans (and_congr_right fun hlatest => ?_)
    obtain ⟨entry, hfound, hsocket⟩ := Option.map_eq_some_iff.mp hlatest
    have hne : socket ≠ t.tick := by
      rintro rfl
      exact hnever entry.2 (hsocket ▸ List.mem_of_find?_eq_some hfound)
    unfold Unclosed
    dsimp only
    rw [Function.update_of_ne hne]

variable {ws : Socket}

theorem Registry.register (h : t.Registry) (nodeId : String) (hws : t.sockets socket = some ws)
    (hname : ws.nodeId = none) (hopen : ws.readyState ≠ .closed) :
    (t.register socket nodeId).Registry := by
  have hself : (t.register socket nodeId).sockets socket =
      some { ws with nodeId := some nodeId } := by
    rw [register_self, hws]
    rfl
  have hother : ∀ {other}, other ≠ socket →
      (t.register socket nodeId).sockets other = t.sockets other := t.register_other nodeId
  have hunclosed : ∀ other, (t.register socket nodeId).Unclosed other ↔ t.Unclosed other := by
    intro other
    unfold Unclosed
    by_cases hne : other = socket
    · subst hne
      rw [hself, hws]
      exact ⟨fun _ => ⟨ws, rfl, hopen⟩, fun _ => ⟨_, rfl, hopen⟩⟩
    · rw [hother hne]
  refine ⟨fun other ws' hws' => ?_, fun other ws' name hws' => ?_, fun entry hentry => ?_,
    fun name other => ?_⟩
  · by_cases hne : other = socket
    · exact hne ▸ h.past socket ws hws
    · exact h.past other ws' (hother hne ▸ hws')
  · change ws'.nodeId = some name ↔ (other, name) ∈ (socket, nodeId) :: t.authentications
    by_cases hne : other = socket
    · subst hne
      obtain rfl := Option.some.inj (hself.symm.trans hws')
      constructor
      · intro hname'
        obtain rfl := Option.some.inj hname'
        exact List.mem_cons_self
      · intro hmem
        rcases List.mem_cons.mp hmem with heq | hmem
        · exact congrArg some (Prod.mk.inj heq).2.symm
        · rw [← h.named other ws name hws, hname] at hmem
          cases hmem
    · rw [h.named other ws' name (hother hne ▸ hws'), List.mem_cons]
      exact ⟨Or.inr, fun hmem => hmem.resolve_left fun heq => hne (Prod.mk.inj heq).1⟩
  · by_cases hne : entry.1 = socket
    · rw [hne, hself]
      rfl
    · rw [hother hne]
      rcases List.mem_cons.mp hentry with rfl | hentry
      · exact absurd rfl hne
      · exact h.connected entry hentry
  · rw [hunclosed]
    by_cases hnode : name = nodeId
    · subst hnode
      have hagents : (t.register socket name).agents name = some socket :=
        Function.update_self _ _ _
      have hlatest : (t.register socket name).latest name = some socket := by
        have hfirst : isFor name (socket, name) = true := decide_eq_true rfl
        change (((socket, name) :: t.authentications).find? (isFor name)).map Prod.fst = some socket
        rw [List.find?_cons_of_pos hfirst]
        rfl
      rw [hagents, hlatest]
      refine ⟨fun heq => ⟨heq, Option.some.inj heq ▸ ⟨ws, hws, hopen⟩⟩, And.left⟩
    · have hagents : (t.register socket nodeId).agents name = t.agents name :=
        Function.update_of_ne hnode _ _
      have hlatest : (t.register socket nodeId).latest name = t.latest name := by
        have hfirst : ¬isFor name (socket, nodeId) = true :=
          fun heq => hnode (of_decide_eq_true heq).symm
        change (((socket, nodeId) :: t.authentications).find? (isFor name)).map Prod.fst =
          t.latest name
        rw [List.find?_cons_of_neg hfirst]
        rfl
      rw [hagents, hlatest]
      exact h.registered name other

theorem Registry.mem (h : t.Registry) {nodeId : String} (hagent : t.agents nodeId = some socket) :
    (socket, nodeId) ∈ t.authentications := by
  obtain ⟨entry, hfound, hsocket⟩ := Option.map_eq_some_iff.mp ((h.registered _ _).mp hagent).1
  have hname : isFor nodeId entry = true := List.find?_some hfound
  obtain rfl : entry.2 = nodeId := of_decide_eq_true hname
  exact hsocket ▸ List.mem_of_find?_eq_some hfound

theorem Registry.closed (h : t.Registry)
    (hsockets : t'.sockets = (t.setState socket .closed).sockets)
    (hauthentications : t'.authentications = t.authentications) (htick : t'.tick = t.tick)
    (hagents : ∀ nodeId, t'.agents nodeId = if t.agents nodeId = some socket then none
      else t.agents nodeId) : t'.Registry := by
  have hmap : ∀ other, (t'.sockets other).map Socket.nodeId =
      (t.sockets other).map Socket.nodeId := by
    intro other
    rw [hsockets]
    exact nodeId_setState socket .closed other
  have hfound : ∀ {other ws}, t'.sockets other = some ws →
      ∃ old, t.sockets other = some old ∧ old.nodeId = ws.nodeId := by
    intro other ws hws
    have hother := hmap other
    rw [hws, Option.map_some] at hother
    obtain ⟨old, hold, hname⟩ := Option.map_eq_some_iff.mp hother.symm
    exact ⟨old, hold, hname⟩
  have hunclosed : ∀ other, t'.Unclosed other ↔ t.Unclosed other ∧ other ≠ socket := by
    intro other
    unfold Unclosed
    rw [hsockets]
    by_cases hother : other = socket
    · subst hother
      rw [setState_self]
      refine ⟨?_, fun h => absurd rfl h.2⟩
      rintro ⟨ws, hws, hstate⟩
      obtain ⟨old, -, rfl⟩ := Option.map_eq_some_iff.mp hws
      exact absurd rfl hstate
    · rw [setState_other t _ hother]
      exact (and_iff_left hother).symm
  refine ⟨fun other ws hws => ?_, fun other ws nodeId hws => ?_, fun entry hentry => ?_,
    fun nodeId other => ?_⟩
  · obtain ⟨old, hold, -⟩ := hfound hws
    exact htick ▸ h.past other old hold
  · obtain ⟨old, hold, hname⟩ := hfound hws
    rw [← hname, hauthentications]
    exact h.named other old nodeId hold
  · rw [hauthentications] at hentry
    rw [← Option.isSome_map, hmap, Option.isSome_map]
    exact h.connected entry hentry
  · have hlatest : t'.latest nodeId = t.latest nodeId := by
      unfold latest
      rw [hauthentications]
    rw [hagents, hlatest, hunclosed, ← and_assoc, ← h.registered]
    split_ifs with hagent
    · refine ⟨nofun, fun hother => ?_⟩
      exact absurd (Option.some.inj (hother.1.symm.trans hagent)) hother.2
    · refine ⟨fun hother => ⟨hother, ?_⟩, And.left⟩
      rintro rfl
      exact hagent hother

theorem sameRegistry_sendCommand (command : Command) (thrown : Option String) :
    SameRegistry t (t.sendCommand command thrown) := by
  unfold Tunnel.sendCommand
  split
  · exact ⟨rfl, rfl, rfl, rfl⟩
  · split_ifs
    · split <;> exact ⟨rfl, rfl, rfl, rfl⟩
    · exact ⟨rfl, rfl, rfl, rfl⟩

theorem Registry.of_same (h : t.Registry) (hsame : SameRegistry t t') : t'.Registry := by
  obtain ⟨htick, hsockets, hagents, hauthentications⟩ := hsame
  refine h.same (Nat.le_of_eq htick.symm) (fun socket => by rw [hsockets]) (fun socket => ?_) hagents hauthentications
  unfold Unclosed
  rw [hsockets]

theorem Registry.later (h : t.Registry) : ({ t with tick := t.tick + 1 } : Tunnel).Registry :=
  h.same (Nat.le_succ _) (fun _ => rfl) (fun _ => Iff.rfl) rfl rfl

theorem Registry.handleAuth (h : t.Registry) (hws : t.sockets socket = some ws)
    (hname : ws.nodeId = none) (hopen : ws.readyState ≠ .closed) (message : Message) :
    (t.handleAuth config socket message).Registry := by
  have hsent : ∀ {t : Tunnel} {socket : Nat} {frame : Frame}, t.Registry →
      (t.send socket frame).Registry :=
    fun h => h.of_same ⟨rfl, rfl, rfl, rfl⟩
  have hrefused : ∀ reason code closeReason, (t.refuse socket reason code closeReason).Registry :=
    fun _ _ _ => (hsent (hsent h)).closing ⟨ws, hws, hopen⟩
  cases message with
  | auth nodeId token =>
    cases nodeId with
    | none => exact hrefused _ _ _
    | some nodeId =>
      unfold Tunnel.handleAuth
      dsimp only
      split_ifs
      · exact hrefused _ _ _
      · exact hrefused _ _ _
      · refine hsent ?_
        unfold replace
        cases hexisting : t.agents nodeId with
        | none => exact h.register nodeId hws hname hopen
        | some existing =>
          have hunclosed := ((h.registered nodeId existing).mp hexisting).2
          have hne : socket ≠ existing := by
            rintro rfl
            rw [(h.named socket ws nodeId hws).mpr (h.mem hexisting)] at hname
            cases hname
          have hclosing : (t.close existing 4010 "Replaced by new connection").Registry :=
            (hsent h).closing hunclosed
          refine hclosing.register nodeId ?_ hname hopen
          exact (setState_other _ _ hne).trans hws
  | malformed => exact hrefused _ _ _
  | response id ok data error => exact hrefused _ _ _
  | other => exact hrefused _ _ _

theorem Registry.disconnect (h : t.Registry) (hws : t.sockets socket = some ws) :
    (match ws.nodeId with
      | some nodeId => (t.setState socket .closed).onAgentDisconnect socket nodeId
      | none => t.setState socket .closed).Registry := by
  have hnamed : ∀ {nodeId}, t.agents nodeId = some socket → ws.nodeId = some nodeId :=
    fun hagent => (h.named socket ws _ hws).mpr (h.mem hagent)
  cases hname : ws.nodeId with
  | none =>
    refine h.closed rfl rfl rfl fun other => ?_
    rw [if_neg fun hagent => by rw [hname] at hnamed; exact nomatch hnamed hagent]
    rfl
  | some nodeId =>
    have hother : ∀ other, other ≠ nodeId → t.agents other ≠ some socket := fun other hne hagent =>
      hne (Option.some.inj ((hnamed hagent).symm.trans hname))
    dsimp only
    unfold onAgentDisconnect
    split_ifs with hagent
    · refine h.closed rfl rfl rfl fun other => ?_
      change Function.update t.agents nodeId none other = _
      by_cases hne : other = nodeId
      · subst hne
        rw [Function.update_self]
        exact (if_pos hagent).symm
      · rw [Function.update_of_ne hne]
        exact (if_neg (hother other hne)).symm
    · refine h.closed rfl rfl rfl fun other => ?_
      by_cases hne : other = nodeId
      · subst hne
        exact (if_neg hagent).symm
      · exact (if_neg (hother other hne)).symm

end Tunnel

end FireIsp.Relay
