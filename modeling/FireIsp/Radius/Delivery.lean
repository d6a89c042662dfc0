import FireIsp.Radius.Replay

/-!
# Deliveries

Runs of packets. A packet that states its event time reads the same whenever it is delivered, or
is refused. So after a run of packets in order, redelivered packets change no usage; out of order,
two packets of one time that alternate are counted again and again.
-/

namespace FireIsp.Radius

open Transition

variable {env : Env} {directory : Directory} {state : State} {o : Observation}

/-- The event time is within the clock skew allowed at `now`. -/
def Timely (env : Env) (now : Int) (attrs : Attrs) : Prop :=
  ∀ timestamp ∈ attrs.eventTimestamp, ∀ date ∈ timestamp.date, date ≤ now + env.futureSkew

variable {now : Int} {attrs : Attrs}

theorem observedEventAt_timely (now' : Int) (hexplicit : attrs.eventTimestamp.isSome)
    (htimely : Timely env now attrs) :
    (∃ invalid, observedEventAt env now' attrs = .error invalid) ∨
      observedEventAt env now' attrs = observedEventAt env now attrs := by
  obtain ⟨timestamp, htimestamp⟩ := Option.isSome_iff_exists.mp hexplicit
  simp only [observedEventAt, htimestamp, normalizeEventTimestamp]
  cases hdate : timestamp.date with
  | none => exact Or.inr rfl
  | some date =>
    have hnow : ¬now + env.futureSkew < date := Int.not_lt.mpr (htimely _ htimestamp _ hdate)
    by_cases hrange : date < 0 ∨ maximumTimestamp < date
    · have hrange' : ∀ time : Int,
          date < 0 ∨ maximumTimestamp < date ∨ time + env.futureSkew < date := by
        intro time
        omega
      left
      simp only [if_pos (hrange' now')]
      exact ⟨_, rfl⟩
    · by_cases hnow' : now' + env.futureSkew < date
      · left
        simp only [hnow', or_true, if_true]
        exact ⟨_, rfl⟩
      · have hbad : ¬(date < 0 ∨ maximumTimestamp < date ∨ now + env.futureSkew < date) := by
          omega
        have hbad' : ¬(date < 0 ∨ maximumTimestamp < date ∨ now' + env.futureSkew < date) := by
          omega
        right
        simp only [if_neg hbad, if_neg hbad']

theorem observe_of_eventAt {invalid : Invalid}
    (h : observedEventAt env now attrs = .error invalid) :
    ∃ invalid', observe env directory now attrs = .error invalid' := by
  simp only [observe, h, bind, Except.bind]
  cases checkAttrs env attrs with
  | error invalid' => exact ⟨invalid', rfl⟩
  | ok ipv6Prefix =>
    simp only
    cases resolveNas env directory attrs with
    | error invalid' => exact ⟨invalid', rfl⟩
    | ok resolved =>
      simp only
      cases octetTotal attrs.acctInputOctets attrs.acctInputGigawords with
      | error invalid' => exact ⟨invalid', rfl⟩
      | ok bytesIn =>
        simp only
        cases octetTotal attrs.acctOutputOctets attrs.acctOutputGigawords with
        | error invalid' => exact ⟨invalid', rfl⟩
        | ok bytesOut => exact ⟨invalid, rfl⟩

theorem observe_again (directory : Directory) (now' : Int) (hexplicit : attrs.eventTimestamp.isSome)
    (htimely : Timely env now attrs) :
    (∃ invalid, observe env directory now' attrs = .error invalid) ∨
      observe env directory now' attrs = observe env directory now attrs := by
  rcases observedEventAt_timely now' hexplicit htimely with ⟨invalid, herror⟩ | hsame
  · exact Or.inl (observe_of_eventAt herror)
  · right
    simp only [observe, hsame]

theorem observe_explicit (h : observe env directory now attrs = .ok o) :
    o.hasExplicitEventTimestamp = attrs.eventTimestamp.isSome := by
  simp only [observe, bind, Except.bind] at h
  repeat' split at h
  all_goals cases h
  rfl

/-- Tables, and the observations of the packets delivered so far. -/
structure Delivery where
  state : State
  sent : List Observation

def deliver (env : Env) (directory : Directory) (d : Delivery) (packet : Int × Attrs) :
    Delivery where
  state := ingest env directory d.state packet
  sent :=
    match observe env directory packet.1 packet.2 with
    | .ok o => d.sent ++ [o]
    | .error _ => d.sent

def InOrder (env : Env) (directory : Directory) (d : Delivery) (packet : Int × Attrs) : Prop :=
  Timely env packet.1 packet.2 ∧
    ∀ o ∈ (observe env directory packet.1 packet.2).toOption,
      ObservedInOrder env d.state.logs d.sent o

instance (env : Env) (now : Int) (attrs : Attrs) : Decidable (Timely env now attrs) :=
  inferInstanceAs (Decidable (∀ timestamp ∈ attrs.eventTimestamp, ∀ date ∈ timestamp.date, _))

instance (env : Env) (directory : Directory) (d : Delivery) (packet : Int × Attrs) :
    Decidable (InOrder env directory d packet) :=
  inferInstanceAs (Decidable (_ ∧ _))

/-- Tables in which every packet delivered so far is settled. -/
structure Delivered (env : Env) (d : Delivery) : Prop extends Kept env d.state d.sent where
  explicit : ∀ o ∈ d.sent, o.hasExplicitEventTimestamp = true

variable {d : Delivery}

theorem Delivered.packet {packet : Int × Attrs} (h : Delivered env d)
    (hexplicit : packet.2.eventTimestamp.isSome) (horder : InOrder env directory d packet) :
    Delivered env (deliver env directory d packet) := by
  cases hobserve : observe env directory packet.1 packet.2 with
  | error invalid =>
    have hsame : deliver env directory d packet = d := by
      simp only [deliver, hobserve, ingest_invalid hobserve]
    rwa [hsame]
  | ok o =>
    have hsame : deliver env directory d packet =
        ⟨d.state.take env o, d.sent ++ [o]⟩ := by
      simp only [deliver, hobserve, ingest_observe hobserve]
    have hstated : o.hasExplicitEventTimestamp = true :=
      (observe_explicit hobserve).trans hexplicit
    rw [hsame]
    have hread : o ∈ (observe env directory packet.1 packet.2).toOption := by
      rw [hobserve]
      rfl
    refine ⟨h.toKept.take hstated (horder.2 o hread), fun p hp => ?_⟩
    rcases List.mem_append.mp hp with hp | hp
    · exact h.explicit p hp
    · rwa [List.mem_singleton.mp hp]

theorem sent_run {packets : List (Int × Attrs)} (h : o ∈ d.sent) :
    o ∈ (run (deliver env directory) d packets).sent := by
  have hstep : ∀ (d : Delivery) (packet : Int × Attrs), o ∈ d.sent →
      o ∈ (deliver env directory d packet).sent := by
    intro d packet hmem
    unfold deliver
    split
    · exact List.mem_append_left _ hmem
    · exact hmem
  exact run_preserves (I := fun d : Delivery => o ∈ d.sent) hstep h packets

theorem state_run {packets : List (Int × Attrs)} :
    (run (deliver env directory) d packets).state =
      run (ingest env directory) d.state packets := by
  induction packets generalizing d with
  | nil => rfl
  | cons packet packets ih => exact ih

theorem Delivered.packets {packets : List (Int × Attrs)} (h : Delivered env d)
    (hexplicit : ∀ packet ∈ packets, packet.2.eventTimestamp.isSome)
    (horder : Along (deliver env directory) (InOrder env directory) d packets) :
    Delivered env (run (deliver env directory) d packets) ∧
      ∀ packet ∈ packets, ∀ now,
        (∃ invalid, observe env directory now packet.2 = .error invalid) ∨
          ∃ o ∈ (run (deliver env directory) d packets).sent,
            observe env directory now packet.2 = .ok o := by
  induction packets generalizing d with
  | nil => exact ⟨h, fun _ hpacket => absurd hpacket List.not_mem_nil⟩
  | cons first packets ih =>
    obtain ⟨hfirst, hrest⟩ := horder
    have hstated := hexplicit first List.mem_cons_self
    obtain ⟨hkept, hread⟩ := ih (h.packet hstated hfirst)
      (fun packet hpacket => hexplicit packet (List.mem_cons_of_mem _ hpacket)) hrest
    refine ⟨hkept, fun packet hpacket now => ?_⟩
    rcases List.mem_cons.mp hpacket with rfl | hpacket
    · rcases observe_again directory now hstated hfirst.1 with herror | hsame
      · exact Or.inl herror
      · cases hobserve : observe env directory packet.1 packet.2 with
        | error invalid => exact Or.inl ⟨invalid, hsame.trans hobserve⟩
        | ok o =>
          have hsent : o ∈ (deliver env directory d packet).sent := by
            simp only [deliver, hobserve]
            exact List.mem_append_right _ List.mem_cons_self
          have hend : o ∈ (run (deliver env directory) (deliver env directory d packet)
              packets).sent := sent_run hsent
          exact Or.inr ⟨o, hend, hsame.trans hobserve⟩
    · exact hread packet hpacket now

theorem redelivery_unchanged (htidy : Tidy env state) {packets : List (Int × Attrs)}
    (hexplicit : ∀ packet ∈ packets, packet.2.eventTimestamp.isSome)
    (horder : Along (deliver env directory) (InOrder env directory) ⟨state, []⟩ packets)
    (again : List (Int × Attrs)) (hagain : ∀ packet ∈ again, packet.2 ∈ packets.map Prod.snd) :
    run (ingest env directory) (run (ingest env directory) state packets) again =
      run (ingest env directory) state packets := by
  have hinit : Delivered env ⟨state, []⟩ := ⟨⟨htidy, fun _ ho => absurd ho List.not_mem_nil⟩,
    fun _ ho => absurd ho List.not_mem_nil⟩
  obtain ⟨hend, hread⟩ := hinit.packets hexplicit horder
  have hstate : (run (deliver env directory) ⟨state, []⟩ packets).state =
      run (ingest env directory) state packets := state_run
  rw [← hstate]
  generalize run (deliver env directory) ⟨state, []⟩ packets = d at hend hread
  induction again with
  | nil => rfl
  | cons packet again ih =>
    obtain ⟨sentPacket, hsent, hattrs⟩ :=
      List.mem_map.mp (hagain packet List.mem_cons_self)
    have hfirst : ingest env directory d.state packet = d.state := by
      rcases hread sentPacket hsent packet.1 with ⟨invalid, herror⟩ | ⟨o, ho, hobserve⟩
      · rw [hattrs] at herror
        exact ingest_invalid herror
      · rw [hattrs] at hobserve
        obtain ⟨row, htop, hkey, hsettled⟩ := hend.settled o ho
        rw [ingest_observe hobserve]
        exact take_settled (currentRow_of_top htop hkey) (hend.explicit o ho) hsettled
    rw [run_cons, hfirst]
    exact ih fun packet hpacket => hagain packet (List.mem_cons_of_mem _ hpacket)

/-- Packets in order and redeliveries of them leave every usage row as it was. -/
theorem redelivery_keeps_usage (env : Env) (directory : Directory) {state : State}
    (htidy : Tidy env state) {packets : List (Int × Attrs)}
    (hexplicit : ∀ packet ∈ packets, packet.2.eventTimestamp.isSome)
    (horder : Along (deliver env directory) (InOrder env directory) ⟨state, []⟩ packets)
    (again : List (Int × Attrs)) (hagain : ∀ packet ∈ again, packet.2 ∈ packets.map Prod.snd) :
    (run (ingest env directory) (run (ingest env directory) state packets) again).usage =
      (run (ingest env directory) state packets).usage := by
  rw [redelivery_unchanged htidy hexplicit horder again hagain]

/-- Usage of a tenant over the days of a period. -/
def usageTotal (rows : List UsageRow) (organizationId : Nat) (period : Nat → Bool)
    (field : UsageField) : Nat :=
  ((rows.filter fun row => decide (row.organizationId = organizationId) && period row.usageDate).map
    fun row => row.deltas.get field).sum

/-- A runtime with IPv4 addresses only. -/
def plainEnv : Env where
  isIP := fun text => if text = "10.0.0.1" then 4 else 0
  urlHost := fun _ => none
  collate := id
  tieOrder := id
  maxClockSkewSeconds := 300
  sessionLivenessMinutes := 60

/-- One NAS with one subscriber. -/
def plainDirectory : Directory := ⟨[⟨1, 1, "10.0.0.1", true⟩], [⟨1, "u1", 7, 3, true⟩]⟩

/-- No accounting yet. -/
def emptyState : State := ⟨1, [], [], []⟩

/-- A packet of one session, received at its event time. -/
def samplePacket (acctStatusType : String) (seconds octets : Nat) : Int × Attrs :=
  (seconds * 1000, {
    acctStatusType := acctStatusType
    userName := "u1"
    acctSessionId := "s1"
    nasIpAddress := "10.0.0.1"
    nasPortId := none
    calledStationId := none
    callingStationId := none
    framedIpAddress := none
    framedIpv6Prefix := none
    acctInputOctets := some octets
    acctOutputOctets := some 0
    acctInputGigawords := none
    acctOutputGigawords := none
    acctSessionTime := none
    acctTerminateCause := none
    acctInputOctetsV6 := none
    acctOutputOctetsV6 := none
    acctInputPackets := none
    acctOutputPackets := none
    eventTimestamp := some (.number seconds)
    acctDelayTime := none
    organizationId := 1
    nasId := none })

/-- A session in order: Start, two reports, Stop. -/
def samplePackets : List (Int × Attrs) :=
  [samplePacket "Start" 1770000000 0, samplePacket "Interim-Update" 1770000060 100,
    samplePacket "Interim-Update" 1770000120 250, samplePacket "Stop" 1770000180 300]

theorem emptyState_tidy : Tidy env emptyState := by
  have hnone : ∀ {α : Type} (x : α), x ∉ ([] : List α) := fun x => List.not_mem_nil
  exact ⟨⟨List.nodup_nil, List.nodup_nil, fun row hrow => absurd hrow (hnone row),
    fun row hrow => absurd hrow (hnone row), List.nodup_nil⟩,
    fun row hrow => absurd hrow (hnone row), fun row hrow => absurd hrow (hnone row)⟩

/-- A session in order is counted once, whatever is redelivered. -/
theorem redelivery_keeps_usage_sample :
    (run (ingest plainEnv plainDirectory)
        (run (ingest plainEnv plainDirectory) emptyState samplePackets)
        [samplePacket "Stop" 1770000180 300, samplePacket "Start" 1770000000 0,
          samplePacket "Interim-Update" 1770000060 100]).usage =
      (run (ingest plainEnv plainDirectory) emptyState samplePackets).usage :=
  redelivery_keeps_usage plainEnv plainDirectory emptyState_tidy (by decide)
    (by decide) _ (by decide)

/-- Two reports of one time with other counters: a redelivered one adds its usage again. -/
theorem redelivery_adds_usage :
    ¬∀ (env : Env) (directory : Directory) (state : State) (packets again : List (Int × Attrs)),
      Tidy env state → (∀ packet ∈ packets, packet.2.eventTimestamp.isSome) →
      (∀ packet ∈ again, packet.2 ∈ packets.map Prod.snd) →
      ∀ (organizationId : Nat) (period : Nat → Bool) (field : UsageField),
        usageTotal (run (ingest env directory) (run (ingest env directory) state packets)
            again).usage organizationId period field =
          usageTotal (run (ingest env directory) state packets).usage organizationId period
            field := by
  intro h
  have hsame := h plainEnv plainDirectory emptyState
    [samplePacket "Start" 1770000000 0, samplePacket "Interim-Update" 1770000060 200,
      samplePacket "Interim-Update" 1770000060 100]
    [samplePacket "Interim-Update" 1770000060 200] emptyState_tidy (by decide) (by decide) 1
    (fun _ => true) .bytesIn
  revert hsame
  decide

end FireIsp.Radius
