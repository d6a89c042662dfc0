import FireIsp.Cgnat.Exclusive

/-!
# Batches one after another

What one event of a batch does to the tables when no other session interleaves: it is refused,
recognized as stored before, or recorded with its declaration moved on.  A refused batch leaves
every table as it was.
-/

namespace FireIsp.Cgnat

open Txn Fallible

/-- A batch makes no outside calls. -/
def noWorld (_ : Nat) (query : Empty) : Empty := query.elim

/-- All but the bindings and the tuple locks are the same. -/
structure SameEvents (before after : Db) : Prop where
  configs : after.configs = before.configs
  events : after.events = before.events
  sessions : after.sessions = before.sessions
  evidence : after.evidence = before.evidence
  receipts : after.receipts = before.receipts

theorem SameEvents.refl (db : Db) : SameEvents db db := ⟨rfl, rfl, rfl, rfl, rfl⟩

theorem SameEvents.trans {a b c : Db} (hab : SameEvents a b) (hbc : SameEvents b c) :
    SameEvents a c :=
  ⟨hbc.configs.trans hab.configs, hbc.events.trans hab.events, hbc.sessions.trans hab.sessions,
    hbc.evidence.trans hab.evidence, hbc.receipts.trans hab.receipts⟩

section Quiet

variable {grace : Int} {A B : Type}

/-- A statement that writes neither events nor declarations nor receipts. -/
def Stmt.KeepsEvents : Stmt → Prop
  | .insertEvent _ => False
  | .updateConfig .. => False
  | .insertReceipt _ => False
  | _ => True

theorem sameEvents_exec {op : Stmt} (hop : op.KeepsEvents) (tick : Nat) (work : Db) :
    SameEvents work ((engine grace).visible work (exec grace op tick work work).2) := by
  cases op with
  | insertEvent row => exact hop.elim
  | updateConfig id org advance => exact hop.elim
  | insertReceipt row => exact hop.elim
  | insertTupleLock key => exact ⟨rfl, rfl, rfl, rfl, rfl⟩
  | insertBinding row =>
    simp only [exec]
    split
    · exact ⟨rfl, rfl, rfl, rfl, rfl⟩
    · exact .refl work
  | updateBinding id org release =>
    simp only [exec]
    split
    · exact .refl work
    · exact ⟨rfl, rfl, rfl, rfl, rfl⟩
  | _ => exact .refl work

/-- The program changes nothing but bindings and tuple locks. -/
def Quiet (grace : Int) (p : Request A) : Prop :=
  ∀ tick db work, Ensures (engine grace) noWorld p tick db work fun _ tick' copy =>
    tick ≤ tick' ∧ SameEvents work copy

theorem quiet_pure (value : A) : Quiet grace (pure value) :=
  fun tick _ work => ensures_pure ⟨Nat.le_refl tick, .refl work⟩

theorem quiet_bind {p : Request A} {f : A → Request B} (hp : Quiet grace p)
    (hf : ∀ r, Quiet grace (f r)) : Quiet grace (p >>= f) :=
  fun tick db work => ensures_bind <| (hp tick db work).mono fun r tick' copy h =>
    (hf r tick' db copy).mono fun _ _ _ h' => ⟨h.1.trans h'.1, h.2.trans h'.2⟩

theorem quiet_execute {op : Stmt} {f : op.Res → Request A} (hop : op.KeepsEvents)
    (hf : ∀ r, Quiet grace (f r)) : Quiet grace (execute op >>= f) :=
  fun tick db work => ensures_conn <| (hf _ (tick + 1) db _).mono fun _ _ _ h =>
    ⟨Nat.le_of_succ_le h.1, (sameEvents_exec hop tick work).trans h.2⟩

theorem quiet_applyEvent (org : Nat) (config : ExporterConfig) (binding : Binding)
    (status : SequenceStatus) : Quiet grace (applyEvent org config binding status) := by
  unfold applyEvent
  split
  · refine quiet_execute trivial fun rows => ?_
    split
    · split
      · exact quiet_pure _
      · split
        · exact quiet_pure _
        · split
          · exact quiet_pure _
          · refine quiet_execute trivial fun covering => ?_
            split
            · exact quiet_pure _
            · refine quiet_execute trivial fun affected => ?_
              match affected with
              | 0 => exact quiet_pure _
              | 1 => exact quiet_pure _
              | _ + 2 => exact quiet_pure _
    · exact quiet_pure _
  · refine quiet_execute trivial fun rows => ?_
    split
    · exact quiet_pure _
    · refine quiet_bind ?_ fun session => ?_
      · refine quiet_execute trivial fun sessions => ?_
        split
        · split
          · refine quiet_execute trivial fun evidence => ?_
            split
            · exact quiet_pure _
            · exact quiet_pure _
          · exact quiet_pure _
        · exact quiet_pure _
      · cases session with
        | error e => exact quiet_pure _
        | ok session =>
          refine quiet_bind ?_ fun checked => ?_
          · refine quiet_execute trivial fun _ => quiet_execute trivial fun _ =>
              quiet_execute trivial fun overlaps => ?_
            split
            · exact quiet_pure _
            · exact quiet_pure _
          · cases checked with
            | error e => exact quiet_pure _
            | ok u =>
              refine quiet_execute trivial fun inserted => ?_
              split
              · exact quiet_pure _
              · exact quiet_pure _

end Quiet

section Event

/-- Declaration ids are distinct, exporters are declared once, and events stored once. -/
structure Db.Keyed (db : Db) : Prop where
  configs : Table.Keyed ExporterConfig.id db.configs
  identities : ∀ c ∈ db.configs, ∀ d ∈ db.configs, c.organizationId = d.organizationId →
    c.exporter = d.exporter → c = d
  events : Table.Keyed EventRow.id db.events
  replays : ∀ e ∈ db.events, ∀ f ∈ db.events,
    f.isEvent e.organizationId e.exporterConfigId e.exporterBootId e.eventId = true → e = f

def Db.bootSeen (db : Db) (org configId : Nat) (bootId : String) : Bool :=
  (db.events.find? fun e => decide (e.organizationId = org ∧ e.exporterConfigId = configId ∧
    e.exporterBootId = bootId)).isSome

/-- `bootSeenBefore` on given tables. -/
def Db.bootSeenBefore (db : Db) (org : Nat) (config : ExporterConfig) (binding : Binding) : Bool :=
  config.lastExporterBootId.any (· ≠ binding.exporterBootId) &&
    db.bootSeen org config.id binding.exporterBootId

/-- The tables once an event of a declaration was recorded. -/
structure Recorded (canonicalPayloadHash : Nat → Binding → String) (org token tick tick' : Nat)
    (binding : Binding) (config : ExporterConfig) (before after : Db) : Prop where
  fresh : before.events.find?
    (EventRow.isEvent org config.id binding.exporterBootId binding.eventId) = none
  events : ∃ id bindingId, tick ≤ id ∧ id < tick' ∧
    after.events = Table.put EventRow.id (binding.eventRow id org token bindingId config.id
      (canonicalPayloadHash org binding) (sequenceState config binding
        (before.bootSeenBefore org config binding)).1) before.events
  configs : after.configs = Table.put ExporterConfig.id (config.advance (binding.advance
    (sequenceState config binding (before.bootSeenBefore org config binding)))) before.configs
  rest : after.sessions = before.sessions ∧ after.evidence = before.evidence ∧
    after.receipts = before.receipts

/-- What an event of a batch does. -/
def EventDone (canonicalPayloadHash : Nat → Binding → String) (org token tick tick' : Nat)
    (binding : Binding) (before after : Db) : Except Refusal Accepted → Prop
  | .error _ => True
  | .ok accepted => ∃ config ∈ before.configs, config.organizationId = org ∧
      config.exporter = binding.exporter ∧
      ((accepted = .replayed ∧ after = before ∧ ∃ stored, before.events.find?
          (EventRow.isEvent org config.id binding.exporterBootId binding.eventId) = some stored ∧
          stored.payloadHash = canonicalPayloadHash org binding) ∨
        (accepted ≠ .replayed ∧
          Recorded canonicalPayloadHash org token tick tick' binding config before after))

variable {canonicalPayloadHash : Nat → Binding → String} {grace : Int} {org token : Nat}

variable {tick : Nat} {binding : Binding}

theorem EventDone.mono {tick₀ tick' : Nat} {before after : Db} {r : Except Refusal Accepted}
    (hle : tick₀ ≤ tick)
    (h : EventDone canonicalPayloadHash org token tick tick' binding before after r) :
    EventDone canonicalPayloadHash org token tick₀ tick' binding before after r := by
  cases r with
  | error e => exact trivial
  | ok accepted =>
    obtain ⟨config, hmem, horg, hexporter, hcase⟩ := h
    refine ⟨config, hmem, horg, hexporter, hcase.imp_right fun ⟨hne, hrec⟩ => ⟨hne, ?_⟩⟩
    obtain ⟨id, bindingId, hlow, hhigh, hevents⟩ := hrec.events
    exact ⟨hrec.fresh, ⟨id, bindingId, hle.trans hlow, hhigh, hevents⟩, hrec.configs, hrec.rest⟩

variable {db : Db} {config : ExporterConfig}

theorem find?_config (hkeyed : db.Keyed) (hmem : config ∈ db.configs)
    (horg : config.organizationId = org) :
    (db.configs.find? fun c => decide (c.id = config.id ∧ c.organizationId = org)) =
      some config := by
  refine Table.find?_eq_some hkeyed.configs hmem (by simp [horg]) fun c hc hp => ?_
  exact (of_decide_eq_true hp).1

theorem visible_updateConfig {a : Advance}
    (hfind : (db.configs.find? fun c => decide (c.id = config.id ∧ c.organizationId = org)) =
      some config) :
    (engine grace).visible db ((engine grace).exec (.updateConfig config.id org a) tick db db).2 =
      { db with configs := Table.put ExporterConfig.id (config.advance a) db.configs } := by
  have hexec : (engine grace).exec (.updateConfig config.id org a) tick db db =
      ((), [.config (config.advance a)]) := by
    simp only [engine, exec, hfind]
  rw [hexec]
  rfl

theorem ensures_bootSeenBefore (config : ExporterConfig) (binding : Binding) (tick : Nat)
    (db work : Db) :
    Ensures (engine grace) noWorld (bootSeenBefore org config binding) tick db work
      fun seen tick' copy => tick ≤ tick' ∧ copy = work ∧
        seen = work.bootSeenBefore org config binding := by
  unfold bootSeenBefore Db.bootSeenBefore
  split
  · rename_i hboot
    refine ensures_conn (ensures_pure ⟨Nat.le_succ tick, rfl, ?_⟩)
    rw [hboot]
    rfl
  · rename_i hboot
    refine ensures_pure ⟨Nat.le_refl tick, rfl, ?_⟩
    rw [Bool.not_eq_true] at hboot
    rw [hboot]
    rfl

variable {work : Db}

theorem ensures_recordEvent {state : SequenceStatus × Nat × Bool} {bindingId : Nat}
    {payloadHash : String} {before : Db} (hkeyed : before.Keyed) (hsame : SameEvents before work)
    (hmem : config ∈ before.configs) (horg : config.organizationId = org) :
    Ensures (engine grace) noWorld
      (recordEvent org token payloadHash config binding state bindingId) tick db work
      fun r tick' copy => tick < tick' ∧ match r with
        | .error _ => True
        | .ok accepted => accepted ≠ .replayed ∧
            copy.events = Table.put EventRow.id (binding.eventRow tick org token bindingId
              config.id payloadHash state.1) before.events ∧
            copy.configs = Table.put ExporterConfig.id (config.advance (binding.advance state))
              before.configs ∧
            copy.sessions = before.sessions ∧ copy.evidence = before.evidence ∧
            copy.receipts = before.receipts := by
  by_cases hany : work.events.any (EventRow.isEvent org config.id binding.exporterBootId
      binding.eventId) = true
  · have hexec : (engine grace).exec (.insertEvent (binding.eventRow 0 org token
        bindingId config.id payloadHash state.1)) tick work work = (none, []) := if_pos hany
    refine ensures_conn ?_
    rw [hexec]
    exact ensures_pure ⟨Nat.lt_succ_self tick, trivial⟩
  · have hexec : (engine grace).exec (.insertEvent (binding.eventRow 0 org token
        bindingId config.id payloadHash state.1)) tick work work = (some tick, [.event (binding.eventRow tick org token
          bindingId config.id payloadHash state.1)]) := if_neg hany
    refine ensures_conn ?_
    rw [hexec]
    have hfind := find?_config hkeyed hmem horg
    rw [← hsame.configs] at hfind
    have hstored : ((engine grace).visible work [.event (binding.eventRow tick org token bindingId
        config.id payloadHash state.1)]).configs.find? (fun c =>
          decide (c.id = config.id ∧ c.organizationId = org)) = some config := hfind
    refine ensures_conn ?_
    dsimp only
    rw [visible_updateConfig hstored]
    refine ensures_pure ⟨by omega, nofun, ?_, ?_, hsame.sessions, hsame.evidence, hsame.receipts⟩
    · exact congrArg _ hsame.events
    · exact congrArg _ hsame.configs

theorem ensures_ingestNew (hkeyed : work.Keyed) (hmem : config ∈ work.configs)
    (horg : config.organizationId = org) (hexporter : config.exporter = binding.exporter)
    (hfresh : work.events.find? (EventRow.isEvent org config.id binding.exporterBootId
      binding.eventId) = none) :
    Ensures (engine grace) noWorld
      (ingestNew org token (canonicalPayloadHash org binding) config binding) tick db work
      fun r tick' copy => tick ≤ tick' ∧
        EventDone canonicalPayloadHash org token tick tick' binding work copy r := by
  refine ensures_bind <| (ensures_bootSeenBefore config binding tick db work).mono ?_
  rintro seen tick₁ copy₁ ⟨htick₁, rfl, rfl⟩
  refine ensures_bind <| (quiet_applyEvent org config binding _ tick₁ db copy₁).mono ?_
  rintro applied tick₂ copy₂ ⟨htick₂, hsame⟩
  cases applied with
  | error e => exact ensures_pure ⟨by omega, trivial⟩
  | ok bindingId =>
    refine (ensures_recordEvent hkeyed hsame hmem horg).mono ?_
    rintro (e | accepted) tick₃ copy₃ ⟨htick₃, hdone⟩
    · exact ⟨by omega, trivial⟩
    · obtain ⟨hne, hevents, hconfigs, hrest⟩ := hdone
      refine ⟨by omega, config, hmem, horg, hexporter, Or.inr ⟨hne, hfresh, ?_, hconfigs, hrest⟩⟩
      exact ⟨tick₂, bindingId, by omega, htick₃, hevents⟩

theorem ensures_ingestEvent_cases {post : Except Refusal Accepted → Nat → Db → Prop}
    (hrefused : ∀ e tick', tick ≤ tick' → post (.error e) tick' work)
    (hreplayed : ∀ config ∈ work.configs, config.organizationId = org →
      config.exporter = binding.exporter → ∀ stored tick', tick ≤ tick' →
      work.events.find? (EventRow.isEvent org config.id binding.exporterBootId binding.eventId) =
        some stored →
      stored.payloadHash = canonicalPayloadHash org binding → post (.ok .replayed) tick' work)
    (hnew : ∀ config ∈ work.configs, config.organizationId = org →
      config.exporter = binding.exporter → ∀ tick', tick ≤ tick' →
      work.events.find? (EventRow.isEvent org config.id binding.exporterBootId binding.eventId) =
        none →
      Ensures (engine grace) noWorld
        (ingestNew org token (canonicalPayloadHash org binding) config binding) tick' db work
        post) :
    Ensures (engine grace) noWorld (ingestEvent canonicalPayloadHash org token binding) tick db work
      post := by
  refine ensures_read rfl ?_
  generalize hrows : ((work.configs.filter fun c =>
    decide (c.organizationId = org ∧ c.exporter = binding.exporter) && c.enabled).take 2) = rows
  match rows with
  | [] => exact ensures_pure (hrefused _ _ (by omega))
  | _ :: _ :: _ => exact ensures_pure (hrefused _ _ (by omega))
  | [config] =>
    have hin : config ∈ work.configs.filter fun c =>
        decide (c.organizationId = org ∧ c.exporter = binding.exporter) && c.enabled :=
      List.mem_of_mem_take (hrows ▸ List.mem_cons_self)
    obtain ⟨hmem, hp⟩ := List.mem_filter.mp hin
    simp only [Bool.and_eq_true, decide_eq_true_eq] at hp
    simp only []
    cases checkExporterConfig config binding token with
    | error e => exact ensures_pure (hrefused _ _ (by omega))
    | ok u =>
      refine ensures_read rfl ?_
      generalize hfind : work.events.find? (EventRow.isEvent org config.id
        binding.exporterBootId binding.eventId) = found
      cases found with
      | none => exact hnew config hmem hp.1.1 hp.1.2 _ (by omega) hfind
      | some stored =>
        by_cases htoken : stored.collectorApiTokenId ≠ token
        · simp only [if_pos htoken]
          exact ensures_pure (hrefused _ _ (by omega))
        · by_cases hhash : stored.payloadHash ≠ canonicalPayloadHash org binding
          · simp only [if_neg htoken, if_pos hhash]
            exact ensures_pure (hrefused _ _ (by omega))
          · simp only [if_neg htoken, if_neg hhash]
            exact ensures_pure (hreplayed config hmem hp.1.1 hp.1.2 stored _ (by omega)
              hfind (not_ne_iff.mp hhash))

theorem ensures_ingestEvent (hkeyed : work.Keyed) :
    Ensures (engine grace) noWorld (ingestEvent canonicalPayloadHash org token binding) tick db work
      fun r tick' copy => tick ≤ tick' ∧
        EventDone canonicalPayloadHash org token tick tick' binding work copy r := by
  refine ensures_ingestEvent_cases (fun e tick' hle => ⟨hle, trivial⟩) ?_ ?_
  · intro config hmem horg hexporter stored tick' hle hfind hhash
    exact ⟨hle, config, hmem, horg, hexporter, Or.inl ⟨rfl, rfl, stored, hfind, hhash⟩⟩
  · intro config hmem horg hexporter tick' hle hfind
    refine (ensures_ingestNew hkeyed hmem horg hexporter hfind).mono ?_
    rintro r tick'' copy ⟨htick, hdone⟩
    exact ⟨hle.trans htick, hdone.mono hle⟩

end Event

section Batch

variable {canonicalPayloadHash : Nat → Binding → String} {grace : Int} {org token : Nat}

/-- Keys are distinct, ids were given out, and events belong to declarations. -/
structure Db.Good (tick : Nat) (db : Db) : Prop where
  keyed : db.Keyed
  eventsBelow : ∀ e ∈ db.events, e.id < tick
  configsBelow : ∀ c ∈ db.configs, c.id < tick
  owned : ∀ e ∈ db.events, ∃ c ∈ db.configs, c.id = e.exporterConfigId

variable {config : ExporterConfig}

theorem mem_advanced {configs : List ExporterConfig} {c : ExporterConfig} {a : Advance}
    (hkeyed : Table.Keyed ExporterConfig.id configs)
    (hc : c ∈ Table.put ExporterConfig.id (config.advance a) configs) :
    (c = config.advance a) ∨ (c ∈ configs ∧ c.id ≠ config.id) :=
  (Table.mem_put hkeyed).mp hc

variable {tick tick' : Nat} {binding : Binding} {before after : Db}

theorem Recorded.appended (hgood : before.Good tick)
    (h : Recorded canonicalPayloadHash org token tick tick' binding config before after) :
    ∃ id bindingId, tick ≤ id ∧ id < tick' ∧ after.events = before.events ++
      [binding.eventRow id org token bindingId config.id (canonicalPayloadHash org binding)
        (sequenceState config binding (before.bootSeenBefore org config binding)).1] := by
  obtain ⟨id, bindingId, hlow, hhigh, hevents⟩ := h.events
  refine ⟨id, bindingId, hlow, hhigh, ?_⟩
  rw [hevents]
  refine Table.put_fresh fun hmem => ?_
  obtain ⟨e, he, hid⟩ := List.mem_map.mp hmem
  have hlt := hgood.eventsBelow e he
  have heq : e.id = id := hid
  omega

theorem Recorded.good (hgood : before.Good tick) (hmem : config ∈ before.configs)
    (h : Recorded canonicalPayloadHash org token tick tick' binding config before after) :
    after.Good tick' := by
  obtain ⟨id, bindingId, hlow, hhigh, hevents⟩ := h.appended hgood
  have hnone := List.find?_eq_none.mp h.fresh
  have hidentity : ∀ c ∈ after.configs, ∃ d ∈ before.configs, d.id = c.id ∧
      d.organizationId = c.organizationId ∧ d.exporter = c.exporter ∧
      (c.id ≠ config.id → d = c) := by
    intro c hc
    rw [h.configs] at hc
    rcases mem_advanced hgood.keyed.configs hc with rfl | ⟨hold, -⟩
    · exact ⟨config, hmem, rfl, rfl, rfl, fun hne => absurd rfl hne⟩
    · exact ⟨c, hold, rfl, rfl, rfl, fun _ => rfl⟩
  constructor
  · constructor
    · rw [h.configs]
      exact Table.keyed_put hgood.keyed.configs
    · intro c hc d hd horg hexporter
      obtain ⟨c', hc', hid, horg', hexporter', hsame⟩ := hidentity c hc
      obtain ⟨d', hd', hid', horg'', hexporter'', hsame'⟩ := hidentity d hd
      have heq : c' = d' := hgood.keyed.identities c' hc' d' hd'
        (by rw [horg', horg'', horg]) (by rw [hexporter', hexporter'', hexporter])
      have hids : c.id = d.id := by rw [← hid, ← hid', heq]
      by_cases hcase : c.id = config.id
      · rw [h.configs] at hc hd
        rcases mem_advanced hgood.keyed.configs hc with rfl | ⟨-, hne⟩
        · rcases mem_advanced hgood.keyed.configs hd with rfl | ⟨-, hne⟩
          · rfl
          · exact absurd (hids.symm.trans hcase) hne
        · exact absurd hcase hne
      · rw [← hsame hcase, ← hsame' (hids ▸ hcase), heq]
    · rw [hevents, Table.Keyed, List.map_append, List.nodup_append]
      refine ⟨hgood.keyed.events, List.nodup_singleton _, fun a ha b hb => ?_⟩
      obtain ⟨e, he, rfl⟩ := List.mem_map.mp ha
      have hlt := hgood.eventsBelow e he
      have hb' : b = id := List.mem_singleton.mp hb
      omega
    · intro e he f hf hsame
      rw [hevents] at he hf
      have hkey := of_decide_eq_true hsame
      rcases List.mem_append.mp he with he | he
      · rcases List.mem_append.mp hf with hf | hf
        · exact hgood.keyed.replays e he f hf hsame
        · obtain rfl := List.mem_singleton.mp hf
          refine absurd (decide_eq_true ?_) (hnone e he)
          exact ⟨hkey.1.symm, hkey.2.1.symm, hkey.2.2.1.symm, hkey.2.2.2.symm⟩
      · obtain rfl := List.mem_singleton.mp he
        rcases List.mem_append.mp hf with hf | hf
        · exact absurd hsame (hnone f hf)
        · exact (List.mem_singleton.mp hf).symm
  · intro e he
    rw [hevents] at he
    rcases List.mem_append.mp he with he | he
    · have hlt := hgood.eventsBelow e he
      omega
    · rw [List.mem_singleton.mp he]
      exact hhigh
  · intro c hc
    obtain ⟨d, hd, hid, -⟩ := hidentity c hc
    have hlt := hgood.configsBelow d hd
    omega
  · intro e he
    have hstill : ∀ d ∈ before.configs, ∃ c ∈ after.configs, c.id = d.id := fun d hd => by
      rw [h.configs]
      by_cases hd' : d.id = config.id
      · exact ⟨_, (Table.mem_put hgood.keyed.configs).mpr (Or.inl rfl), hd'.symm⟩
      · exact ⟨d, (Table.mem_put hgood.keyed.configs).mpr (Or.inr ⟨hd, hd'⟩), rfl⟩
    rw [hevents] at he
    rcases List.mem_append.mp he with he | he
    · obtain ⟨d, hd, hid⟩ := hgood.owned e he
      obtain ⟨c, hc, hcid⟩ := hstill d hd
      exact ⟨c, hc, hcid.trans hid⟩
    · obtain ⟨c, hc, hcid⟩ := hstill config hmem
      rw [List.mem_singleton.mp he]
      exact ⟨c, hc, hcid⟩

theorem Db.Good.mono {db : Db} (hle : tick ≤ tick') (h : db.Good tick) :
    db.Good tick' :=
  ⟨h.keyed, fun e he => (h.eventsBelow e he).trans_le hle,
    fun c hc => (h.configsBelow c hc).trans_le hle, h.owned⟩

theorem EventDone.good {accepted : Accepted} (hle : tick ≤ tick') (hgood : before.Good tick)
    (h : EventDone canonicalPayloadHash org token tick tick' binding before after (.ok accepted)) :
    after.Good tick' := by
  obtain ⟨config, hmem, -, -, ⟨-, rfl, -⟩ | ⟨-, hrec⟩⟩ := h
  · exact hgood.mono hle
  · exact hrec.good hgood hmem

/-- The events of an accepted batch, one after another. -/
inductive EventsDone (canonicalPayloadHash : Nat → Binding → String) (org token : Nat) :
    Nat → Db → List Binding → Nat → Db → Prop
  | nil (tick tick' db) (hle : tick ≤ tick') :
      EventsDone canonicalPayloadHash org token tick db [] tick' db
  | cons (tick tick₁ tick' before middle after binding rest accepted) (hle : tick ≤ tick₁)
      (hgood : before.Good tick)
      (hdone : EventDone canonicalPayloadHash org token tick tick₁ binding before middle
        (.ok accepted))
      (hrest : EventsDone canonicalPayloadHash org token tick₁ middle rest tick' after) :
      EventsDone canonicalPayloadHash org token tick before (binding :: rest) tick' after

theorem ensures_ingestEvents {bindings : List Binding} {db work : Db} (hgood : work.Good tick) :
    Ensures (engine grace) noWorld (ingestEvents canonicalPayloadHash org token bindings) tick db
      work fun r tick' copy => tick ≤ tick' ∧ ∀ accepted, r = .ok accepted →
        EventsDone canonicalPayloadHash org token tick work bindings tick' copy := by
  induction bindings generalizing tick work with
  | nil => exact ensures_pure ⟨Nat.le_refl tick, fun _ _ => .nil _ _ _ (Nat.le_refl tick)⟩
  | cons binding rest ih =>
    refine ensures_bind <| (ensures_ingestEvent hgood.keyed).mono ?_
    rintro (e | accepted) tick₁ middle ⟨hle, hdone⟩
    · exact ensures_pure ⟨hle, nofun⟩
    · refine ensures_bind <| (ih (hdone.good hle hgood)).mono ?_
      rintro (e | others) tick' copy ⟨hle', hrest⟩
      · exact ensures_pure ⟨hle.trans hle', nofun⟩
      · exact ensures_pure ⟨hle.trans hle', fun _ _ =>
          .cons _ _ _ _ _ _ _ _ accepted hle hgood hdone (hrest others rfl)⟩

/-- A batch as it arrives. -/
structure Batch where
  settings : Settings
  now : Int
  org : Nat
  token : Nat
  records : List Record

def Batch.bindings (batch : Batch) : Except Refusal (List Binding) :=
  batch.records.mapM (normalizeBinding batch.settings batch.now)

def ingest (canonicalPayloadHash : Nat → Binding → String) (grace : Int) (tick : Nat) (db : Db)
    (batch : Batch) : Outcome (Except Refusal (List Accepted)) Db :=
  alone (engine grace) noWorld (ingestBatch canonicalPayloadHash batch.settings batch.now batch.org
    batch.token batch.records) tick db none

theorem ingest_rule (canonicalPayloadHash : Nat → Binding → String) (grace : Int) {db : Db}
    {batch : Batch} {post : Except Refusal (List Accepted) → Nat → Db → Prop}
    (h : ∀ bindings, batch.bindings = .ok bindings →
      Ensures (engine grace) noWorld (ingestEvents canonicalPayloadHash batch.org batch.token
        bindings) (tick + 1) db db post) :
    (∃ e, (ingest canonicalPayloadHash grace tick db batch).value = .error e ∧
      (ingest canonicalPayloadHash grace tick db batch).db = db) ∨
    (∃ accepted tick' copy receipt,
      (ingest canonicalPayloadHash grace tick db batch).value = .ok accepted ∧
      post (.ok accepted) tick' copy ∧
      tick' ≤ (ingest canonicalPayloadHash grace tick db batch).tick ∧
      (ingest canonicalPayloadHash grace tick db batch).db =
        { copy with receipts := copy.receipts ++ [receipt] }) := by
  unfold ingest ingestBatch
  unfold Batch.bindings at h
  by_cases hempty : batch.records.isEmpty = true
  · rw [if_pos hempty]
    exact Or.inl ⟨_, rfl, rfl⟩
  · rw [if_neg hempty]
    by_cases hlarge : batch.settings.maxBatch < batch.records.length
    · rw [if_pos hlarge]
      exact Or.inl ⟨_, rfl, rfl⟩
    · rw [if_neg hlarge]
      cases hb : batch.records.mapM (normalizeBinding batch.settings batch.now) with
      | error e => exact Or.inl ⟨_, rfl, rfl⟩
      | ok bindings =>
        have hensures := h bindings hb
        simp only [ingestBindings, Prog.begin, Prog.start_bind, Prog.done_bind, alone_start,
          Option.getD_none, alone_bind]
        unfold Ensures at hensures
        generalize alone (engine grace) noWorld (ingestEvents canonicalPayloadHash batch.org
          batch.token bindings) (tick + 1) db (some db) = out at hensures ⊢
        obtain ⟨value, tick', db', work⟩ := out
        obtain ⟨copy, rfl, rfl, hpost⟩ := hensures
        cases value with
        | error e => exact Or.inl ⟨e, rfl, rfl⟩
        | ok accepted =>
          refine Or.inr ⟨accepted, tick', copy, _, rfl, hpost, ?_, rfl⟩
          exact Nat.le_succ_of_le (Nat.le_succ tick')

/-- A batch is refused and changes nothing, or its events are done and its receipt added. -/
theorem ingest_spec (canonicalPayloadHash : Nat → Binding → String) (grace : Int) {db : Db}
    (hgood : db.Good tick) (batch : Batch) :
    tick ≤ (ingest canonicalPayloadHash grace tick db batch).tick ∧
      ((∃ e, (ingest canonicalPayloadHash grace tick db batch).value = .error e ∧
        (ingest canonicalPayloadHash grace tick db batch).db = db) ∨
      (∃ accepted bindings tick' copy receipt,
        (ingest canonicalPayloadHash grace tick db batch).value = .ok accepted ∧
        batch.bindings = .ok bindings ∧
        EventsDone canonicalPayloadHash batch.org batch.token (tick + 1) db bindings tick' copy ∧
        tick' ≤ (ingest canonicalPayloadHash grace tick db batch).tick ∧
        (ingest canonicalPayloadHash grace tick db batch).db =
          { copy with receipts := copy.receipts ++ [receipt] })) := by
  refine ⟨alone_tick_le _ _ _ _, ?_⟩
  have hgood' : db.Good (tick + 1) := hgood.mono (Nat.le_succ tick)
  have hensures : ∀ bindings, batch.bindings = .ok bindings → Ensures (engine grace) noWorld
      (ingestEvents canonicalPayloadHash batch.org batch.token bindings) (tick + 1) db db
      fun r tick' copy => tick + 1 ≤ tick' ∧ ∀ accepted, r = .ok accepted → ∃ bindings,
        batch.bindings = .ok bindings ∧ EventsDone canonicalPayloadHash batch.org batch.token
          (tick + 1) db bindings tick' copy := by
    intro bindings hb
    refine (ensures_ingestEvents hgood').mono ?_
    rintro r tick' copy ⟨hle, hdone⟩
    exact ⟨hle, fun accepted hr => ⟨bindings, hb, hdone accepted hr⟩⟩
  rcases ingest_rule canonicalPayloadHash grace hensures with hrefused | hdone
  · exact Or.inl hrefused
  · obtain ⟨accepted, tick', copy, receipt, hvalue, ⟨-, hevents⟩, hlast, hdb⟩ := hdone
    obtain ⟨bindings, hb, hevents⟩ := hevents accepted rfl
    exact Or.inr ⟨accepted, bindings, tick', copy, receipt, hvalue, hb, hevents, hlast, hdb⟩

end Batch

section Runs

/-- The tables, and the records accepted so far with their organization. -/
structure State where
  tick : Nat
  db : Db
  accepted : List (Nat × Binding)

/-- What changes the tables. -/
inductive Event
  | batch (batch : Batch)
  | declare (id : Nat) (declared : ExporterConfig)
  | register (declared : ExporterConfig)
  | account (sessions : List AccessSession) (evidence : List AccountingEvent)

/-- The declared columns replaced; identity and continuity stay. -/
def ExporterConfig.redeclared (config declared : ExporterConfig) : ExporterConfig :=
  { declared with
    id := config.id
    organizationId := config.organizationId
    exporter := config.exporter
    bindingReceived := config.bindingReceived
    lastCorrectedDeviceAt := config.lastCorrectedDeviceAt
    coverageHorizonAt := config.coverageHorizonAt
    lastExporterBootId := config.lastExporterBootId
    lastSequenceNumber := config.lastSequenceNumber
    sequenceGapEvents := config.sequenceGapEvents
    sequenceMissingRecords := config.sequenceMissingRecords
    outOfOrderEvents := config.outOfOrderEvents
    reportedLostRecords := config.reportedLostRecords
    incompleteMetadataEvents := config.incompleteMetadataEvents }

/-- A declaration that received nothing. -/
def ExporterConfig.registered (declared : ExporterConfig) (id : Nat) : ExporterConfig :=
  { declared with
    id := id
    bindingReceived := false
    lastCorrectedDeviceAt := none
    coverageHorizonAt := none
    lastExporterBootId := none
    lastSequenceNumber := 0
    sequenceGapEvents := 0
    sequenceMissingRecords := 0
    outOfOrderEvents := 0
    reportedLostRecords := 0
    incompleteMetadataEvents := 0 }

variable (canonicalPayloadHash : Nat → Binding → String) (grace : Int)

/-- One change of the tables; a declaration of a known exporter is not registered again. -/
def State.step (s : State) : Event → State
  | .batch batch =>
    let o := ingest canonicalPayloadHash grace s.tick s.db batch
    { tick := o.tick
      db := o.db
      accepted := match o.value, batch.bindings with
        | .ok _, .ok bindings => s.accepted ++ bindings.map fun b => (batch.org, b)
        | _, _ => s.accepted }
  | .declare id declared =>
    { s with db := { s.db with configs := s.db.configs.map fun c =>
        if c.id = id then c.redeclared declared else c } }
  | .register declared =>
    if s.db.configs.any fun c =>
        decide (c.organizationId = declared.organizationId ∧ c.exporter = declared.exporter) then s
    else
      { s with
        tick := s.tick + 1
        db := { s.db with configs := s.db.configs ++ [declared.registered s.tick] } }
  | .account sessions evidence =>
    { s with db := { s.db with sessions := sessions, evidence := evidence } }

variable {canonicalPayloadHash grace} {s : State}

theorem redeclared_identity (config declared : ExporterConfig) (id : Nat) :
    let saved := if config.id = id then config.redeclared declared else config
    saved.id = config.id ∧ saved.organizationId = config.organizationId ∧
      saved.exporter = config.exporter := by
  dsimp only
  split <;> exact ⟨rfl, rfl, rfl⟩

variable {db : Db} {tick : Nat}

theorem Db.Good.declare (h : db.Good tick) (id : Nat) (declared : ExporterConfig) :
    ({ db with configs := db.configs.map fun c =>
      if c.id = id then c.redeclared declared else c } : Db).Good tick := by
  have hid := fun c : ExporterConfig => redeclared_identity c declared id
  constructor
  · refine ⟨?_, ?_, h.keyed.events, h.keyed.replays⟩
    · have hids : (db.configs.map fun c => if c.id = id then c.redeclared declared else c).map
          ExporterConfig.id = db.configs.map ExporterConfig.id := by
        rw [List.map_map]
        exact List.map_congr_left fun c _ => (hid c).1
      rw [Table.Keyed, hids]
      exact h.keyed.configs
    · intro c hc d hd horg hexporter
      obtain ⟨c', hc', rfl⟩ := List.mem_map.mp hc
      obtain ⟨d', hd', rfl⟩ := List.mem_map.mp hd
      rw [(hid c').2.1, (hid d').2.1] at horg
      rw [(hid c').2.2, (hid d').2.2] at hexporter
      rw [h.keyed.identities c' hc' d' hd' horg hexporter]
  · exact h.eventsBelow
  · intro c hc
    obtain ⟨c', hc', rfl⟩ := List.mem_map.mp hc
    rw [(hid c').1]
    exact h.configsBelow c' hc'
  · intro e he
    obtain ⟨c, hc, hcid⟩ := h.owned e he
    exact ⟨_, List.mem_map_of_mem hc, (hid c).1.trans hcid⟩

theorem Db.Good.register (h : db.Good tick) {declared : ExporterConfig}
    (hnew : ∀ c ∈ db.configs, c.organizationId = declared.organizationId →
      c.exporter ≠ declared.exporter) :
    ({ db with configs := db.configs ++ [declared.registered tick] } : Db).Good (tick + 1) := by
  constructor
  · refine ⟨?_, ?_, h.keyed.events, h.keyed.replays⟩
    · rw [Table.Keyed, List.map_append, List.nodup_append]
      refine ⟨h.keyed.configs, List.nodup_singleton _, fun a ha b hb => ?_⟩
      obtain ⟨c, hc, rfl⟩ := List.mem_map.mp ha
      have hlt := h.configsBelow c hc
      have hb' : b = tick := List.mem_singleton.mp hb
      omega
    · intro c hc d hd horg hexporter
      rcases List.mem_append.mp hc with hc | hc
      · rcases List.mem_append.mp hd with hd | hd
        · exact h.keyed.identities c hc d hd horg hexporter
        · rw [List.mem_singleton.mp hd] at horg hexporter
          exact absurd hexporter (hnew c hc horg)
      · rcases List.mem_append.mp hd with hd | hd
        · rw [List.mem_singleton.mp hc] at horg hexporter
          exact absurd hexporter.symm (hnew d hd horg.symm)
        · rw [List.mem_singleton.mp hc, List.mem_singleton.mp hd]
  · exact fun e he => Nat.lt_succ_of_lt (h.eventsBelow e he)
  · intro c hc
    rcases List.mem_append.mp hc with hc | hc
    · exact Nat.lt_succ_of_lt (h.configsBelow c hc)
    · rw [List.mem_singleton.mp hc]
      exact Nat.lt_succ_self tick
  · intro e he
    obtain ⟨c, hc, hcid⟩ := h.owned e he
    exact ⟨c, List.mem_append_left _ hc, hcid⟩

theorem EventsDone.good {org token tick' : Nat} {before after : Db} {bindings : List Binding}
    (h : EventsDone canonicalPayloadHash org token tick before bindings tick' after)
    (hgood : before.Good tick) : after.Good tick' := by
  induction h with
  | nil tick tick' db hle => exact hgood.mono hle
  | cons tick tick₁ tick' before middle after binding rest accepted hle _ hdone hrest ih =>
    exact ih (hdone.good hle hgood)

theorem Db.Good.receipts (h : db.Good tick) (receipts : List Receipt) :
    ({ db with receipts := receipts } : Db).Good tick :=
  ⟨⟨h.keyed.configs, h.keyed.identities, h.keyed.events, h.keyed.replays⟩, h.eventsBelow,
    h.configsBelow, h.owned⟩

theorem State.good_step (h : s.db.Good s.tick) (event : Event) :
    (s.step canonicalPayloadHash grace event).db.Good
      (s.step canonicalPayloadHash grace event).tick := by
  cases event with
  | batch batch =>
    obtain ⟨hle, ⟨e, -, hdb⟩ | ⟨accepted, bindings, tick', copy, receipt, -, -, hdone, hlast,
      hdb⟩⟩ := ingest_spec canonicalPayloadHash grace h batch
    · change Db.Good _ (ingest canonicalPayloadHash grace s.tick s.db batch).db
      rw [hdb]
      exact h.mono hle
    · change Db.Good _ (ingest canonicalPayloadHash grace s.tick s.db batch).db
      rw [hdb]
      exact ((hdone.good (h.mono (Nat.le_succ s.tick))).mono hlast).receipts _
  | declare id declared => exact h.declare id declared
  | register declared =>
    simp only [State.step]
    split
    · exact h
    · rename_i hany
      refine h.register fun c hc horg hexporter => hany ?_
      exact List.any_eq_true.mpr ⟨c, hc, decide_eq_true ⟨horg, hexporter⟩⟩
  | account sessions evidence =>
    exact ⟨⟨h.keyed.configs, h.keyed.identities, h.keyed.events, h.keyed.replays⟩, h.eventsBelow,
      h.configsBelow, h.owned⟩

end Runs

end FireIsp.Cgnat
