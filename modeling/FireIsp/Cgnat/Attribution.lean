import FireIsp.Cgnat.Lookup

/-!
# Certain attributions

A matched answer is certain: its binding covers the instant within its certain interval, and no
other stored binding of the port that joins its RADIUS evidence and a session covering the
instant may hold the port then.  The declaration and the allocation event of a binding are
stored with it, so no other join hides a binding.
-/

namespace FireIsp.Cgnat

open Txn Fallible

/-- The declaration and the allocation event of the binding are stored. -/
def BindingRow.Linked (db : Db) (binding : BindingRow) : Prop :=
  (∃ config ∈ db.configs, joinsConfig binding config = true) ∧
    ∃ event ∈ db.events, joinsAllocation binding event = true

section Linked

variable {grace : Int} {A B : Type}

structure BindingRow.SameAllocation (a b : BindingRow) : Prop where
  id : a.id = b.id
  organizationId : a.organizationId = b.organizationId
  exporterConfigId : a.exporterConfigId = b.exporterConfigId
  allocation : a.allocation = b.allocation

theorem BindingRow.Linked.mono {before after : Db} {a b : BindingRow} (h : b.Linked before)
    (hsame : a.SameAllocation b)
    (hconfigs : ∀ c ∈ before.configs, ∃ c' ∈ after.configs, c'.id = c.id ∧
      c'.organizationId = c.organizationId)
    (hevents : ∀ e ∈ before.events, e ∈ after.events) : a.Linked after := by
  obtain ⟨⟨c, hc, hjoin⟩, e, he, halloc⟩ := h
  obtain ⟨c', hc', hid, horg⟩ := hconfigs c hc
  refine ⟨⟨c', hc', ?_⟩, e, hevents e he, ?_⟩
  · rw [joinsConfig, decide_eq_true_eq] at hjoin ⊢
    rw [hid, horg, hsame.exporterConfigId, hsame.organizationId]
    exact hjoin
  · rw [joinsAllocation, decide_eq_true_eq] at halloc ⊢
    rw [hsame.id, hsame.organizationId, hsame.allocation]
    exact halloc

/-- The program leaves the bindings as they are. -/
def KeepsRows (grace : Int) (p : Request A) : Prop :=
  ∀ tick db work, Ensures (engine grace) noWorld p tick db work fun _ _ copy =>
    copy.bindings = work.bindings

theorem keepsRows_pure (value : A) : KeepsRows grace (pure value) := fun _ _ _ => ensures_pure rfl

theorem bindings_exec {op : Stmt} (hop : op.KeepsBindings) (tick : Nat) (work : Db) :
    ((engine grace).visible work (exec grace op tick work work).2).bindings = work.bindings := by
  rw [visible_bindings, bindingWrites_exec hop]
  rfl

theorem keepsRows_execute {op : Stmt} {f : op.Res → Request A} (hop : op.KeepsBindings)
    (hf : ∀ r, KeepsRows grace (f r)) : KeepsRows grace (execute op >>= f) :=
  fun tick db work => ensures_conn <| (hf _ (tick + 1) db _).mono fun _ _ _ h =>
    h.trans (bindings_exec hop tick work)

theorem keepsRows_resolveSession (org : Nat) (binding : Binding) :
    KeepsRows grace (resolveSession org binding) := by
  refine keepsRows_execute trivial fun sessions => ?_
  split
  · split
    · refine keepsRows_execute trivial fun evidence => ?_
      split
      · exact keepsRows_pure _
      · exact keepsRows_pure _
    · exact keepsRows_pure _
  · exact keepsRows_pure _

theorem keepsRows_assertExclusive (org : Nat) (binding : Binding) :
    KeepsRows grace (assertExclusivePublicAllocation org binding) := by
  refine keepsRows_execute trivial fun _ => keepsRows_execute trivial fun _ =>
    keepsRows_execute trivial fun overlaps => ?_
  split
  · exact keepsRows_pure _
  · exact keepsRows_pure _

theorem keepsRows_recordEvent (org token : Nat) (payloadHash : String) (config : ExporterConfig)
    (binding : Binding) (state : SequenceStatus × Nat × Bool) (bindingId : Nat) :
    KeepsRows grace (recordEvent org token payloadHash config binding state bindingId) := by
  refine keepsRows_execute trivial fun inserted => ?_
  split
  · exact keepsRows_pure _
  · exact keepsRows_execute trivial fun _ => keepsRows_pure _

/-- The row is the new allocation of the record, under the id. -/
structure BindingRow.NewOf (org : Nat) (config : ExporterConfig) (binding : Binding) (id : Nat)
    (row : BindingRow) : Prop where
  id : row.id = id
  organizationId : row.organizationId = org
  exporterConfigId : row.exporterConfigId = config.id
  eventId : row.allocation.eventId = binding.eventId
  allocates : binding.eventType = .allocate

/-- Every binding was there before under the same allocation, or is the new one. -/
def Extends (org : Nat) (config : ExporterConfig) (binding : Binding) (before after : Db)
    (r : Except Refusal Nat) : Prop :=
  ∀ row ∈ after.bindings, (∃ old ∈ before.bindings, row.SameAllocation old) ∨
    ∃ id, r = .ok id ∧ row.NewOf org config binding id

variable {config : ExporterConfig} {binding : Binding}

theorem Extends.of_eq {org : Nat} {before after : Db} {r : Except Refusal Nat}
    (h : after.bindings = before.bindings) :
    Extends org config binding before after r :=
  fun row hrow => Or.inl ⟨row, h ▸ hrow, rfl, rfl, rfl, rfl⟩

theorem extends_ingestAllocation {org : Nat} (halloc : binding.eventType = .allocate)
    (status : SequenceStatus) (tick : Nat) (db work : Db) :
    Ensures (engine grace) noWorld (ingestAllocation org config binding status) tick db work
      fun r _ copy => Extends org config binding work copy r := by
  refine ensures_read rfl ?_
  split
  · exact ensures_pure (.of_eq rfl)
  · refine ensures_bind <| (keepsRows_resolveSession org binding _ db work).mono ?_
    rintro (e | session) tick₁ copy₁ h₁
    · exact ensures_pure (.of_eq h₁)
    · refine ensures_bind <| (keepsRows_assertExclusive org binding _ db copy₁).mono ?_
      rintro (e | u) tick₂ copy₂ h₂
      · exact ensures_pure (.of_eq (h₂.trans h₁))
      · refine ensures_conn ?_
        generalize hexec : (engine grace).exec (.insertBinding (binding.row org config session
          status)) tick₂ copy₂ copy₂ = reply
        simp only [engine, exec] at hexec
        split at hexec
        · subst hexec
          refine ensures_pure fun row hrow => ?_
          rw [visible_bindings] at hrow
          rcases Table.mem_of_mem_put hrow with rfl | hold
          · exact Or.inr ⟨tick₂, rfl, rfl, rfl, rfl, rfl, halloc⟩
          · rw [h₂, h₁] at hold
            exact Or.inl ⟨row, hold, rfl, rfl, rfl, rfl⟩
        · subst hexec
          exact ensures_pure (.of_eq (h₂.trans h₁))

theorem sameAllocation_update (id org : Nat) (release : Release) (tick : Nat) (work : Db) :
    ∀ row ∈ ((engine grace).visible work ((engine grace).exec (.updateBinding id org release) tick
      work work).2).bindings, ∃ old ∈ work.bindings, row.SameAllocation old := by
  intro row hrow
  rw [visible_bindings] at hrow
  simp only [engine, exec] at hrow
  split at hrow
  · exact ⟨row, hrow, rfl, rfl, rfl, rfl⟩
  · rename_i old hfind
    rcases Table.mem_of_mem_put hrow with rfl | hold
    · exact ⟨old, List.mem_of_find?_eq_some hfind, rfl, rfl, rfl, rfl⟩
    · exact ⟨row, hold, rfl, rfl, rfl, rfl⟩

theorem extends_ingestRelease {org : Nat} (releasedAt : Int) (status : SequenceStatus) (tick : Nat)
    (db work : Db) :
    Ensures (engine grace) noWorld (ingestRelease org config binding releasedAt status) tick db work
      fun r _ copy => Extends org config binding work copy r := by
  refine ensures_read rfl ?_
  split
  · split
    · exact ensures_pure (.of_eq rfl)
    · split
      · exact ensures_pure (.of_eq rfl)
      · split
        · exact ensures_pure (.of_eq rfl)
        · refine ensures_read rfl ?_
          split
          · exact ensures_pure (.of_eq rfl)
          · refine ensures_conn ?_
            split
            · exact ensures_pure fun row hrow =>
                Or.inl (sameAllocation_update _ _ _ _ work row hrow)
            · exact ensures_pure fun row hrow =>
                Or.inl (sameAllocation_update _ _ _ _ work row hrow)
  · exact ensures_pure (.of_eq rfl)

theorem extends_applyEvent {org : Nat}
    (hends : binding.eventType = .release → binding.releasedAt ≠ none) (status : SequenceStatus)
    (tick : Nat) (db work : Db) :
    Ensures (engine grace) noWorld (applyEvent org config binding status) tick db work
      fun r _ copy => Extends org config binding work copy r := by
  unfold applyEvent
  split
  · exact extends_ingestRelease _ status tick db work
  · rename_i hother
    refine extends_ingestAllocation ?_ status tick db work
    cases htype : binding.eventType with
    | allocate => rfl
    | release =>
      cases hreleased : binding.releasedAt with
      | none => exact absurd hreleased (hends htype)
      | some releasedAt => exact (hother releasedAt htype hreleased).elim

def Db.Linked (db : Db) : Prop := ∀ row ∈ db.bindings, row.Linked db

variable {canonicalPayloadHash : Nat → Binding → String} {org token : Nat}

theorem configs_advanced {a : Advance} {configs : List ExporterConfig}
    (hkeyed : Table.Keyed ExporterConfig.id configs) (hmem : config ∈ configs) :
    ∀ c ∈ configs, ∃ c' ∈ Table.put ExporterConfig.id (config.advance a) configs, c'.id = c.id ∧
      c'.organizationId = c.organizationId := by
  intro c hc
  by_cases hid : c.id = config.id
  · obtain rfl : c = config := List.inj_on_of_nodup_map hkeyed hc hmem hid
    exact ⟨c.advance a, Table.mem_put_self _ _, rfl, rfl⟩
  · exact ⟨c, (Table.mem_put hkeyed).mpr (Or.inr ⟨hc, hid⟩), rfl, rfl⟩

variable {tick : Nat}

theorem linked_ingestNew {db work : Db} (hgood : work.Good tick) (hlinked : work.Linked)
    (hmem : config ∈ work.configs) (horg : config.organizationId = org)
    (hends : binding.eventType = .release → binding.releasedAt ≠ none) (payloadHash : String) :
    Ensures (engine grace) noWorld (ingestNew org token payloadHash config binding) tick db work
      fun r _ copy => ∀ accepted, r = .ok accepted → copy.Linked := by
  refine ensures_bind <| (ensures_bootSeenBefore config binding tick db work).mono ?_
  rintro seen tick₁ copy₁ ⟨htick₁, rfl, -⟩
  refine ensures_bind <| ((quiet_applyEvent org config binding _ tick₁ db copy₁).and
    (extends_applyEvent hends _ tick₁ db copy₁)).mono ?_
  rintro (e | bindingId) tick₂ copy₂ ⟨⟨htick₂, hsame⟩, hextends⟩
  · exact ensures_pure nofun
  · have hrecord : Ensures (engine grace) noWorld (recordEvent org token payloadHash config binding
        (sequenceState config binding seen) bindingId) tick₂ db copy₂ _ :=
      ensures_recordEvent hgood.keyed hsame hmem horg
    refine (hrecord.and (keepsRows_recordEvent org token payloadHash config binding _ bindingId
      tick₂ db copy₂)).mono ?_
    rintro (e | accepted) tick₃ copy₃ ⟨⟨-, hdone⟩, hbindings⟩
    · exact nofun
    · obtain ⟨-, hevents, hconfigs, -⟩ := hdone
      rintro - - row hrow
      have hbelow : tick₂ ∉ copy₁.events.map EventRow.id := by
        rintro hin
        obtain ⟨e, he, hid⟩ := List.mem_map.mp hin
        have := hgood.eventsBelow e he
        omega
      rw [hbindings] at hrow
      rcases hextends row hrow with ⟨old, hold, hsameAlloc⟩ | ⟨id, hid, hnew⟩
      · refine (hlinked old hold).mono hsameAlloc ?_ fun e he => ?_
        · rw [hconfigs]
          exact configs_advanced hgood.keyed.configs hmem
        · rw [hevents]
          exact (Table.mem_put hgood.keyed.events).mpr (Or.inr ⟨he, fun h =>
            hbelow (List.mem_map.mpr ⟨e, he, h⟩)⟩)
      · cases hid
        refine ⟨⟨_, hconfigs ▸ Table.mem_put_self _ _, ?_⟩, _, hevents ▸ Table.mem_put_self _ _, ?_⟩
        · rw [joinsConfig, decide_eq_true_eq, hnew.exporterConfigId, hnew.organizationId]
          exact ⟨rfl, horg⟩
        · rw [joinsAllocation, decide_eq_true_eq, hnew.id, hnew.organizationId, hnew.eventId]
          exact ⟨rfl, rfl, hnew.allocates, rfl⟩

theorem linked_ingestEvent {db work : Db} (hgood : work.Good tick) (hlinked : work.Linked)
    (hends : binding.eventType = .release → binding.releasedAt ≠ none) :
    Ensures (engine grace) noWorld (ingestEvent canonicalPayloadHash org token binding) tick db work
      fun r _ copy => ∀ accepted, r = .ok accepted → copy.Linked := by
  refine ensures_ingestEvent_cases (fun e tick' _ => nofun) ?_ ?_
  · intro config hmem horg hexporter stored tick' hle hfind hhash accepted haccepted
    exact hlinked
  · intro config hmem horg hexporter tick' hle hfind
    exact linked_ingestNew (hgood.mono hle) hlinked hmem horg hends _

theorem linked_ingestEvents {bindings : List Binding} {db work : Db} (hgood : work.Good tick)
    (hlinked : work.Linked) (hends : ∀ b ∈ bindings, b.eventType = .release → b.releasedAt ≠ none) :
    Ensures (engine grace) noWorld (ingestEvents canonicalPayloadHash org token bindings) tick db
      work fun r _ copy => ∀ accepted, r = .ok accepted → copy.Linked := by
  induction bindings generalizing tick work with
  | nil => exact ensures_pure fun _ _ => hlinked
  | cons binding rest ih =>
    refine ensures_bind <| ((ensures_ingestEvent hgood.keyed).and
      (linked_ingestEvent hgood hlinked (hends binding List.mem_cons_self))).mono ?_
    rintro (e | accepted) tick₁ middle ⟨⟨hle, hdone⟩, hmiddle⟩
    · exact ensures_pure nofun
    · refine ensures_bind <| (ih (hdone.good hle hgood) (hmiddle accepted rfl)
        fun b hb => hends b (List.mem_cons_of_mem _ hb)).mono ?_
      rintro (e | others) tick' copy hcopy
      · exact ensures_pure nofun
      · exact ensures_pure fun _ _ => hcopy others rfl

theorem linked_ingest {db : Db} (hgood : db.Good tick) (hlinked : db.Linked) (batch : Batch) :
    (ingest canonicalPayloadHash grace tick db batch).db.Linked := by
  have hensures : ∀ bindings, batch.bindings = .ok bindings → Ensures (engine grace) noWorld
      (ingestEvents canonicalPayloadHash batch.org batch.token bindings) (tick + 1) db db
      fun r _ copy => ∀ accepted, r = .ok accepted → copy.Linked := by
    intro bindings hb
    refine linked_ingestEvents (hgood.mono (Nat.le_succ tick)) hlinked fun b hmem => ?_
    obtain ⟨record, -, hrecord⟩ := ok_of_mapM hb b hmem
    exact (normalizeBinding_spec hrecord).2
  rcases ingest_rule canonicalPayloadHash grace hensures with ⟨e, -, hdb⟩ | ⟨accepted, tick', copy,
    receipt, -, hpost, -, hdb⟩
  · rw [hdb]
    exact hlinked
  · rw [hdb]
    intro row hrow
    exact hpost accepted rfl row hrow

theorem State.linked_step {s : State} (hgood : s.db.Good s.tick) (hlinked : s.db.Linked)
    (event : Event) : (s.step canonicalPayloadHash grace event).db.Linked := by
  cases event with
  | batch batch => exact linked_ingest hgood hlinked batch
  | declare id declared =>
    intro row hrow
    refine (hlinked row hrow).mono ⟨rfl, rfl, rfl, rfl⟩ (fun c hc => ?_) fun e he => he
    have hid := redeclared_identity c declared id
    exact ⟨_, List.mem_map_of_mem hc, hid.1, hid.2.1⟩
  | register declared =>
    simp only [State.step]
    split
    · exact hlinked
    · intro row hrow
      exact (hlinked row hrow).mono ⟨rfl, rfl, rfl, rfl⟩
        (fun c hc => ⟨c, List.mem_append_left _ hc, rfl, rfl⟩) fun e he => he
  | account sessions evidence =>
    intro row hrow
    exact (hlinked row hrow).mono ⟨rfl, rfl, rfl, rfl⟩ (fun c hc => ⟨c, hc, rfl, rfl⟩)
      fun e he => he

end Linked

section Matched

/-- Evidence that vouches for a binding's session: its RADIUS anchor, and a stop or report later. -/
def BindingRow.Vouched (db : Db) (now liveness observedAt : Int) (binding : BindingRow) : Prop :=
  (∃ event ∈ db.evidence, joinsAnchor binding event = true) ∧
    ∃ session ∈ db.sessions, joinsSession binding session = true ∧
      session.evidenceComplete = true ∧
      sessionCovers now liveness observedAt session (stopEvidence db binding session) = true

instance (db : Db) (now liveness observedAt : Int) (binding : BindingRow) :
    Decidable (binding.Vouched db now liveness observedAt) := by
  unfold BindingRow.Vouched
  infer_instance

variable {db : Db} {now liveness observedAt : Int} {org publicIpv4 port protocol : Nat}

variable {row : Candidate}

theorem mem_joinedRows {binding : BindingRow}
    (h : row ∈ joinedRows db now liveness observedAt binding) :
    row.binding = binding ∧ row.config ∈ db.configs ∧ joinsConfig binding row.config = true ∧
      sessionCovers now liveness observedAt row.session row.stop = true := by
  obtain ⟨config, hconfig, h⟩ := List.mem_flatMap.mp h
  obtain ⟨row', hrow', h⟩ := List.mem_flatMap.mp h
  obtain ⟨anchor, -, h⟩ := List.mem_flatMap.mp h
  obtain ⟨event, -, h⟩ := List.mem_flatMap.mp h
  obtain rfl := List.eq_of_mem_replicate h
  obtain ⟨session, hsession, rfl⟩ := List.mem_map.mp hrow'
  have hcovers := (List.mem_filter.mp hsession).2
  rw [Bool.and_eq_true] at hcovers
  exact ⟨rfl, (List.mem_filter.mp hconfig).1, (List.mem_filter.mp hconfig).2, hcovers.2⟩

theorem exists_mem_joinedRows {binding : BindingRow} (hlinked : binding.Linked db)
    (hvouched : binding.Vouched db now liveness observedAt) :
    ∃ row, row ∈ joinedRows db now liveness observedAt binding := by
  obtain ⟨⟨config, hconfig, hjoinConfig⟩, event, hevent, hjoinEvent⟩ := hlinked
  obtain ⟨⟨anchor, hanchor, hjoinAnchor⟩, session, hsession, hjoinSession, hcomplete, hcovers⟩ :=
    hvouched
  refine ⟨⟨binding, config, session, stopEvidence db binding session⟩,
    List.mem_flatMap.mpr ⟨config, List.mem_filter.mpr ⟨hconfig, hjoinConfig⟩,
      List.mem_flatMap.mpr ⟨_, List.mem_map.mpr ⟨session, ?_, rfl⟩,
        List.mem_flatMap.mpr ⟨anchor, List.mem_filter.mpr ⟨hanchor, hjoinAnchor⟩,
          List.mem_flatMap.mpr ⟨event, List.mem_filter.mpr ⟨hevent, hjoinEvent⟩, ?_⟩⟩⟩⟩⟩
  · refine List.mem_filter.mpr ⟨List.mem_filter.mpr ⟨hsession, hjoinSession⟩, ?_⟩
    rw [hcomplete, hcovers]
    rfl
  · exact List.mem_replicate.mpr ⟨by omega, rfl⟩

theorem mem_candidates :
    row ∈ candidates db org now liveness publicIpv4 port protocol observedAt ↔
      ∃ binding ∈ db.bindings, binding.ofTuple org publicIpv4 port protocol = true ∧
        binding.mayHold observedAt = true ∧
        row ∈ joinedRows db now liveness observedAt binding := by
  unfold candidates
  rw [List.mem_flatMap]
  constructor
  · rintro ⟨binding, hbinding, hrow⟩
    obtain ⟨hmem, hp⟩ := List.mem_filter.mp hbinding
    rw [Bool.and_eq_true] at hp
    exact ⟨binding, hmem, hp.1, hp.2, hrow⟩
  · rintro ⟨binding, hmem, htuple, hmay, hrow⟩
    exact ⟨binding, List.mem_filter.mpr ⟨hmem, by rw [htuple, hmay]; rfl⟩, hrow⟩

variable {a : Attribution}

theorem assess_ok (h : assess db org publicIpv4 observedAt row = .ok a) :
    a = publicAttribution row ∧ certainlyCoversInstant row.binding observedAt = true ∧
      (db.configs.find? fun c => decide (c.id = row.binding.exporterConfigId ∧
        c.organizationId = org)).any (·.healthy row.binding.widenedStart observedAt) = true := by
  unfold assess at h
  obtain ⟨_, hcovers, h⟩ := ok_of_bind h
  obtain ⟨_, -, h⟩ := ok_of_bind h
  obtain ⟨_, hhealthy, h⟩ := ok_of_bind h
  obtain ⟨_, -, h⟩ := ok_of_bind h
  cases h
  have hcovers' := refuseIf_ok hcovers
  have hhealthy' := refuseIf_ok hhealthy
  simp only [Bool.not_eq_true', Bool.not_eq_false] at hcovers' hhealthy'
  exact ⟨rfl, hcovers', hhealthy'⟩

theorem ExporterConfig.healthy_horizon {config : ExporterConfig} {start : Int}
    (h : config.healthy start observedAt = true) :
    ∃ horizon, config.coverageHorizonAt = some horizon ∧ observedAt ≤ horizon := by
  simp only [ExporterConfig.healthy, Bool.and_eq_true] at h
  obtain ⟨horizon, hhorizon, hle⟩ := (Option.any_eq_true _ _).mp h.1.1.1.1.1.2
  exact ⟨horizon, hhorizon, of_decide_eq_true hle⟩

theorem accessCertainUntil_of_covers
    (h : sessionCovers now liveness observedAt row.session row.stop = true) :
    ∃ bound, accessCertainUntil row = some bound ∧ observedAt ≤ bound := by
  unfold sessionCovers at h
  unfold accessCertainUntil
  split at h
  · rename_i hstopped
    obtain ⟨e, he, hle⟩ := (Option.any_eq_true _ _).mp h
    simp only [Bool.and_eq_true, decide_eq_true_eq] at hle
    rw [if_pos hstopped, he]
    exact ⟨_, rfl, le_min (Int.le_of_lt hle.1) (Int.le_of_lt hle.2)⟩
  · rename_i hlive
    rw [Bool.and_eq_true] at h
    obtain ⟨received, hreceived, hle⟩ := (Option.any_eq_true _ _).mp h.1
    obtain ⟨last, hlast, hle'⟩ := (Option.any_eq_true _ _).mp h.2
    simp only [Bool.and_eq_true, decide_eq_true_eq] at hle hle'
    rw [if_neg hlive, hlast, hreceived]
    exact ⟨_, rfl, le_min hle' hle.2⟩

/-- The binding is the only one that may hold the port by its evidence, and holds it for certain. -/
structure Certain (db : Db) (org : Nat) (now liveness : Int) (publicIpv4 port protocol : Nat)
    (observedAt : Int) (a : Attribution) : Prop where
  stored : a.binding ∈ db.bindings
  ofTuple : a.binding.ofTuple org publicIpv4 port protocol = true
  certainFrom : a.certainFrom ≤ observedAt
  certainUntil : ∃ bound, a.certainUntil = some bound ∧ observedAt ≤ bound
  sole : ∀ other ∈ db.bindings, other.id ≠ a.binding.id →
    other.ofTuple org publicIpv4 port protocol = true →
    other.Vouched db now liveness observedAt → other.mayHold observedAt = false

theorem certain_of_assess (hkeyed : Table.Keyed ExporterConfig.id db.configs) (hlinked : db.Linked)
    (hsole : candidates db org now liveness publicIpv4 port protocol observedAt = [row])
    (h : assess db org publicIpv4 observedAt row = .ok a) :
    Certain db org now liveness publicIpv4 port protocol observedAt a := by
  obtain ⟨rfl, hcovers, hhealthy⟩ := assess_ok h
  have hmem : row ∈ candidates db org now liveness publicIpv4 port protocol observedAt := by
    rw [hsole]
    exact List.mem_singleton_self row
  obtain ⟨binding, hbinding, htuple, hmay, hrow⟩ := mem_candidates.mp hmem
  obtain ⟨rfl, hconfig, hjoin, hsession⟩ := mem_joinedRows hrow
  rw [certainlyCoversInstant, Bool.and_eq_true, decide_eq_true_eq] at hcovers
  refine ⟨hbinding, htuple, hcovers.1, ?_, fun other hother hne hotherTuple hvouched => ?_⟩
  · obtain ⟨bound, hbound, hle⟩ := accessCertainUntil_of_covers hsession
    have hcertain : ∃ last, bindingCertainUntil row = some last ∧ observedAt ≤ last := by
      unfold bindingCertainUntil
      cases hreleased : row.binding.releasedAt with
      | some releasedAt =>
        have hlt := hcovers.2
        rw [hreleased, Option.all_some, decide_eq_true_eq] at hlt
        exact ⟨_, rfl, Int.le_of_lt hlt⟩
      | none =>
        obtain ⟨config, hfind, hhealthy⟩ := (Option.any_eq_true _ _).mp hhealthy
        have hid := List.find?_some hfind
        rw [decide_eq_true_eq] at hid
        have hjoin' := of_decide_eq_true hjoin
        have hsame : config = row.config := List.inj_on_of_nodup_map hkeyed
          (List.mem_of_find?_eq_some hfind) hconfig (hid.1.trans hjoin'.1.symm)
        exact hsame ▸ config.healthy_horizon hhealthy
    obtain ⟨last, hlast, hle'⟩ := hcertain
    refine ⟨min last bound, ?_, le_min hle' hle⟩
    simp only [publicAttribution, hlast, hbound, Option.bind_some, Option.map_some]
  · by_contra hholds
    rw [Bool.not_eq_false] at hholds
    obtain ⟨row', hrow'⟩ := exists_mem_joinedRows (hlinked other hother) hvouched
    have hmem' := mem_candidates.mpr ⟨other, hother, hotherTuple, hholds, hrow'⟩
    rw [hsole, List.mem_singleton] at hmem'
    rw [hmem'] at hrow'
    exact hne (congrArg BindingRow.id (mem_joinedRows hrow').1).symm

theorem lookup_matched {cases : List GovDataRequest} {lookup : Lookup}
    (h : lookupAttribution db cases org now liveness lookup = .ok (.matched a)) :
    ∃ port protocol row, lookup.translated = some (port, protocol) ∧
      candidates db org now liveness lookup.publicIpv4 port protocol lookup.observedAt = [row] ∧
      assess db org lookup.publicIpv4 lookup.observedAt row = .ok a := by
  unfold lookupAttribution at h
  obtain ⟨_, -, h⟩ := ok_of_bind h
  obtain ⟨request, -, h⟩ := ok_of_bind h
  split at h
  · nomatch h
  · rename_i port protocol htranslated
    split at h
    · nomatch h
    · rename_i row hrow
      split at h
      · nomatch h
      · rename_i attribution hassess
        obtain ⟨_, -, h⟩ := ok_of_bind h
        cases h
        exact ⟨port, protocol, row, htranslated, hrow, hassess⟩
    · nomatch h

end Matched

/-- In every store that batches, declarations and accounting lead to, a matched answer is certain. -/
theorem run_matched_certain {canonicalPayloadHash : Nat → Binding → String} {grace : Int}
    {s : State} (hgood : s.db.Good s.tick) (hlinked : s.db.Linked) (events : List Event)
    {cases : List GovDataRequest} {org : Nat} {now liveness : Int} {lookup : Lookup}
    {a : Attribution}
    (h : lookupAttribution (Transition.run (State.step canonicalPayloadHash grace) s events).db
      cases org now liveness lookup = .ok (.matched a)) :
    ∃ port protocol, lookup.translated = some (port, protocol) ∧
      Certain (Transition.run (State.step canonicalPayloadHash grace) s events).db org now liveness
        lookup.publicIpv4 port protocol lookup.observedAt a := by
  have hrun := Transition.run_preserves (I := fun s : State => s.db.Good s.tick ∧ s.db.Linked)
    (fun s event hs => ⟨@State.good_step canonicalPayloadHash grace s hs.1 event,
      State.linked_step hs.1 hs.2 event⟩) ⟨hgood, hlinked⟩ events
  obtain ⟨port, protocol, row, htranslated, hsole, hassess⟩ := lookup_matched h
  exact ⟨port, protocol, htranslated, certain_of_assess hrun.1.keyed.configs hrun.2 hsole hassess⟩

/-- A record whose clock was exact. -/
def sureRecord (record : Record) : Record := { record with clockUncertaintyMs := some 0 }

/-- One port is handed over at 200, and an event at 300 moves the horizon on. -/
def sampleHandover : Batch :=
  sampleBatch [sampleRecord "allocate" "x" 10 100 none "a" "1" 1,
    sampleRecord "release" "x" 10 100 (some 200) "a" "2" 2,
    sureRecord (sampleRecord "allocate" "y" 11 200 none "b" "3" 3),
    { sureRecord (sampleRecord "allocate" "z" 11 300 none "b" "4" 4) with
      publicPortStart := some 2001, publicPortEnd := some 2001 }]

/-- The session of the first subscriber stops at 203. -/
def sampleStop : Event :=
  .account [{ sampleSession 1 "a" 10 with stopped := true }, sampleSession 2 "b" 11]
    (sampleDb.evidence ++ [⟨3, 1, "a", true, some 10, 203, 203, some "h"⟩])

/-- An approved case about port 2000 at 205. -/
def sampleCase : GovDataRequest :=
  ⟨1, 1, true, true, true, none, none, some 134744072, some (2000, 6), some 205⟩

def sampleLookup : Lookup := ⟨1, 134744072, some (2000, 6), 205⟩

def sampleStore : Db :=
  (Transition.run (State.step sampleDigest 900000) sampleState
    [.batch sampleHandover, sampleStop]).db

def attributed : Except Refusal Answer → Option Attribution
  | .ok (.matched a) => some a
  | _ => none

theorem eq_of_attributed {answer : Except Refusal Answer} {a : Attribution}
    (h : attributed answer = some a) : answer = .ok (.matched a) := by
  unfold attributed at h
  split at h
  · rw [Option.some.inj h]
  · cases h

theorem run_matched_certain_sample :
    ∃ a, lookupAttribution sampleStore [sampleCase] 1 1000000 3600000 sampleLookup =
        .ok (.matched a) ∧
      ∃ port protocol, sampleLookup.translated = some (port, protocol) ∧
        Certain sampleStore 1 1000000 3600000 sampleLookup.publicIpv4 port protocol
          sampleLookup.observedAt a := by
  have hmatched : (attributed (lookupAttribution sampleStore [sampleCase] 1 1000000 3600000
      sampleLookup)).isSome = true := by decide +kernel
  obtain ⟨a, ha⟩ := Option.isSome_iff_exists.mp hmatched
  have h := eq_of_attributed ha
  exact ⟨a, h, run_matched_certain remembers_sampleState.good
    (fun _ hrow => absurd hrow List.not_mem_nil) [.batch sampleHandover, sampleStop] h⟩

/-- The answer hides the binding of a session that stopped within the clock uncertainty. -/
theorem matched_hides_stopped :
    ∃ a, lookupAttribution sampleStore [sampleCase] 1 1000000 3600000 sampleLookup =
        .ok (.matched a) ∧
      ∃ other ∈ sampleStore.bindings, other.id ≠ a.binding.id ∧
        other.ofTuple 1 134744072 2000 6 = true ∧ other.mayHold 205 = true := by
  have hmatched : ((attributed (lookupAttribution sampleStore [sampleCase] 1 1000000 3600000
      sampleLookup)).any fun a => decide (∃ other ∈ sampleStore.bindings,
        other.id ≠ a.binding.id ∧ other.ofTuple 1 134744072 2000 6 = true ∧
          other.mayHold 205 = true)) = true := by decide +kernel
  obtain ⟨a, ha, hother⟩ := (Option.any_eq_true _ _).mp hmatched
  exact ⟨a, eq_of_attributed ha, of_decide_eq_true hother⟩

end FireIsp.Cgnat
