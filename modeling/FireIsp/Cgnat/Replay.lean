import FireIsp.Cgnat.Serial

/-!
# Replayed and conflicting batches

An accepted event stays stored with its digest.  A batch of stored events changes nothing but
the receipts, and a batch that reuses the identity of a stored event for another record is
refused as a whole.
-/

namespace FireIsp.Cgnat

open Txn Fallible

variable {canonicalPayloadHash : Nat → Binding → String} {grace : Int} {org token : Nat}

/-- The event of a record is stored, with its digest. -/
def Stored (canonicalPayloadHash : Nat → Binding → String) (db : Db) (org : Nat)
    (binding : Binding) : Prop :=
  ∃ config ∈ db.configs, config.organizationId = org ∧ config.exporter = binding.exporter ∧
    ∃ row ∈ db.events, row.isEvent org config.id binding.exporterBootId binding.eventId = true ∧
      row.payloadHash = canonicalPayloadHash org binding

/-- Two records carry the same exporter event identity. -/
def Binding.SameEvent (a b : Binding) : Prop :=
  a.exporter = b.exporter ∧ a.exporterBootId = b.exporterBootId ∧ a.eventId = b.eventId

/-- All tables but the receipts are the same. -/
structure SameLedger (before after : Db) : Prop where
  configs : after.configs = before.configs
  tupleLocks : after.tupleLocks = before.tupleLocks
  bindings : after.bindings = before.bindings
  events : after.events = before.events
  sessions : after.sessions = before.sessions
  evidence : after.evidence = before.evidence

theorem SameLedger.of_eq {before after : Db} (h : after = before) : SameLedger before after := by
  subst h
  exact ⟨rfl, rfl, rfl, rfl, rfl, rfl⟩

theorem Stored.mono {before after : Db} {binding : Binding}
    (h : Stored canonicalPayloadHash before org binding)
    (hconfigs : ∀ c ∈ before.configs, ∃ d ∈ after.configs, d.id = c.id ∧
      d.organizationId = c.organizationId ∧ d.exporter = c.exporter)
    (hevents : ∀ e ∈ before.events, e ∈ after.events) :
    Stored canonicalPayloadHash after org binding := by
  obtain ⟨config, hmem, horg, hexporter, row, hrow, hevent, hhash⟩ := h
  obtain ⟨d, hd, hid, horg', hexporter'⟩ := hconfigs config hmem
  exact ⟨d, hd, horg'.trans horg, hexporter'.trans hexporter, row, hevents row hrow,
    hid ▸ hevent, hhash⟩

theorem Recorded.identities {tick tick' : Nat} {binding : Binding} {config : ExporterConfig}
    {before after : Db} (hgood : before.Good tick)
    (h : Recorded canonicalPayloadHash org token tick tick' binding config before after)
    {c : ExporterConfig} (hc : c ∈ before.configs) (hmem : config ∈ before.configs) :
    ∃ d ∈ after.configs, d.id = c.id ∧ d.organizationId = c.organizationId ∧
      d.exporter = c.exporter := by
  rw [h.configs]
  by_cases hid : c.id = config.id
  · have hsame : c = config := List.inj_on_of_nodup_map hgood.keyed.configs hc hmem hid
    exact ⟨_, (Table.mem_put hgood.keyed.configs).mpr (Or.inl rfl), hid.symm, by rw [hsame]; rfl,
      by rw [hsame]; rfl⟩
  · exact ⟨c, (Table.mem_put hgood.keyed.configs).mpr (Or.inr ⟨hc, hid⟩), rfl, rfl, rfl⟩

section Event

variable {tick tick' : Nat} {binding : Binding} {before after : Db} {accepted : Accepted}

theorem EventDone.keeps_stored (hgood : before.Good tick)
    (h : EventDone canonicalPayloadHash org token tick tick' binding before after (.ok accepted))
    {org' : Nat} {other : Binding} (hstored : Stored canonicalPayloadHash before org' other) :
    Stored canonicalPayloadHash after org' other := by
  obtain ⟨config, hmem, -, -, ⟨-, rfl, -⟩ | ⟨-, hrec⟩⟩ := h
  · exact hstored
  · obtain ⟨id, bindingId, -, -, hevents⟩ := hrec.appended hgood
    refine hstored.mono (fun c hc => hrec.identities hgood hc hmem) fun e he => ?_
    rw [hevents]
    exact List.mem_append_left _ he

theorem EventDone.stored (hgood : before.Good tick)
    (h : EventDone canonicalPayloadHash org token tick tick' binding before after (.ok accepted)) :
    Stored canonicalPayloadHash after org binding := by
  obtain ⟨config, hmem, horg, hexporter, ⟨-, rfl, stored, hfind, hhash⟩ | ⟨-, hrec⟩⟩ := h
  · exact ⟨config, hmem, horg, hexporter, stored, List.mem_of_find?_eq_some hfind,
      List.find?_some hfind, hhash⟩
  · obtain ⟨id, bindingId, -, -, hevents⟩ := hrec.appended hgood
    obtain ⟨d, hd, hid, horg', hexporter'⟩ := hrec.identities hgood hmem hmem
    refine ⟨d, hd, horg'.trans horg, hexporter'.trans hexporter, binding.eventRow id org token
      bindingId config.id (canonicalPayloadHash org binding) (sequenceState config binding
        (before.bootSeenBefore org config binding)).1, ?_, ?_, rfl⟩
    · rw [hevents]
      exact List.mem_append_right _ List.mem_cons_self
    · rw [hid]
      exact decide_eq_true ⟨rfl, rfl, rfl, rfl⟩

theorem EventDone.replay (hgood : before.Good tick)
    (h : EventDone canonicalPayloadHash org token tick tick' binding before after (.ok accepted))
    {other : Binding} (hsame : binding.SameEvent other)
    (hstored : Stored canonicalPayloadHash before org other) :
    after = before ∧ canonicalPayloadHash org binding = canonicalPayloadHash org other := by
  obtain ⟨config, hmem, horg, hexporter, hcase⟩ := h
  obtain ⟨config', hmem', horg', hexporter', row, hrow, hevent, hhash⟩ := hstored
  have hconfig : config = config' := hgood.keyed.identities config hmem config' hmem'
    (horg.trans horg'.symm) (by rw [hexporter, hexporter', hsame.1])
  have hevent' : row.isEvent org config.id binding.exporterBootId binding.eventId = true := by
    rw [hconfig, hsame.2.1, hsame.2.2]
    exact hevent
  rcases hcase with ⟨-, rfl, stored, hfind, hpayload⟩ | ⟨-, hrec⟩
  · have hfirst : stored.isEvent org config.id binding.exporterBootId binding.eventId = true :=
      List.find?_some hfind
    have hfound := of_decide_eq_true hfirst
    have hkey := of_decide_eq_true hevent'
    have heq : stored = row := by
      refine hgood.keyed.replays stored (List.mem_of_find?_eq_some hfind) row hrow ?_
      refine decide_eq_true ?_
      rw [hfound.1, hfound.2.1, hfound.2.2.1, hfound.2.2.2]
      exact hkey
    exact ⟨rfl, by rw [← hpayload, heq, hhash]⟩
  · exact absurd hevent' (List.find?_eq_none.mp hrec.fresh row hrow)

end Event

section Events

variable {tick tick' : Nat} {bindings : List Binding} {before after : Db}

theorem EventsDone.keeps_stored
    (h : EventsDone canonicalPayloadHash org token tick before bindings tick' after) {org' : Nat}
    {other : Binding} (hstored : Stored canonicalPayloadHash before org' other) :
    Stored canonicalPayloadHash after org' other := by
  induction h with
  | nil => exact hstored
  | cons tick tick₁ tick' before middle after binding rest accepted hle hgood hdone hrest ih =>
    exact ih (hdone.keeps_stored hgood hstored)

theorem EventsDone.stored
    (h : EventsDone canonicalPayloadHash org token tick before bindings tick' after) :
    ∀ binding ∈ bindings, Stored canonicalPayloadHash after org binding := by
  induction h with
  | nil => exact fun binding hmem => absurd hmem List.not_mem_nil
  | cons tick tick₁ tick' before middle after binding rest accepted hle hgood hdone hrest ih =>
    intro other hother
    rcases List.mem_cons.mp hother with rfl | hother
    · exact hrest.keeps_stored (hdone.stored hgood)
    · exact ih other hother

theorem EventsDone.unchanged
    (h : EventsDone canonicalPayloadHash org token tick before bindings tick' after)
    (hstored : ∀ binding ∈ bindings, Stored canonicalPayloadHash before org binding) :
    after = before := by
  induction h with
  | nil => rfl
  | cons tick tick₁ tick' before middle after binding rest accepted hle hgood hdone hrest ih =>
    have hsame : binding.SameEvent binding := ⟨rfl, rfl, rfl⟩
    have hfirst := (hdone.replay hgood hsame (hstored binding List.mem_cons_self)).1
    rw [ih fun other hother => ?_, hfirst]
    rw [hfirst]
    exact hstored other (List.mem_cons_of_mem binding hother)

theorem EventsDone.same_digest
    (h : EventsDone canonicalPayloadHash org token tick before bindings tick' after)
    {other : Binding} (hstored : Stored canonicalPayloadHash before org other) :
    ∀ binding ∈ bindings, binding.SameEvent other →
      canonicalPayloadHash org binding = canonicalPayloadHash org other := by
  induction h with
  | nil => exact fun binding hmem => absurd hmem List.not_mem_nil
  | cons tick tick₁ tick' before middle after first rest accepted hle hgood hdone hrest ih =>
    intro binding hmem hsame
    rcases List.mem_cons.mp hmem with rfl | hmem
    · exact (hdone.replay hgood hsame hstored).2
    · exact ih (hdone.keeps_stored hgood hstored) binding hmem hsame

end Events

/-- Good tables whose accepted records are stored. -/
structure Remembers (canonicalPayloadHash : Nat → Binding → String) (s : State) : Prop where
  good : s.db.Good s.tick
  stored : ∀ org binding, (org, binding) ∈ s.accepted →
    Stored canonicalPayloadHash s.db org binding

theorem Remembers.step {s : State} (h : Remembers canonicalPayloadHash s) (event : Event) :
    Remembers canonicalPayloadHash (s.step canonicalPayloadHash grace event) := by
  refine ⟨State.good_step h.good event, fun org binding hmem => ?_⟩
  cases event with
  | batch batch =>
    obtain ⟨-, ⟨e, hvalue, hdb⟩ | ⟨accepted, bindings, tick', copy, receipt, hvalue, hb, hdone, -,
      hdb⟩⟩ := ingest_spec canonicalPayloadHash grace h.good batch
    · simp only [State.step, hvalue, hdb] at hmem ⊢
      exact h.stored org binding hmem
    · simp only [State.step, hvalue, hb, hdb] at hmem ⊢
      have hcopy : Stored canonicalPayloadHash copy org binding := by
        rcases List.mem_append.mp hmem with hold | hnew
        · exact hdone.keeps_stored (h.stored org binding hold)
        · obtain ⟨other, hother, he⟩ := List.mem_map.mp hnew
          cases he
          exact hdone.stored binding hother
      exact hcopy
  | declare id declared =>
    refine (h.stored org binding hmem).mono (fun c hc => ?_) fun e he => he
    exact ⟨_, List.mem_map_of_mem hc, redeclared_identity c declared id⟩
  | register declared =>
    simp only [State.step] at hmem ⊢
    split at hmem
    · rename_i hany
      rw [if_pos hany]
      exact h.stored org binding hmem
    · rename_i hany
      rw [if_neg hany]
      exact (h.stored org binding hmem).mono
        (fun c hc => ⟨c, List.mem_append_left _ hc, rfl, rfl, rfl⟩) fun e he => he
  | account sessions evidence => exact h.stored org binding hmem

theorem Remembers.run {s : State} (h : Remembers canonicalPayloadHash s) (events : List Event) :
    Remembers canonicalPayloadHash
      (Transition.run (State.step canonicalPayloadHash grace) s events) :=
  Transition.run_preserves (fun _ event hs => hs.step event) h events

/-- Digests of a batch do not collide with those of other accepted records. -/
def Distinguishes (canonicalPayloadHash : Nat → Binding → String) (s : State) (batch : Batch) :
    Prop :=
  ∀ bindings, batch.bindings = .ok bindings → ∀ binding ∈ bindings, ∀ other,
    (batch.org, other) ∈ s.accepted →
    canonicalPayloadHash batch.org binding = canonicalPayloadHash batch.org other → binding = other

/-- Accepted records change receipts only, reused identities are refused, and batches are atomic. -/
structure ReplaysSafely (canonicalPayloadHash : Nat → Binding → String) (grace : Int) (s : State)
    (batch : Batch) : Prop where
  replay : ∀ bindings, batch.bindings = .ok bindings →
    (∀ binding ∈ bindings, (batch.org, binding) ∈ s.accepted) →
    SameLedger s.db (ingest canonicalPayloadHash grace s.tick s.db batch).db
  conflict : ∀ bindings, batch.bindings = .ok bindings →
    (∃ binding ∈ bindings, ∃ other, (batch.org, other) ∈ s.accepted ∧ binding.SameEvent other ∧
      binding ≠ other) →
    ∃ e, (ingest canonicalPayloadHash grace s.tick s.db batch).value = .error e
  /-- A refused batch leaves every table as it was; of any other all events are stored. -/
  atomic : (∃ e, (ingest canonicalPayloadHash grace s.tick s.db batch).value = .error e ∧
      (ingest canonicalPayloadHash grace s.tick s.db batch).db = s.db) ∨
    ∃ accepted bindings,
      (ingest canonicalPayloadHash grace s.tick s.db batch).value = .ok accepted ∧
      batch.bindings = .ok bindings ∧ ∀ binding ∈ bindings, Stored canonicalPayloadHash
        (ingest canonicalPayloadHash grace s.tick s.db batch).db batch.org binding

theorem run_replaysSafely {s : State} (hs : Remembers canonicalPayloadHash s)
    (events : List Event) (batch : Batch)
    (hdigest : Distinguishes canonicalPayloadHash
      (Transition.run (State.step canonicalPayloadHash grace) s events) batch) :
    ReplaysSafely canonicalPayloadHash grace
      (Transition.run (State.step canonicalPayloadHash grace) s events) batch := by
  have ht : Remembers canonicalPayloadHash
      (Transition.run (State.step canonicalPayloadHash grace) s events) := hs.run events
  generalize Transition.run (State.step canonicalPayloadHash grace) s events = t at hdigest ht ⊢
  obtain ⟨-, ⟨e, hvalue, hdb⟩ | ⟨accepted, bindings, tick', copy, receipt, hvalue, hb, hdone, -,
    hdb⟩⟩ := ingest_spec canonicalPayloadHash grace ht.good batch
  · exact ⟨fun _ _ _ => .of_eq hdb, fun _ _ _ => ⟨e, hvalue⟩, Or.inl ⟨e, hvalue, hdb⟩⟩
  · refine ⟨fun bindings' hb' hall => ?_, fun bindings' hb' hconflict => ?_, Or.inr
      ⟨accepted, bindings, hvalue, hb, fun binding hmem => ?_⟩⟩
    · obtain rfl : bindings = bindings' := Except.ok.inj (hb.symm.trans hb')
      have hsame : copy = t.db := hdone.unchanged fun binding hmem =>
        ht.stored batch.org binding (hall binding hmem)
      rw [hdb, hsame]
      exact ⟨rfl, rfl, rfl, rfl, rfl, rfl⟩
    · obtain rfl : bindings = bindings' := Except.ok.inj (hb.symm.trans hb')
      obtain ⟨binding, hmem, other, hother, hsame, hne⟩ := hconflict
      have heq := hdone.same_digest (ht.stored batch.org other hother) binding hmem hsame
      exact absurd (hdigest bindings hb binding hmem other hother heq) hne
    · rw [hdb]
      have hcopy := hdone.stored binding hmem
      exact hcopy

def sampleBatch (records : List Record) : Batch := ⟨⟨500, 300⟩, 1000000, 1, 5, records⟩

/-- The sample tables, and nothing accepted. -/
def sampleState : State := ⟨10, sampleDb, []⟩

def sampleDigest (_ : Nat) (binding : Binding) : String :=
  binding.eventId ++ ":" ++ toString binding.translation.publicPortStart

theorem remembers_sampleState : Remembers sampleDigest sampleState := by
  have hgood : sampleDb.Good 10 := by
    refine ⟨⟨List.nodup_singleton _, ?_, List.nodup_nil, fun _ h => absurd h List.not_mem_nil⟩,
      fun _ h => absurd h List.not_mem_nil, ?_, fun _ h => absurd h List.not_mem_nil⟩
    · intro c hc d hd _ _
      rw [List.mem_singleton.mp hc, List.mem_singleton.mp hd]
    · intro c hc
      rw [List.mem_singleton.mp hc]
      decide
  exact ⟨hgood, fun _ _ h => absurd h List.not_mem_nil⟩

/-- After the sample batch, a record of another port under an accepted event. -/
def sampleConflict : Batch :=
  sampleBatch [{ sampleRecord "allocate" "z" 10 300 none "a" "1" 4 with
    publicPortStart := some 2001, publicPortEnd := some 2001 }]

theorem run_replaysSafely_sample :
    ReplaysSafely sampleDigest 900000
      (Transition.run (State.step sampleDigest 900000) sampleState
        [.batch (sampleBatch sampleRecords)]) sampleConflict := by
  refine run_replaysSafely remembers_sampleState _ _ ?_
  intro bindings hb binding hmem other hother
  have hvalue : sampleConflict.bindings.toOption = some bindings := by rw [hb]; rfl
  have hall : ∀ b ∈ sampleConflict.bindings.toOption.getD [],
      ∀ p ∈ (Transition.run (State.step sampleDigest 900000) sampleState
        [.batch (sampleBatch sampleRecords)]).accepted,
      sampleDigest 1 b = sampleDigest 1 p.2 → b = p.2 := by decide +kernel
  rw [hvalue] at hall
  exact hall binding hmem (1, other) hother

end FireIsp.Cgnat
