import FireIsp.Cgnat.Replay

/-!
# Continuity of an exporter

As long as no gap and no late event was counted for a declaration, its accepted events are one
boot's sequence numbers without omissions, in the order they were accepted.
-/

namespace FireIsp.Cgnat

open Txn

variable {canonicalPayloadHash : Nat → Binding → String} {grace : Int} {org token : Nat}

/-- Accepted events of a declaration, in the order they were stored. -/
def Db.eventsOf (db : Db) (configId : Nat) : List EventRow :=
  db.events.filter fun e => decide (e.exporterConfigId = configId)

/-- The events are sequence numbers from 0 or 1 on of the boot the declaration is at. -/
def Contiguous (config : ExporterConfig) (events : List EventRow) : Prop :=
  match config.lastExporterBootId with
  | none => events = []
  | some boot => (∀ e ∈ events, e.exporterBootId = boot) ∧ ∃ first ≤ 1,
      events.map EventRow.sequenceNumber = List.range' first events.length ∧
        config.lastSequenceNumber + 1 = first + events.length

/-- Declarations without a counted gap or late event are contiguous. -/
def Continuous (db : Db) : Prop :=
  ∀ config ∈ db.configs, config.sequenceGapEvents = 0 → config.outOfOrderEvents = 0 →
    Contiguous config (db.eventsOf config.id)

theorem sequenceState_cases (config : ExporterConfig) (binding : Binding) (seen : Bool) :
    (sequenceState config binding seen).1 = .gap ∨
      (sequenceState config binding seen).1 = .outOfOrder ∨
      ((sequenceState config binding seen).2.2 = true ∧
        ((config.lastExporterBootId = none ∧ binding.sequenceNumber ≤ 1) ∨
          (config.lastExporterBootId = some binding.exporterBootId ∧
            binding.sequenceNumber = config.lastSequenceNumber + 1))) := by
  unfold sequenceState
  cases hboot : config.lastExporterBootId with
  | none =>
    by_cases hseq : binding.sequenceNumber ≤ 1
    · exact Or.inr (Or.inr ⟨by simp only [if_pos hseq], Or.inl ⟨rfl, hseq⟩⟩)
    · exact Or.inl (by simp only [if_neg hseq])
  | some boot =>
    by_cases hsame : boot = binding.exporterBootId
    · simp only [hsame, ne_eq, not_true_eq_false, if_false]
      split
      · exact Or.inr (Or.inl rfl)
      · split
        · rename_i hnext
          exact Or.inr (Or.inr ⟨rfl, Or.inr ⟨trivial, hnext⟩⟩)
        · split
          · exact Or.inl rfl
          · exact Or.inr (Or.inl rfl)
    · simp only [ne_eq, hsame, not_false_eq_true, if_true]
      split
      · exact Or.inr (Or.inl rfl)
      · exact Or.inl rfl

theorem Contiguous.advance {config : ExporterConfig} {binding : Binding} {events : List EventRow}
    {seen : Bool} {row : EventRow} (h : Contiguous config events)
    (hgap : (sequenceState config binding seen).1 ≠ .gap)
    (hlate : (sequenceState config binding seen).1 ≠ .outOfOrder)
    (hboot : row.exporterBootId = binding.exporterBootId)
    (hseq : row.sequenceNumber = binding.sequenceNumber) :
    Contiguous (config.advance (binding.advance (sequenceState config binding seen)))
      (events ++ [row]) := by
  obtain ⟨hadvances, hcase⟩ :=
    ((sequenceState_cases config binding seen).resolve_left hgap).resolve_left hlate
  have hlast : (config.advance (binding.advance
      (sequenceState config binding seen))).lastExporterBootId = some binding.exporterBootId :=
    if_pos hadvances
  have hnumber : (config.advance (binding.advance
      (sequenceState config binding seen))).lastSequenceNumber = binding.sequenceNumber :=
    if_pos hadvances
  unfold Contiguous at h ⊢
  rw [hlast, hnumber]
  rcases hcase with ⟨hnone, hle⟩ | ⟨hsame, hnext⟩
  · rw [hnone] at h
    rw [h]
    refine ⟨fun e he => ?_, binding.sequenceNumber, hle, ?_, rfl⟩
    · rw [List.mem_singleton.mp he, hboot]
    · rw [← hseq]
      rfl
  · rw [hsame] at h
    obtain ⟨hboots, first, hfirst, hmap, hend⟩ := h
    refine ⟨fun e he => ?_, first, hfirst, ?_, ?_⟩
    · rcases List.mem_append.mp he with he | he
      · exact hboots e he
      · rw [List.mem_singleton.mp he, hboot]
    · rw [List.map_append, hmap, List.length_append, List.length_singleton, List.range'_1_concat]
      have hvalue : row.sequenceNumber = first + events.length := by omega
      rw [List.map_singleton, hvalue]
    · rw [List.length_append, List.length_singleton]
      omega

theorem Recorded.continuous {tick tick' : Nat} {binding : Binding} {config : ExporterConfig}
    {before after : Db} (hgood : before.Good tick) (hmem : config ∈ before.configs)
    (hcont : Continuous before)
    (h : Recorded canonicalPayloadHash org token tick tick' binding config before after) :
    Continuous after := by
  obtain ⟨id, bindingId, -, -, hevents⟩ := h.appended hgood
  intro c hc hgap hlate
  rw [h.configs] at hc
  rcases mem_advanced hgood.keyed.configs hc with rfl | ⟨hold, hne⟩
  · have hgap' : config.sequenceGapEvents + (if (sequenceState config binding
        (before.bootSeenBefore org config binding)).1 = .gap then 1 else 0) = 0 := hgap
    have hlate' : config.outOfOrderEvents + (if (sequenceState config binding
        (before.bootSeenBefore org config binding)).1 = .outOfOrder then 1 else 0) = 0 := hlate
    have hnogap : (sequenceState config binding
        (before.bootSeenBefore org config binding)).1 ≠ .gap := fun he => by
      rw [if_pos he] at hgap'
      omega
    have hnolate : (sequenceState config binding
        (before.bootSeenBefore org config binding)).1 ≠ .outOfOrder := fun he => by
      rw [if_pos he] at hlate'
      omega
    have hbefore := hcont config hmem (by omega) (by omega)
    have hof : after.eventsOf config.id = before.eventsOf config.id ++
        [binding.eventRow id org token bindingId config.id (canonicalPayloadHash org binding)
          (sequenceState config binding (before.bootSeenBefore org config binding)).1] := by
      unfold Db.eventsOf
      rw [hevents, List.filter_append]
      congr 1
      exact List.filter_cons_of_pos (decide_eq_true rfl)
    change Contiguous _ (after.eventsOf config.id)
    rw [hof]
    exact hbefore.advance hnogap hnolate rfl rfl
  · have hof : after.eventsOf c.id = before.eventsOf c.id := by
      unfold Db.eventsOf
      rw [hevents, List.filter_append]
      have hother : ¬(decide (config.id = c.id) = true) := fun he =>
        hne (of_decide_eq_true he).symm
      have hnil := List.filter_cons_of_neg (l := []) (a := binding.eventRow id org token bindingId
        config.id (canonicalPayloadHash org binding)
        (sequenceState config binding (before.bootSeenBefore org config binding)).1)
        (p := fun e => decide (e.exporterConfigId = c.id)) hother
      rw [hnil, List.filter_nil, List.append_nil]
    rw [hof]
    exact hcont c hold hgap hlate

theorem EventsDone.continuous {tick tick' : Nat} {bindings : List Binding} {before after : Db}
    (h : EventsDone canonicalPayloadHash org token tick before bindings tick' after)
    (hcont : Continuous before) : Continuous after := by
  induction h with
  | nil => exact hcont
  | cons tick tick₁ tick' before middle after binding rest accepted hle hgood hdone hrest ih =>
    obtain ⟨config, hmem, -, -, ⟨-, rfl, -⟩ | ⟨-, hrec⟩⟩ := hdone
    · exact ih hcont
    · exact ih (hrec.continuous hgood hmem hcont)

structure Steady (s : State) : Prop where
  good : s.db.Good s.tick
  continuous : Continuous s.db

theorem Steady.step {s : State} (h : Steady s) (event : Event) :
    Steady (s.step canonicalPayloadHash grace event) := by
  refine ⟨State.good_step h.good event, ?_⟩
  cases event with
  | batch batch =>
    obtain ⟨-, ⟨e, -, hdb⟩ | ⟨accepted, bindings, tick', copy, receipt, -, -, hdone, -, hdb⟩⟩ :=
      ingest_spec canonicalPayloadHash grace h.good batch
    · change Continuous (ingest canonicalPayloadHash grace s.tick s.db batch).db
      rw [hdb]
      exact h.continuous
    · change Continuous (ingest canonicalPayloadHash grace s.tick s.db batch).db
      rw [hdb]
      have hcopy := hdone.continuous h.continuous
      exact hcopy
  | declare id declared =>
    intro c hc hgap hlate
    obtain ⟨c', hc', rfl⟩ := List.mem_map.mp hc
    by_cases hid : c'.id = id
    · rw [if_pos hid] at hgap hlate ⊢
      exact h.continuous c' hc' hgap hlate
    · rw [if_neg hid] at hgap hlate ⊢
      exact h.continuous c' hc' hgap hlate
  | register declared =>
    simp only [State.step]
    split
    · exact h.continuous
    · intro c hc hgap hlate
      rcases List.mem_append.mp hc with hold | hnew
      · exact h.continuous c hold hgap hlate
      · rw [List.mem_singleton.mp hnew]
        refine List.filter_eq_nil_iff.mpr fun e he hid => ?_
        obtain ⟨d, hd, hown⟩ := h.good.owned e he
        have hlt := h.good.configsBelow d hd
        have heq : e.exporterConfigId = s.tick := of_decide_eq_true hid
        omega
  | account sessions evidence => exact h.continuous

/-- Accepted events without a gap or a late one carry one boot and successive numbers. -/
theorem run_contiguous {s : State} (hs : Steady s) (events : List Event) {config : ExporterConfig}
    (hconfig : config ∈ (Transition.run (State.step canonicalPayloadHash grace) s events).db.configs)
    (hgap : config.sequenceGapEvents = 0) (hlate : config.outOfOrderEvents = 0) :
    ∃ boot first,
      (∀ e ∈ (Transition.run (State.step canonicalPayloadHash grace) s events).db.eventsOf config.id,
        e.exporterBootId = boot) ∧
      ((Transition.run (State.step canonicalPayloadHash grace) s events).db.eventsOf config.id).map
          EventRow.sequenceNumber =
        List.range' first ((Transition.run (State.step canonicalPayloadHash grace) s
          events).db.eventsOf config.id).length := by
  have hrun : Steady (Transition.run (State.step canonicalPayloadHash grace) s events) :=
    Transition.run_preserves (fun _ event ht => ht.step event) hs events
  have hcont := hrun.continuous config hconfig hgap hlate
  unfold Contiguous at hcont
  cases hboot : config.lastExporterBootId with
  | none =>
    rw [hboot] at hcont
    have hnil : (Transition.run (State.step canonicalPayloadHash grace) s events).db.eventsOf
        config.id = [] := hcont
    rw [hnil]
    exact ⟨"", 0, fun e he => absurd he List.not_mem_nil, rfl⟩
  | some boot =>
    rw [hboot] at hcont
    obtain ⟨hboots, first, -, hmap, -⟩ := hcont
    exact ⟨boot, first, hboots, hmap⟩

theorem steady_sampleState : Steady sampleState := by
  refine ⟨remembers_sampleState.good, fun c hc _ _ => ?_⟩
  rw [List.mem_singleton.mp hc]
  rfl

/-- A sample run counts neither a gap nor a late event, and is contiguous. -/
theorem run_contiguous_sample :
    ∃ config ∈ (Transition.run (State.step sampleDigest 900000) sampleState
        [.batch (sampleBatch sampleRecords)]).db.configs,
      ∃ boot first,
        (∀ e ∈ (Transition.run (State.step sampleDigest 900000) sampleState
          [.batch (sampleBatch sampleRecords)]).db.eventsOf config.id, e.exporterBootId = boot) ∧
        ((Transition.run (State.step sampleDigest 900000) sampleState
          [.batch (sampleBatch sampleRecords)]).db.eventsOf config.id).map EventRow.sequenceNumber =
          List.range' first ((Transition.run (State.step sampleDigest 900000) sampleState
            [.batch (sampleBatch sampleRecords)]).db.eventsOf config.id).length := by
  have hconfig : ∃ config ∈ (Transition.run (State.step sampleDigest 900000) sampleState
      [.batch (sampleBatch sampleRecords)]).db.configs,
      config.sequenceGapEvents = 0 ∧ config.outOfOrderEvents = 0 ∧
        config.lastSequenceNumber = 3 := by decide +kernel
  obtain ⟨config, hmem, hgap, hlate, -⟩ := hconfig
  exact ⟨config, hmem, run_contiguous steady_sampleState _ hmem hgap hlate⟩

end FireIsp.Cgnat
