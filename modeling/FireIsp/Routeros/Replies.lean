import FireIsp.Routeros.RoundTrip

/-!
# Replies and the commands they answer

A router answers commands in their order.  As long as no sentence comes in late for a command that
has ended, while another one waits, every command is ended by sentences of its own answer.
-/

namespace FireIsp.Routeros

open Transition

/-- What a router answers: data, an error perhaps, and an end. -/
def isAnswer : List Sentence → Bool
  | [] => false
  | sentence :: rest =>
    if sentence.head? = some re then isAnswer rest
    else if sentence.head? = some trap then
      match rest with
      | [last] => last.head? = some done
      | _ => false
    else sentence.head? = some done && rest.isEmpty

theorem done_of_isAnswer {answer : List Sentence} (h : isAnswer answer = true) :
    ∃ sentence ∈ answer, sentence.head? = some done := by
  induction answer with
  | nil => exact nomatch h
  | cons sentence rest ih =>
    unfold isAnswer at h
    split_ifs at h with hre htrap
    · obtain ⟨last, hlast, hdone⟩ := ih h
      exact ⟨last, List.mem_cons_of_mem _ hlast, hdone⟩
    · match rest, h with
      | [last], h =>
        exact ⟨last, List.mem_cons_of_mem _ List.mem_cons_self, of_decide_eq_true h⟩
    · exact ⟨sentence, List.mem_cons_self, of_decide_eq_true ((Bool.and_eq_true _ _).mp h).1⟩

namespace Client

variable {c : Client}

/-- The bytes the router has yet to send, and those that came in. -/
def stream (c : Client) : List UInt8 := (c.owed.map Prod.snd).flatMap encodeSentence

/-- The router answers commands in their order. -/
def Answers (c : Client) : Event → Prop
  | .run answer _ =>
    isAnswer answer = true ∧ ∀ sentence ∈ answer, ∀ word ∈ sentence, Sendable word
  | .data chunk => c.buf ++ chunk <+: c.stream
  | _ => True

/-- Where the next sentence is part of the answer to a command that has ended, no command waits. -/
def OnTime (c : Client) : Prop :=
  ∀ entry ∈ c.owed.head?, entry.1 ∈ c.pending.map Pending.id ∨ c.pending = []

/-- So it is for each sentence that comes in. -/
def Punctual (c : Client) : Event → Prop
  | .data chunk =>
    ∀ read ∈ parseSentences (c.buf ++ chunk),
      Along deliver (fun c _ => c.OnTime) { c with buf := read.2 } read.1
  | _ => True

instance (c : Client) : DecidablePred c.Answers
  | .run _ _ => inferInstanceAs (Decidable (_ ∧ _))
  | .timeout _ => isTrue trivial
  | .data _ => inferInstanceAs (Decidable (_ <+: _))
  | .disconnects => isTrue trivial

instance (c : Client) : Decidable c.OnTime :=
  inferInstanceAs (Decidable (∀ entry ∈ c.owed.head?, _))

instance (c : Client) : DecidablePred c.Punctual
  | .run _ _ => isTrue trivial
  | .timeout _ => isTrue trivial
  | .data _ => inferInstanceAs (Decidable (∀ read ∈ parseSentences _, _))
  | .disconnects => isTrue trivial

/-- What holds of commands, and of the sentences that are owed. -/
structure Orderly (c : Client) : Prop where
  past : ∀ p ∈ c.pending, p.id < c.next
  owedPast : ∀ entry ∈ c.owed, entry.1 < c.next
  increasing : (c.pending.map Pending.id).Pairwise (· < ·)
  inOrder : (c.owed.map Prod.fst).Pairwise (· ≤ ·)
  awaited : ∀ p ∈ c.pending, ∃ sentence, (p.id, sentence) ∈ c.owed ∧ sentence.head? = some done
  own : ∀ p ∈ c.pending, ∀ reply ∈ p.sentences, reply.1 = some p.id
  settledOwn : ∀ entry ∈ c.settled, ∀ reply ∈ entry.sentences, reply.1 = some entry.id
  sendable : ∀ entry ∈ c.owed, ∀ word ∈ entry.2, Sendable word

theorem orderly_new : new.Orderly :=
  ⟨nofun, nofun, List.Pairwise.nil, List.Pairwise.nil, nofun, nofun, nofun, nofun⟩

theorem Orderly.settle (h : c.Orderly) {p : Pending} {outcome : Outcome}
    (hown : ∀ reply ∈ p.sentences, reply.1 = some p.id) : (c.settle p outcome).Orderly :=
  { h with
    settledOwn := fun entry hentry => by
      rcases List.mem_append.mp hentry with hold | hnew
      · exact h.settledOwn entry hold
      · obtain rfl := List.mem_singleton.mp hnew
        exact hown }

theorem Orderly.without (h : c.Orderly) {pending : List Pending} (hsub : pending.Sublist c.pending) :
    ({ c with pending := pending } : Client).Orderly :=
  { h with
    past := fun p hp => h.past p (hsub.subset hp)
    increasing := h.increasing.sublist (hsub.map _)
    awaited := fun p hp => h.awaited p (hsub.subset hp)
    own := fun p hp => h.own p (hsub.subset hp) }

variable {owner : Nat} {sentence : Sentence} {rest : List (Nat × Sentence)}

theorem Orderly.pay (h : c.Orderly) (howed : c.owed = (owner, sentence) :: rest)
    (hend : ∀ p ∈ c.pending, p.id = owner → sentence.head? ≠ some done) :
    ({ c with owed := rest } : Client).Orderly := by
  have hrest : ∀ entry ∈ rest, entry ∈ c.owed := fun entry hentry =>
    howed ▸ List.mem_cons_of_mem _ hentry
  have hinOrder := h.inOrder
  rw [howed, List.map_cons] at hinOrder
  refine { h with
    owedPast := fun entry hentry => h.owedPast entry (hrest entry hentry)
    inOrder := hinOrder.of_cons
    awaited := fun p hp => ?_
    sendable := fun entry hentry => h.sendable entry (hrest entry hentry) }
  obtain ⟨last, hlast, hdone⟩ := h.awaited p hp
  rw [howed] at hlast
  rcases List.mem_cons.mp hlast with hfirst | hlater
  · obtain ⟨hid, rfl⟩ := Prod.mk.inj hfirst
    exact absurd hdone (hend p hp hid)
  · exact ⟨last, hlater, hdone⟩

theorem Orderly.collect (h : c.Orderly) {first : Pending} {others : List Pending}
    (hpending : c.pending = first :: others) :
    ({ c with pending :=
      { first with sentences := first.sentences ++ [(some first.id, sentence)] } :: others } :
        Client).Orderly := by
  have hfirst : first ∈ c.pending := hpending ▸ List.mem_cons_self
  have hothers : ∀ p ∈ others, p ∈ c.pending := fun p hp => hpending ▸ List.mem_cons_of_mem _ hp
  have hincreasing := h.increasing
  rw [hpending] at hincreasing
  refine { h with
    past := fun p hp => ?_
    increasing := hincreasing
    awaited := fun p hp => ?_
    own := fun p hp => ?_ }
  · rcases List.mem_cons.mp hp with rfl | hp
    · exact h.past first hfirst
    · exact h.past p (hothers p hp)
  · rcases List.mem_cons.mp hp with rfl | hp
    · exact h.awaited first hfirst
    · exact h.awaited p (hothers p hp)
  · rcases List.mem_cons.mp hp with rfl | hp
    · intro reply hreply
      rcases List.mem_append.mp hreply with hold | hnew
      · exact h.own first hfirst reply hold
      · rw [List.mem_singleton.mp hnew]
    · exact h.own p (hothers p hp)

theorem Orderly.first_of_owner (h : c.Orderly) (howed : c.owed = (owner, sentence) :: rest)
    {first : Pending} {others : List Pending} (hpending : c.pending = first :: others)
    (howner : owner ∈ c.pending.map Pending.id) : first.id = owner := by
  have hincreasing := h.increasing
  have hinOrder := h.inOrder
  rw [hpending, List.map_cons, List.pairwise_cons] at hincreasing
  rw [howed, List.map_cons, List.pairwise_cons] at hinOrder
  have hle : first.id ≤ owner := by
    rw [hpending, List.map_cons, List.mem_cons] at howner
    rcases howner with rfl | howner
    · exact Nat.le_refl _
    · exact Nat.le_of_lt (hincreasing.1 owner howner)
  have hge : owner ≤ first.id := by
    obtain ⟨last, hlast, -⟩ := h.awaited first (hpending ▸ List.mem_cons_self)
    rw [howed] at hlast
    rcases List.mem_cons.mp hlast with hfirst | hlater
    · exact Nat.le_of_eq (Prod.mk.inj hfirst).1.symm
    · exact hinOrder.1 first.id (List.mem_map_of_mem (f := Prod.fst) hlater)
  exact Nat.le_antisymm hle hge

theorem Orderly.deliver (h : c.Orderly) (howed : c.owed = (owner, sentence) :: rest)
    (htime : c.OnTime) : (c.deliver sentence).Orderly ∧ (c.deliver sentence).owed = rest := by
  have hstart : c.deliver sentence =
      ({ c with owed := rest } : Client).onSentence (some owner, sentence) := by
    unfold Client.deliver
    rw [howed]
    rfl
  rw [hstart]
  unfold onSentence
  dsimp only
  cases hpending : c.pending with
  | nil =>
    refine ⟨?_, rfl⟩
    have hpaid := h.pay howed (fun p hp => absurd hp (hpending ▸ List.not_mem_nil))
    rw [hpending] at hpaid
    exact hpaid
  | cons first others =>
    have howner : owner ∈ c.pending.map Pending.id := by
      rcases htime (owner, sentence) (by rw [howed]; rfl) with hmem | hnone
      · exact hmem
      · rw [hpending] at hnone
        exact nomatch hnone
    obtain rfl := h.first_of_owner howed hpending howner
    have hfirst : first ∈ c.pending := hpending ▸ List.mem_cons_self
    have hincreasing := h.increasing
    rw [hpending, List.map_cons, List.pairwise_cons] at hincreasing
    have hown : ∀ reply ∈ first.sentences ++ [(some first.id, sentence)],
        reply.1 = some first.id := by
      intro reply hreply
      rcases List.mem_append.mp hreply with hold | hnew
      · exact h.own first hfirst reply hold
      · rw [List.mem_singleton.mp hnew]
    -- The command ends: no other one waits for this answer.
    have hends : ({ c with owed := rest, pending := others } : Client).Orderly := by
      have hwithout := h.without (hpending ▸ List.sublist_cons_self first others)
      refine hwithout.pay howed fun p hp hid => absurd hid ?_
      exact Nat.ne_of_gt (hincreasing.1 p.id (List.mem_map_of_mem (f := Pending.id) hp))
    dsimp only
    split_ifs with hdone
    · exact ⟨hends.settle hown, rfl⟩
    · exact ⟨hends.settle hown, rfl⟩
    · exact ⟨(h.pay howed fun _ _ _ => hdone).collect hpending, rfl⟩

theorem Orderly.deliveries (h : c.Orderly) {sentences : List Sentence}
    {owed : List (Nat × Sentence)} (howed : c.owed = owed ++ rest)
    (hsentences : owed.map Prod.snd = sentences)
    (htime : Along Client.deliver (fun c _ => c.OnTime) c sentences) :
    (sentences.foldl Client.deliver c).Orderly ∧ (sentences.foldl Client.deliver c).owed = rest := by
  induction sentences generalizing c owed with
  | nil =>
    obtain rfl := List.map_eq_nil_iff.mp hsentences
    exact ⟨h, howed⟩
  | cons sentence sentences ih =>
    obtain ⟨⟨owner, head⟩, owed, rfl, rfl, hmore⟩ := List.map_eq_cons_iff.mp hsentences
    obtain ⟨hnext, hleft⟩ := h.deliver howed htime.1
    exact ih hnext hleft hmore htime.2

theorem buf_deliver (c : Client) (sentence : Sentence) :
    (c.deliver sentence).buf = c.buf ∧ (c.deliver sentence).hung = c.hung := by
  unfold Client.deliver onSentence
  dsimp only
  cases c.pending with
  | nil => exact ⟨rfl, rfl⟩
  | cons first others =>
    dsimp only
    split_ifs <;> exact ⟨rfl, rfl⟩

theorem buf_deliveries (c : Client) (sentences : List Sentence) :
    (sentences.foldl Client.deliver c).buf = c.buf ∧
      (sentences.foldl Client.deliver c).hung = c.hung := by
  induction sentences generalizing c with
  | nil => exact ⟨rfl, rfl⟩
  | cons sentence sentences ih =>
    obtain ⟨hbuf, hhung⟩ := ih (c.deliver sentence)
    obtain ⟨hbuf', hhung'⟩ := c.buf_deliver sentence
    exact ⟨hbuf.trans hbuf', hhung.trans hhung'⟩

/-- What holds of a client while its router answers commands in their order. -/
structure InStep (c : Client) : Prop where
  orderly : c.Orderly
  beginning : c.buf <+: c.stream
  incomplete : contained (c.owed.map Prod.snd) c.buf = ([], c.buf)
  awake : c.hung = false

theorem contained_more {sentences : List Sentence} {bytes : List UInt8}
    (hbeginning : bytes <+: sentences.flatMap encodeSentence)
    (h : contained sentences bytes = ([], bytes)) (more : List Sentence) :
    contained (sentences ++ more) bytes = ([], bytes) := by
  have hnot : ∀ (words : Sentence) (rest : List Sentence), ¬encodeSentence words <+: bytes →
      contained (words :: rest) bytes = ([], bytes) := by
    intro words rest hpart
    rw [contained, if_neg hpart]
  cases sentences with
  | nil =>
    obtain rfl := List.prefix_nil.mp hbeginning
    cases more with
    | nil => rfl
    | cons words more =>
      exact hnot words more fun hpart => encodeSentence_ne_nil words (List.prefix_nil.mp hpart)
  | cons words sentences =>
    refine hnot words (sentences ++ more) fun hwhole => ?_
    rw [contained, if_pos hwhole] at h
    cases h

theorem InStep.send (h : c.InStep) {answer : List Sentence} {thrown : Bool}
    (hanswer : isAnswer answer = true)
    (hsend : ∀ sentence ∈ answer, ∀ word ∈ sentence, Sendable word) :
    (c.send answer thrown).InStep := by
  have hlater : ({ c with next := c.next + 1 } : Client).Orderly :=
    { h.orderly with
      past := fun p hp => Nat.lt_succ_of_lt (h.orderly.past p hp)
      owedPast := fun entry hentry => Nat.lt_succ_of_lt (h.orderly.owedPast entry hentry) }
  unfold Client.send
  dsimp only
  split_ifs
  · exact ⟨hlater.settle nofun, h.beginning, h.incomplete, h.awake⟩
  · have hnew : ∀ entry ∈ answer.map fun sentence => (c.next, sentence), entry.1 = c.next := by
      intro entry hentry
      obtain ⟨sentence, -, rfl⟩ := List.mem_map.mp hentry
      rfl
    have howed : (c.owed ++ answer.map fun sentence => (c.next, sentence)).map Prod.snd =
        c.owed.map Prod.snd ++ answer := by
      rw [List.map_append, List.map_map]
      exact congrArg _ (List.map_id answer)
    refine ⟨⟨fun p hp => ?_, fun entry hentry => ?_, ?_, ?_, fun p hp => ?_, fun p hp => ?_,
      h.orderly.settledOwn, fun entry hentry => ?_⟩, ?_, ?_, h.awake⟩
    · rcases List.mem_append.mp hp with hold | hp
      · exact hlater.past p hold
      · rw [List.mem_singleton.mp hp]
        exact Nat.lt_succ_self _
    · rcases List.mem_append.mp hentry with hold | hentry
      · exact hlater.owedPast entry hold
      · rw [hnew entry hentry]
        exact Nat.lt_succ_self _
    · rw [List.map_append, List.pairwise_append]
      refine ⟨h.orderly.increasing, List.pairwise_singleton _ _, fun a ha b hb => ?_⟩
      obtain ⟨p, hp, rfl⟩ := List.mem_map.mp ha
      rw [List.mem_singleton.mp hb]
      exact h.orderly.past p hp
    · rw [List.map_append, List.pairwise_append]
      refine ⟨h.orderly.inOrder, ?_, fun a ha b hb => ?_⟩
      · refine List.pairwise_of_forall_mem_list fun a ha b hb => ?_
        obtain ⟨entry, hentry, rfl⟩ := List.mem_map.mp ha
        obtain ⟨entry', hentry', rfl⟩ := List.mem_map.mp hb
        exact Nat.le_of_eq ((hnew entry hentry).trans (hnew entry' hentry').symm)
      · obtain ⟨entry, hentry, rfl⟩ := List.mem_map.mp ha
        obtain ⟨entry', hentry', rfl⟩ := List.mem_map.mp hb
        rw [hnew entry' hentry']
        exact Nat.le_of_lt (h.orderly.owedPast entry hentry)
    · rcases List.mem_append.mp hp with hold | hp
      · obtain ⟨last, hlast, hdone⟩ := h.orderly.awaited p hold
        exact ⟨last, List.mem_append_left _ hlast, hdone⟩
      · obtain rfl := List.mem_singleton.mp hp
        obtain ⟨last, hlast, hdone⟩ := done_of_isAnswer hanswer
        exact ⟨last, List.mem_append_right _ (List.mem_map_of_mem hlast), hdone⟩
    · rcases List.mem_append.mp hp with hold | hp
      · exact h.orderly.own p hold
      · obtain rfl := List.mem_singleton.mp hp
        nofun
    · rcases List.mem_append.mp hentry with hold | hentry
      · exact h.orderly.sendable entry hold
      · obtain ⟨sentence, hsentence, rfl⟩ := List.mem_map.mp hentry
        exact hsend sentence hsentence
    · unfold stream
      rw [howed, List.flatMap_append]
      exact h.beginning.trans (List.prefix_append _ _)
    · rw [howed]
      exact contained_more h.beginning h.incomplete answer

theorem InStep.timeout (h : c.InStep) (id : Nat) : (c.timeout id).InStep := by
  unfold Client.timeout
  cases hfound : c.pending.find? fun p => p.id = id with
  | none => exact h
  | some p =>
    have hwithout : ({ c with pending := c.pending.filter fun p => p.id ≠ id } : Client).Orderly :=
      h.orderly.without List.filter_sublist
    exact ⟨hwithout.settle (h.orderly.own p (List.mem_of_find?_eq_some hfound)), h.beginning,
      h.incomplete, h.awake⟩

theorem InStep.disconnect (h : c.InStep) : c.disconnect.InStep := by
  have hwithout := h.orderly.without (List.nil_sublist c.pending)
  refine ⟨{ hwithout with settledOwn := fun entry hentry => ?_ }, h.beginning, h.incomplete, h.awake⟩
  rcases List.mem_append.mp hentry with hold | hnew
  · exact h.orderly.settledOwn entry hold
  · obtain ⟨p, hp, rfl⟩ := List.mem_map.mp hnew
    exact h.orderly.own p hp

theorem InStep.onData (h : c.InStep) {chunk : List UInt8} (hstream : c.buf ++ chunk <+: c.stream)
    (htime : c.Punctual (.data chunk)) : (c.onData chunk).InStep := by
  have hsend : ∀ words ∈ c.owed.map Prod.snd, ∀ word ∈ words, Sendable word := by
    intro words hwords
    obtain ⟨entry, hentry, rfl⟩ := List.mem_map.mp hwords
    exact h.orderly.sendable entry hentry
  have hparse := parseSentences_cut hsend hstream
  obtain ⟨rest, hsplit, hnone, -⟩ := contained_cut (c.owed.map Prod.snd) (c.buf ++ chunk) []
  have hbytes := bytes_of_contained (c.owed.map Prod.snd) (c.buf ++ chunk)
  have htimes := htime _ hparse
  unfold Client.onData
  rw [hparse]
  generalize contained (c.owed.map Prod.snd) (c.buf ++ chunk) = cut at hsplit hnone hbytes htimes ⊢
  obtain ⟨whole, left⟩ := cut
  obtain ⟨owed, later, howed, rfl, rfl⟩ := List.map_eq_append_iff.mp hsplit
  have hstart : ({ c with buf := left } : Client).Orderly := { h.orderly with }
  obtain ⟨horderly, hleft⟩ := hstart.deliveries howed rfl htimes
  obtain ⟨hbuf, hhung⟩ := ({ c with buf := left } : Client).buf_deliveries (owed.map Prod.snd)
  refine ⟨horderly, ?_, ?_, hhung.trans h.awake⟩
  · unfold stream at hstream ⊢
    rw [hbytes, hsplit, List.flatMap_append] at hstream
    dsimp only
    rw [hbuf, hleft]
    exact (List.prefix_append_right_inj _).mp hstream
  · dsimp only
    rw [hbuf, hleft]
    exact hnone

theorem InStep.step (h : c.InStep) {event : Event} (hrouter : c.Answers event)
    (htime : c.Punctual event) : (c.step event).InStep := by
  unfold Client.step
  rw [h.awake, if_neg Bool.false_ne_true]
  cases event with
  | run answer thrown => exact h.send hrouter.1 hrouter.2
  | timeout id => exact h.timeout id
  | data chunk => exact h.onData hrouter htime
  | disconnects => exact h.disconnect

end Client

/-- Where no late sentence meets a waiting command, commands are settled by their own answers. -/
theorem settled_by_own {events : List Event}
    (hrouter : Along Client.step Client.Answers .new events)
    (htime : Along Client.step Client.Punctual .new events) :
    ∀ entry ∈ (run Client.step .new events).settled, ∀ reply ∈ entry.sentences,
      reply.1 = some entry.id := by
  have hstart : Client.new.InStep := ⟨Client.orderly_new, List.nil_prefix, rfl, rfl⟩
  have hend : (run Client.step .new events).InStep :=
    run_invariant (fun _ _ hc hboth => hc.step hboth.1 hboth.2) hstart (hrouter.and htime)
  exact hend.orderly.settledOwn

/-- Two commands that wait at once, and one whose answer is late while none waits. -/
def onTime : List Event :=
  [.run [[re, ['=', 'a']], [done]] false, .run [[trap], [done]] false,
    .data [3, 33, 114, 101, 2, 61, 97, 0, 5, 33], .data [100, 111, 110, 101, 0, 5, 33, 116],
    .data [114, 97, 112, 0, 5, 33, 100, 111, 110, 101, 0], .run [[done]] false, .timeout 2,
    .data [5, 33, 100, 111, 110, 101, 0]]

theorem settled_by_own_sample :
    (run Client.step .new onTime).settled =
        [⟨0, [(some 0, [re, ['=', 'a']]), (some 0, [done])], .resolved [[re, ['=', 'a']], [done]]⟩,
          ⟨1, [(some 1, [trap])], .rejected "RouterOS !trap".toList⟩, ⟨2, [], .timedOut⟩] ∧
      ∀ entry ∈ (run Client.step .new onTime).settled, ∀ reply ∈ entry.sentences,
        reply.1 = some entry.id :=
  ⟨by decide, settled_by_own (by decide) (by decide)⟩

/-- An answer comes in after its command has timed out. -/
def late : List Event :=
  [.run [[done]] false, .timeout 0, .run [[done]] false, .data [5, 33, 100, 111, 110, 101, 0]]

theorem settled_by_own_fails :
    ¬∀ events : List Event, Along Client.step Client.Answers .new events →
      ∀ entry ∈ (run Client.step .new events).settled, ∀ reply ∈ entry.sentences,
        reply.1 = some entry.id := by
  intro h
  have hold := h late (by decide)
  revert hold
  decide

end FireIsp.Routeros
