import FireIsp.Gateway.Crediting

/-!
# Histories of events and refunds

What holds of a transaction after any interleaving of deliveries and refunds in which every step
does what it may.
-/

namespace FireIsp.Gateway

open Txn Transition

/-- The calls before their first step. -/
structure Ready (calls : Nat → Call) (s : System) : Prop where
  held : s.held = []
  sessions : ∀ i, s.sessions i = ⟨some (calls i).run, none⟩

/-- A transaction that was credited at most once, and whose refund, if any, was reversed. -/
structure Accounted (t : Nat) (amount : Int) (db : Db) : Prop where
  account : ∃ status, db.account t = some (amount, status)
  booked : Booked t amount db
  reversed : db.refunded t = true → db.net t = 0

/-- The call of a session has returned. -/
def Returned (s : System) (i : Nat) : Prop :=
  ∃ handled, s.answer i = some handled ∧ handled ≠ .thrown

/-- The call of a session has answered that the transaction is refunded. -/
def Refunds (s : System) (i t : Nat) : Prop :=
  s.answer i = some (.refunded t) ∨ s.answer i = some (.processed t .refunded)

variable {t : Nat} {amount : Int}

/-- What a call knows before its first step. -/
def atRest : Ghost Db Write Know := ⟨some .idle, none⟩

theorem Ready.tracks {calls : Nat → Call} {s : System} (h : Ready calls s) (i : Nat) :
    TracksTo (discipline t) (Ends t) (s.sessions i) atRest := by
  rw [h.sessions i]
  exact ⟨rfl, fun p hp => ⟨.idle, rfl, by cases hp; exact keeps_run (calls i)⟩⟩

theorem Ready.inv {calls : Nat → Call} {s : System} (h : Ready calls s)
    (haccounted : Accounted t amount s.db) :
    Inv t amount False s.tick s.db s.held fun _ => atRest := by
  refine ⟨?_, haccounted.account, haccounted.booked, fun i know hknow => ?_,
    fun hstatus => Or.inl (haccounted.reversed hstatus), False.elim⟩
  · rw [h.held]
    exact fun i j k hi => nomatch hi
  · cases hknow
    exact sound_idle

theorem ends_of_answer {s : System} {i : Nat} {ghost : Ghost Db Write Know} {handled : Handled}
    (h : TracksTo (discipline t) (Ends t) (s.sessions i) ghost)
    (hanswer : s.answer i = some handled) : ∃ know, ghost.know = some know ∧ Ends t handled know :=
  h.follows _ (Sys.prog_of_answer hanswer)

/-- A transaction's net is nothing or its amount, and nothing once it is refunded for good. -/
theorem payment_credited_once {calls : Nat → Call} {s : System}
    {first labels : List (Label Query.Answer)} (hready : Ready calls s)
    (haccounted : Accounted t amount s.db)
    (hrun : s.Keeping engine (fun s => May t s.db) (first ++ labels)) :
    let s₁ := run (Sys.step engine) s first
    let s₂ := run (Sys.step engine) s (first ++ labels)
    (s₂.db.net t = 0 ∨ s₂.db.net t = amount) ∧
      (s₁.db.refunded t = true → s₂.db.refunded t = true) ∧
      (∀ i, Refunds s₂ i t → s₂.db.net t = 0) ∧
      (s₂.db.refunded t = true →
        (∀ i ∈ (first ++ labels).map Label.session, Returned s₂ i) → s₂.db.net t = 0) := by
  intro s₁ s₂
  obtain ⟨hfirst, hlabels⟩ := along_append.mp hrun
  obtain ⟨ghosts₁, hinv₁, htracks₁, hsame₁⟩ :=
    Sys.run_guarded (fun _ _ _ _ _ _ _ _ h hstep => h.step hstep) (hready.inv haccounted)
      hready.tracks hfirst
  have hinv : Inv t amount (s₁.db.refunded t = true) s₁.tick s₁.db s₁.held ghosts₁ :=
    ⟨hinv₁.exclusive, hinv₁.account, hinv₁.booked, hinv₁.sound, hinv₁.due, id⟩
  obtain ⟨ghosts₂, hinv₂, htracks₂, hsame₂⟩ :=
    Sys.run_guarded (fun _ _ _ _ _ _ _ _ h hstep => h.step hstep) hinv htracks₁ hlabels
  have hend : run (Sys.step engine) s₁ labels = s₂ := (run_append s first labels).symm
  rw [hend] at hinv₂ htracks₂
  refine ⟨hinv₂.booked.net, hinv₂.kept, fun i hrefunds => ?_, fun hstatus hreturned => ?_⟩
  · have hanswered : ∃ handled, s₂.answer i = some handled ∧
        (handled = .refunded t ∨ handled = .processed t .refunded) :=
      hrefunds.elim (fun h => ⟨_, h, Or.inl rfl⟩) fun h => ⟨_, h, Or.inr rfl⟩
    obtain ⟨handled, hanswer, hrefund⟩ := hanswered
    obtain ⟨know, hknow, -, hends⟩ := ends_of_answer (htracks₂ i) hanswer
    have hfact := (hinv₂.sound i know hknow).fact
    rcases hends hrefund with rfl | rfl
    · exact hfact.2
    · exact hfact.elim
  · obtain hzero | ⟨i, hpending⟩ := hinv₂.due hstatus
    · exact hzero
    · by_cases hbegun : i ∈ (first ++ labels).map Label.session
      · obtain ⟨handled, hanswer, hthrown⟩ := hreturned i hbegun
        obtain ⟨know, hknow, howes, -⟩ := ends_of_answer (htracks₂ i) hanswer
        exact absurd (howes (hpending know hknow)) hthrown
      · rw [List.map_append, List.mem_append, not_or] at hbegun
        have hrest : ghosts₂ i = atRest := (hsame₂ i hbegun.2).trans (hsame₁ i hbegun.1)
        rw [hrest] at hpending
        exact absurd hpending (not_pending rfl)

/-- A pending transaction of 500.00. -/
def pendingTransaction : Db := pendingDelivery.db

/-- A success and a refund. -/
def refundCalls : Nat → Call
  | 0 => .deliver succeededEvent
  | _ => .refund 1

/-- The same success on the global route and on the route of the gateway. -/
def successCalls : Nat → Call
  | 0 => .deliver succeededEvent
  | _ => .deliver { succeededEvent with organizationId := some 3 }

/-- A success, a refund and a failure that is delivered late. -/
def lateCalls : Nat → Call
  | 0 => .deliver succeededEvent
  | 1 => .deliver { succeededEvent with
      providerEventId := "evt_2"
      eventType := "charge.refunded"
      payload := ⟨some "ch_1", none, none, some "pi_1", true, none, none, none⟩ }
  | _ => .deliver { succeededEvent with
      providerEventId := "evt_3"
      eventType := "payment_intent.payment_failed" }

/-- The calls on the pending transaction before their first step. -/
def begin (calls : Nat → Call) : System where
  db := pendingTransaction
  tick := 1
  held := []
  sessions := fun i => ⟨some (calls i).run, none⟩
  calls := []

theorem begin_ready (calls : Nat → Call) : Ready calls (begin calls) := ⟨rfl, fun _ => rfl⟩

theorem begin_accounted (calls : Nat → Call) : Accounted 1 50000 (begin calls).db :=
  ⟨⟨.pending, rfl⟩, ⟨Or.inl rfl, fun h => absurd rfl h⟩, nofun⟩

/-- Nothing raises, and the provider refunds. -/
def quietly : World
  | .raises .. => false
  | .tolerated .. => true
  | .otherwise => ()
  | .refundAtProvider .. => some (some "re_1")

/-- Three calls, one after the other. -/
def oneByOne : List (Label Query.Answer) :=
  List.replicate 40 (.step 0 quietly) ++ List.replicate 40 (.step 1 quietly) ++
    List.replicate 40 (.step 2 quietly)

/-- A payment that succeeds and is refunded. -/
theorem payment_credited_sample :
    (run (Sys.step engine) (begin refundCalls) (List.replicate 40 (.step 0 quietly) ++
      List.replicate 40 (.step 1 quietly))).db.net 1 = 0 :=
  (payment_credited_once (begin_ready refundCalls) (begin_accounted refundCalls)
    (by decide +kernel)).2.2.1 1 (Or.inl (by decide +kernel))

/-- A success on both routes is credited twice, and a late failure undoes a refund's status. -/
theorem credited_on_both_routes :
    Accounted 1 50000 pendingTransaction ∧
      (run (Sys.step engine) (begin successCalls) oneByOne).db.net 1 = 100000 ∧
      (run (Sys.step engine) (begin lateCalls) (oneByOne.take 80)).db.refunded 1 = true ∧
      (run (Sys.step engine) (begin lateCalls) oneByOne).db.refunded 1 = false := by
  refine ⟨begin_accounted successCalls, ?_, ?_, ?_⟩ <;> decide +kernel

end FireIsp.Gateway
