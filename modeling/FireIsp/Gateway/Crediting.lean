import FireIsp.Gateway.Effects

/-!
# A payment is credited once

Deliveries of events about one transaction and refunds of it, interleaved in any way.  Two things
can go wrong: a credit that is written although the transaction was credited or refunded before, and
an event that takes a refunded transaction to another status.
-/

namespace FireIsp.Gateway

open Txn

/-- The entries a call has written and not committed. -/
def Know.pending (amount : Int) : Know → List (EntryType × Int)
  | .credited => [(.credit, amount)]
  | .debited => [(.debit, amount)]
  | _ => []

/-- The call holds the row of the transaction. -/
def Know.holds : Know → Bool
  | .locked .. => true
  | .counted .. => true
  | .judged .. => true
  | .credited => true
  | .debited => true
  | _ => false

/-- The call has a transaction open that it may commit. -/
def Know.within : Know → Bool
  | .begun _ => true
  | know => know.holds

/-- What the tables are while a call knows something. -/
def Know.Fact (t : Nat) (amount : Int) (db : Db) : Know → Prop
  | .locked _ a => a = amount
  | .counted a found => a = amount ∧ (found = true ↔ EntryType.credit ∈ (db.book t).map Prod.fst)
  | .judged a found reversal =>
    a = amount ∧ (found = true ↔ EntryType.credit ∈ (db.book t).map Prod.fst) ∧
      (reversal = true ↔ EntryType.debit ∈ (db.book t).map Prod.fst)
  | .credited => db.book t = [] ∧ db.refunded t = false ∧ fitsLedger amount = true
  | .debited => db.book t = [(.credit, amount)]
  | .reversed => db.refunded t = true ∧ db.net t = 0
  | .failed => False
  | _ => True

/-- The open transaction of a call. -/
structure Working (t : Nat) (amount : Int) (db : Db) (know : Know) (work : Tx Db Write) : Prop where
  marks : ∀ w ∈ work.writes, w.marks t = none
  entries : work.writes.flatMap (Write.entries t) = know.pending amount
  fresh : know = .begun true → work.view = none
  view : know.holds = true → know.owes = true → ∀ view, work.view = some view →
    view.book t = db.book t

/-- What a call knows is true. -/
structure Sound (t : Nat) (amount : Int) (db : Db) (held : List (Nat × Key)) (i : Nat)
    (know : Know) (tx : Option (Tx Db Write)) : Prop where
  fact : know.Fact t amount db
  owes : know.owes = true → db.refunded t = true
  lock : know.holds = true → (i, Key.transaction t) ∈ held
  closed : know.within = false → know ≠ .reversed → tx = none
  opened : know.within = true → ∃ work, tx = some work ∧ Working t amount db know work

variable {t : Nat} {amount : Int} {db db' : Db} {held held' : List (Nat × Key)} {i : Nat}
  {know : Know} {tx : Option (Tx Db Write)}

theorem Sound.frame (h : Sound t amount db held i know tx)
    (hheld : (i, Key.transaction t) ∈ held → (i, Key.transaction t) ∈ held')
    (hsame : know.holds = true → db'.book t = db.book t ∧ db'.refunded t = db.refunded t)
    (hrefunded : db.refunded t = true → db'.refunded t = true)
    (hnet : db.refunded t = true → db.net t = 0 → db'.net t = 0) :
    Sound t amount db' held' i know tx := by
  refine ⟨?_, fun howes => hrefunded (h.owes howes), fun hholds => hheld (h.lock hholds), h.closed,
    fun hwithin => ?_⟩
  · have hfact := h.fact
    cases know with
    | reversed => exact ⟨hrefunded hfact.1, hnet hfact.1 hfact.2⟩
    | counted a found =>
      obtain ⟨hbook, -⟩ := hsame rfl
      simp only [Know.Fact, hbook]
      exact hfact
    | judged a found reversal =>
      obtain ⟨hbook, -⟩ := hsame rfl
      simp only [Know.Fact, hbook]
      exact hfact
    | credited =>
      obtain ⟨hbook, hstatus⟩ := hsame rfl
      simp only [Know.Fact, hbook, hstatus]
      exact hfact
    | debited =>
      obtain ⟨hbook, -⟩ := hsame rfl
      simp only [Know.Fact, hbook]
      exact hfact
    | _ => exact hfact
  · obtain ⟨work, htx, hwork⟩ := h.opened hwithin
    refine ⟨work, htx, hwork.marks, hwork.entries, hwork.fresh, fun hholds howes view hview => ?_⟩
    rw [(hsame hholds).1]
    exact hwork.view hholds howes view hview

/-- The book of a transaction that was credited at most once, and reversed only after a refund. -/
structure Booked (t : Nat) (amount : Int) (db : Db) : Prop where
  book : db.book t = [] ∨ db.book t = [(.credit, amount)] ∨
    db.book t = [(.credit, amount), (.debit, amount)] ∧ db.refunded t = true
  fits : db.book t ≠ [] → fitsLedger amount = true

theorem net_empty (h : db.book t = []) : db.net t = 0 := by
  rw [Db.net, h]
  rfl

theorem net_credited (h : db.book t = [(.credit, amount)]) : db.net t = amount := by
  rw [Db.net, h]
  exact Int.add_zero amount

theorem net_reversed (h : db.book t = [(.credit, amount), (.debit, amount)]) : db.net t = 0 := by
  rw [Db.net, h]
  simp only [EntryType.signed, List.map_cons, List.map_nil, List.sum_cons, List.sum_nil]
  omega

theorem Booked.net (h : Booked t amount db) : db.net t = 0 ∨ db.net t = amount := by
  rcases h.book with hbook | hbook | ⟨hbook, -⟩
  · exact Or.inl (net_empty hbook)
  · exact Or.inr (net_credited hbook)
  · exact Or.inl (net_reversed hbook)

/-- A call that owes a reversal, or was cut off. -/
def Pending (ghost : Ghost Db Write Know) : Prop := ∀ know, ghost.know = some know → know.owes = true

/-- What holds of the tables and the calls. -/
structure Inv (t : Nat) (amount : Int) (since : Prop) (_tick : Nat) (db : Db) (held : List (Nat × Key))
    (ghosts : Nat → Ghost Db Write Know) : Prop where
  exclusive : Sys.Exclusive held
  account : ∃ status, db.account t = some (amount, status)
  booked : Booked t amount db
  sound : ∀ i know, (ghosts i).know = some know → Sound t amount db held i know (ghosts i).tx
  due : db.refunded t = true → db.net t = 0 ∨ ∃ i, Pending (ghosts i)
  kept : since → db.refunded t = true

variable {since : Prop} {tick : Nat} {ghosts : Nat → Ghost Db Write Know}
  {ghost' : Ghost Db Write Know}

theorem Inv.soundAt (h : Inv t amount since tick db held ghosts) (hghost : ghosts i = ⟨some know, tx⟩) :
    Sound t amount db held i know tx := by
  have hsound := h.sound i know (by rw [hghost])
  rwa [hghost] at hsound

theorem Inv.changed (h : Inv t amount since tick db held ghosts) (hexclusive : Sys.Exclusive held')
    (hothers : ∀ j k, j ≠ i → (j, k) ∈ held → (j, k) ∈ held')
    (haccount : ∃ status, db'.account t = some (amount, status)) (hbooked : Booked t amount db')
    (hsame : ∀ j, j ≠ i → (j, Key.transaction t) ∈ held →
      db'.book t = db.book t ∧ db'.refunded t = db.refunded t)
    (hrefunded : db.refunded t = true → db'.refunded t = true)
    (hnet : db.refunded t = true → db.net t = 0 → db'.net t = 0)
    (hsound : ∀ know, ghost'.know = some know → Sound t amount db' held' i know ghost'.tx)
    (hdue : db'.refunded t = true → db'.net t = 0 ∨ Pending ghost' ∨
      db.refunded t = true ∧ db.net t ≠ 0 ∧ ¬Pending (ghosts i)) :
    Inv t amount since (tick + 1) db' held' (Function.update ghosts i ghost') := by
  refine ⟨hexclusive, haccount, hbooked, fun j know hknow => ?_, fun hstatus => ?_,
    fun hsince => hrefunded (h.kept hsince)⟩
  · by_cases hj : j = i
    · subst hj
      rw [Function.update_self] at hknow ⊢
      exact hsound know hknow
    · rw [Function.update_of_ne hj] at hknow ⊢
      have hj' := h.sound j know hknow
      exact hj'.frame (hothers j _ hj) (fun hholds => hsame j hj (hj'.lock hholds)) hrefunded hnet
  · rcases hdue hstatus with hzero | hpending | ⟨hbefore, hnonzero, hnot⟩
    · exact Or.inl hzero
    · exact Or.inr ⟨i, by rw [Function.update_self]; exact hpending⟩
    · obtain hzero | ⟨j, hj⟩ := h.due hbefore
      · exact absurd hzero hnonzero
      · have hne : j ≠ i := fun heq => hnot (heq ▸ hj)
        exact Or.inr ⟨j, by rw [Function.update_of_ne hne]; exact hj⟩

theorem Inv.sameBook (h : Inv t amount since tick db held ghosts) (hexclusive : Sys.Exclusive held')
    (hothers : ∀ j k, j ≠ i → (j, k) ∈ held → (j, k) ∈ held')
    (hbook : db'.book t = db.book t) (haccount : db'.account t = db.account t)
    (hsound : ∀ know, ghost'.know = some know → Sound t amount db' held' i know ghost'.tx)
    (hdue : Pending (ghosts i) → db.refunded t = true → db.net t = 0 ∨ Pending ghost') :
    Inv t amount since (tick + 1) db' held' (Function.update ghosts i ghost') := by
  have hrefunded : db'.refunded t = db.refunded t := by rw [refunded_eq, refunded_eq, haccount]
  have hnet : db'.net t = db.net t := by rw [Db.net, Db.net, hbook]
  have hbooked : Booked t amount db' := by
    refine ⟨?_, ?_⟩
    · rw [hbook, hrefunded]
      exact h.booked.book
    · rw [hbook]
      exact h.booked.fits
  refine h.changed hexclusive hothers (haccount ▸ h.account) hbooked
    (fun _ _ _ => ⟨hbook, hrefunded⟩) (hrefunded ▸ id) (fun _ hzero => hnet.trans hzero) hsound
    fun hstatus => ?_
  rw [hrefunded] at hstatus
  rw [hnet]
  by_cases hpending : Pending (ghosts i)
  · rcases hdue hpending hstatus with hzero | hpending'
    · exact Or.inl hzero
    · exact Or.inr (Or.inl hpending')
  · by_cases hzero : db.net t = 0
    · exact Or.inl hzero
    · exact Or.inr (Or.inr ⟨hstatus, hzero, hpending⟩)

/-- The transaction is refunded and its credit is not reversed. -/
def Db.due (db : Db) (t : Nat) : Bool := db.refunded t && decide (db.net t ≠ 0)

/-- The statement credits the transaction. -/
def Stmt.credits (t : Nat) : Stmt → Bool
  | .insertEntry row => row.isOf t && decide (row.entryType = .credit)
  | _ => false

/-- The statement sets the transaction to another status than refunded. -/
def Stmt.unrefunds (t : Nat) : Stmt → Bool
  | .setStatus id status => decide (id = t ∧ status ≠ .refunded)
  | _ => false

def gaveUp : (query : Query) → query.Answer → Bool
  | .raises caller _, raised => decide (caller = .reverseRefund) && raised
  | _, _ => false

/-- A call credits only what is neither credited nor refunded, and keeps a refund. -/
def May (t : Nat) (db : Db) : Act Stmt Query Query.Answer → Prop
  | .sends op =>
    (op.credits t = true → db.credited t = false ∧ db.refunded t = false) ∧
      (op.unrefunds t = true → db.refunded t = false)
  | .hears query answer => gaveUp query answer = true → db.due t = false
  | _ => True

instance decidableMay (t : Nat) (db : Db) : ∀ act, Decidable (May t db act)
  | .quiet => isTrue trivial
  | .cut => isTrue trivial
  | .sends _ => inferInstanceAs (Decidable (_ ∧ _))
  | .hears _ _ => inferInstanceAs (Decidable (_ → _))

theorem sound_idle : Sound t amount db held i .idle none :=
  ⟨trivial, nofun, nofun, fun _ _ => rfl, nofun⟩

theorem sound_reversed (hrefunded : db.refunded t = true) (hnet : db.net t = 0) :
    Sound t amount db held i .reversed tx :=
  ⟨⟨hrefunded, hnet⟩, nofun, nofun, fun _ hne => absurd rfl hne, nofun⟩

theorem not_pending (howes : know.owes = false) : ¬Pending ⟨some know, tx⟩ := fun h => by
  rw [h know rfl] at howes
  cases howes

variable {know' : Know}

theorem Inv.commitEntry (h : Inv t amount since tick db held ghosts)
    (hlock : (i, Key.transaction t) ∈ held) (haccount : db'.account t = db.account t)
    (hbooked : Booked t amount db') (hnet : db.refunded t = true → db'.net t = 0)
    (hsound : Sound t amount db' (Sys.releasedBy held i) i know' none) :
    Inv t amount since (tick + 1) db' (Sys.releasedBy held i)
      (Function.update ghosts i ⟨some know', none⟩) := by
  have hrefunded : db'.refunded t = db.refunded t := by rw [refunded_eq, refunded_eq, haccount]
  refine h.changed (Sys.exclusive_releasedBy h.exclusive)
    (fun j k hj hk => Sys.mem_releasedBy_other hj hk) (haccount ▸ h.account) hbooked
    (fun j hj hheld => absurd (h.exclusive j i _ hheld hlock) hj) (hrefunded ▸ id)
    (fun hstatus _ => hnet hstatus) ?_ fun hstatus => Or.inl (hnet (hrefunded ▸ hstatus))
  intro know hknow
  cases hknow
  exact hsound

theorem Inv.commit (h : Inv t amount since tick db held ghosts)
    (hghost : ghosts i = ⟨some know, tx⟩) (hk : know.committed = some know') :
    Inv t amount since (tick + 1) (engine.settled db tx) (Sys.releasedBy held i)
      (Function.update ghosts i ⟨some know', none⟩) := by
  have hsound := h.soundAt hghost
  have hfact := hsound.fact
  have hwithin : know.within = true := by
    cases know <;> simp_all [Know.committed, Know.within, Know.holds, Know.Fact]
  obtain ⟨work, rfl, hwork⟩ := hsound.opened hwithin
  have hreleased : Sys.Exclusive (Sys.releasedBy held i) := Sys.exclusive_releasedBy h.exclusive
  have hothers : ∀ j k, j ≠ i → (j, k) ∈ held → (j, k) ∈ Sys.releasedBy held i :=
    fun j k hj hk => Sys.mem_releasedBy_other hj hk
  have hbook : (engine.settled db (some work)).book t = db.book t ++ know.pending amount := by
    rw [Engine.settled_some, book_visible, hwork.entries]
  have haccount : (engine.settled db (some work)).account t = db.account t :=
    account_visible hwork.marks
  have hrefunded : (engine.settled db (some work)).refunded t = db.refunded t := by
    rw [refunded_eq, refunded_eq, haccount]
  cases know with
  | begun due =>
    cases due with
    | true => cases hk
    | false =>
      cases hk
      refine h.sameBook hreleased hothers (hbook.trans (List.append_nil _)) haccount
        (fun know hknow => ?_) fun hpending => ?_
      · cases hknow
        exact sound_idle
      · rw [hghost] at hpending
        exact absurd hpending (not_pending rfl)
  | judged a found reversal =>
    have hsame := hbook.trans (List.append_nil _)
    simp only [Know.committed, Option.ite_none_right_eq_some, Option.some.injEq] at hk
    obtain ⟨hnothing, rfl⟩ := hk
    obtain ⟨-, hfound, hreversal⟩ := hfact
    have hnet : db.net t = 0 := by
      rcases h.booked.book with hempty | hcredit | ⟨hboth, -⟩
      · exact net_empty hempty
      · rw [hcredit] at hfound hreversal
        simp only [List.map_cons, List.map_nil, List.mem_singleton] at hfound hreversal
        rcases hnothing with hnot | hyes
        · rw [hnot] at hfound
          cases hfound.mpr trivial
        · cases hreversal.mp hyes
      · exact net_reversed hboth
    refine h.sameBook hreleased hothers hsame haccount (fun know hknow => ?_)
      fun _ _ => Or.inl hnet
    cases hknow
    refine sound_reversed (hrefunded.trans (hsound.owes rfl)) ?_
    rw [Db.net, hsame]
    exact hnet
  | credited =>
    cases hk
    obtain ⟨hempty, hstatus, hfits⟩ := hfact
    rw [hempty] at hbook
    refine h.commitEntry (hsound.lock rfl) haccount ⟨Or.inr (Or.inl hbook), fun _ => hfits⟩ ?_
      sound_idle
    intro hrefund
    rw [hstatus] at hrefund
    cases hrefund
  | debited =>
    cases hk
    have hstatus := hsound.owes rfl
    rw [hfact] at hbook
    have hnet : (engine.settled db (some work)).net t = 0 := net_reversed hbook
    refine h.commitEntry (hsound.lock rfl) haccount
      ⟨Or.inr (Or.inr ⟨hbook, hrefunded.trans hstatus⟩), fun _ => ?_⟩ (fun _ => hnet)
      (sound_reversed (hrefunded.trans hstatus) hnet)
    exact h.booked.fits (by rw [hfact]; exact List.cons_ne_nil _ _)
  | failed => exact hfact.elim
  | idle => cases hk
  | marked => cases hk
  | locked due a => cases hk
  | counted a found => cases hk
  | reversed => cases hk

theorem sound_begun {due : Bool} (hdue : due = true → db.refunded t = true) :
    Sound t amount db held i (.begun due) (some Tx.empty) :=
  ⟨trivial, hdue, nofun, nofun, fun _ =>
    ⟨Tx.empty, rfl, nofun, rfl, fun _ => rfl, fun _ _ view hview => by cases hview⟩⟩

theorem Inv.start (h : Inv t amount since tick db held ghosts) (hghost : ghosts i = ⟨some know, tx⟩)
    (hk : know.started = some know') :
    Inv t amount since (tick + 1) (engine.settled db tx) (Sys.releasedBy held i)
      (Function.update ghosts i ⟨some know', some Tx.empty⟩) := by
  have hsound := h.soundAt hghost
  have hclosed : tx = none := by
    have hfact := hsound.fact
    apply hsound.closed <;> cases know <;>
      simp_all [Know.started, Know.within, Know.holds, Know.Fact]
  subst hclosed
  have hbegun : know' = .begun know.owes := by
    have hfact := hsound.fact
    cases know <;> simp_all [Know.started, Know.owes, Know.Fact]
  subst hbegun
  refine h.sameBook (Sys.exclusive_releasedBy h.exclusive)
    (fun j k hj hk => Sys.mem_releasedBy_other hj hk) rfl rfl ?_ fun hpending _ => Or.inr ?_
  · intro know' hknow
    cases hknow
    exact sound_begun hsound.owes
  · intro know' hknow
    cases hknow
    exact hpending know (by rw [hghost])

theorem Know.rolledBack_spec (h : know.rolledBack = some know') :
    know.owes = false ∧ (know' = .idle ∨ know = .reversed ∧ know' = .reversed ∨ know = .failed) := by
  cases know with
  | begun due =>
    cases due with
    | true => cases h
    | false =>
      cases h
      exact ⟨rfl, Or.inl rfl⟩
  | locked due a =>
    cases due with
    | true => cases h
    | false =>
      cases h
      exact ⟨rfl, Or.inl rfl⟩
  | idle =>
    cases h
    exact ⟨rfl, Or.inl rfl⟩
  | credited =>
    cases h
    exact ⟨rfl, Or.inl rfl⟩
  | reversed =>
    cases h
    exact ⟨rfl, Or.inr (Or.inl ⟨rfl, rfl⟩)⟩
  | failed => exact ⟨rfl, Or.inr (Or.inr rfl)⟩
  | marked => cases h
  | counted a found => cases h
  | judged a found reversal => cases h
  | debited => cases h

theorem Inv.rollback (h : Inv t amount since tick db held ghosts)
    (hghost : ghosts i = ⟨some know, tx⟩) (hk : know.rolledBack = some know') :
    Inv t amount since (tick + 1) db (Sys.releasedBy held i)
      (Function.update ghosts i ⟨some know', none⟩) := by
  have hsound := h.soundAt hghost
  have hfact := hsound.fact
  obtain ⟨howes, hknow'⟩ := Know.rolledBack_spec hk
  refine h.sameBook (Sys.exclusive_releasedBy h.exclusive)
    (fun j k hj hk => Sys.mem_releasedBy_other hj hk) rfl rfl ?_ fun hpending _ => ?_
  · intro know'' hknow
    cases hknow
    rcases hknow' with rfl | ⟨rfl, rfl⟩ | rfl
    · exact sound_idle
    · exact sound_reversed hfact.1 hfact.2
    · exact hfact.elim
  · rw [hghost] at hpending
    exact absurd hpending (not_pending howes)

theorem Inv.heard {query : Query} {learn : query.Answer → Know}
    (h : Inv t amount since tick db held ghosts) (hghost : ghosts i = ⟨some know, tx⟩)
    (hk : (discipline t).asked know query = some learn) {answer : query.Answer}
    (hmay : May t db (.hears query answer)) :
    Inv t amount since (tick + 1) db held (Function.update ghosts i ⟨some (learn answer), tx⟩) := by
  have hsound := h.soundAt hghost
  have hlearn : learn answer = know ∨
      learn answer = .reversed ∧ db.refunded t = true ∧ db.net t = 0 := by
    cases query with
    | raises caller point =>
      cases hk
      unfold Know.heard
      split_ifs with hgiven
      · obtain ⟨rfl, hraised, howes⟩ := hgiven
        have hnot : db.due t = false := hmay (by simpa [gaveUp] using hraised)
        have hrefunded := hsound.owes howes
        rw [Db.due, hrefunded, Bool.true_and, decide_eq_false_iff_not, not_not] at hnot
        exact Or.inr ⟨rfl, hrefunded, hnot⟩
      · exact Or.inl rfl
    | _ =>
      cases hk
      exact Or.inl rfl
  refine h.sameBook h.exclusive (fun j k hj hk => hk) rfl rfl ?_ fun hpending _ => ?_
  · intro know' hknow
    cases hknow
    rcases hlearn with hsame | ⟨hreversed, hrefunded, hnet⟩
    · rw [hsame]
      exact hsound
    · rw [hreversed]
      exact sound_reversed hrefunded hnet
  · rcases hlearn with hsame | ⟨-, -, hnet⟩
    · right
      rw [hsame, ← hghost]
      exact hpending
    · exact Or.inl hnet

variable {writes : List Write}

theorem spared_visible (h : ∀ w ∈ writes, w.entries t = [] ∧ w.marks t = none) :
    (engine.visible db writes).book t = db.book t ∧
      (engine.visible db writes).account t = db.account t := by
  refine ⟨?_, account_visible fun w hw => (h w hw).2⟩
  rw [book_visible, List.flatMap_eq_nil_iff.mpr fun w hw => (h w hw).1, List.append_nil]

theorem Inv.spared (h : Inv t amount since tick db held ghosts)
    (hghost : ghosts i = ⟨some know, tx⟩)
    (hwrites : ∀ w ∈ writes, w.entries t = [] ∧ w.marks t = none) :
    Inv t amount since (tick + 1) (engine.visible db writes) held
      (Function.update ghosts i ⟨some know, tx⟩) := by
  obtain ⟨hbook, haccount⟩ := spared_visible hwrites
  have hrefunded : (engine.visible db writes).refunded t = db.refunded t := by
    rw [refunded_eq, refunded_eq, haccount]
  have hnet : (engine.visible db writes).net t = db.net t := by rw [Db.net, Db.net, hbook]
  refine h.sameBook h.exclusive (fun j k hj hk => hk) hbook haccount (fun know hknow => ?_)
    fun hpending _ => Or.inr (hghost ▸ hpending)
  cases hknow
  exact (h.soundAt hghost).frame id (fun _ => ⟨hbook, hrefunded⟩) (hrefunded ▸ id)
    fun _ hzero => hnet.trans hzero

theorem Inv.statusSet {status : GatewayStatus} {reference : Option String}
    (h : Inv t amount since tick db held ghosts) (hghost : ghosts i = ⟨some .idle, tx⟩)
    (hfree : ∀ j, (j, Key.transaction t) ∉ held)
    (hmay : db.refunded t = true → status = .refunded) :
    Inv t amount since (tick + 1) (db.apply (.status t status reference)) held
      (Function.update ghosts i ⟨some (afterStatus t t status), tx⟩) := by
  obtain rfl : tx = none := (h.soundAt hghost).closed rfl (fun h => by cases h)
  obtain ⟨before, hbefore⟩ := h.account
  have hbook : (db.apply (.status t status reference)).book t = db.book t :=
    (book_apply _).trans (List.append_nil _)
  have haccount : (db.apply (.status t status reference)).account t = some (amount, status) := by
    rw [account_apply, hbefore, Write.marks, if_pos rfl]
    rfl
  have hrefunded : (db.apply (.status t status reference)).refunded t = true ↔
      status = .refunded := by
    rw [refunded_eq, haccount]
    exact decide_eq_true_iff
  have hnet : (db.apply (.status t status reference)).net t = db.net t := by
    rw [Db.net, Db.net, hbook]
  refine h.changed h.exclusive (fun j k hj hk => hk) ⟨status, haccount⟩ ⟨?_, hbook ▸ h.booked.fits⟩
    (fun j _ hj => absurd hj (hfree j)) (fun hstatus => hrefunded.mpr (hmay hstatus))
    (fun _ hzero => hnet.trans hzero) (fun know hknow => ?_) fun hstatus => Or.inr (Or.inl ?_)
  · rw [hbook]
    rcases h.booked.book with hempty | hcredit | ⟨hboth, hstatus⟩
    · exact Or.inl hempty
    · exact Or.inr (Or.inl hcredit)
    · exact Or.inr (Or.inr ⟨hboth, hrefunded.mpr (hmay hstatus)⟩)
  · cases hknow
    unfold afterStatus
    split_ifs with hstatus
    · rw [beforeReversal, if_pos rfl]
      exact ⟨trivial, fun _ => hrefunded.mpr hstatus, (fun h => by cases h),
        fun _ _ => rfl, (fun h => by cases h)⟩
    · exact sound_idle
  · intro know hknow
    cases hknow
    rw [afterStatus, if_pos (hrefunded.mp hstatus), beforeReversal, if_pos rfl]
    rfl

variable {op : Stmt}

theorem Inv.auto {via : Via} {learn : op.Res → Know} (h : Inv t amount since tick db held ghosts)
    (hghost : ghosts i = ⟨some know, tx⟩) (hk : sent t know via op = some learn)
    (hin : Sys.inside via tx = false) (hfree : ∀ j k, (j, k) ∈ held → k ∉ locks op db)
    (hmay : May t db (.sends op)) :
    Inv t amount since (tick + 1) (engine.visible db (exec tick db db op).2) held
      (Function.update ghosts i ⟨some (learn (exec tick db db op).1), tx⟩) := by
  have hsound := h.soundAt hghost
  have hinside : via = .conn → know.within = true → False := by
    rintro rfl hwithin
    obtain ⟨work, rfl, -⟩ := hsound.opened hwithin
    cases hin
  cases sent_sends hk with
  | failed => exact hsound.fact.elim
  | spare know via op hspares hadmits => exact h.spared hghost (spares_exec hspares tick db db)
  | lock due id => exact (hinside rfl rfl).elim
  | count => exact (hinside rfl rfl).elim
  | judge => exact (hinside rfl rfl).elim
  | credit => exact (hinside rfl rfl).elim
  | debit => exact (hinside rfl rfl).elim
  | status id status =>
    by_cases hid : id = t
    · subst hid
      refine h.statusSet hghost (fun j hj => hfree j _ hj List.mem_cons_self) fun hrefunded => ?_
      by_contra hstatus
      have hnot := hmay.2 (decide_eq_true ⟨rfl, hstatus⟩)
      rw [hrefunded] at hnot
      cases hnot
    · have hspares : (Stmt.setStatus id status).spares t = true := decide_eq_true hid
      have hknow : afterStatus t id status = .idle := by
        simp [afterStatus, beforeReversal, hid]
      rw [hknow]
      exact h.spared hghost (spares_exec hspares tick db db)
  | refunded id reference =>
    by_cases hid : id = t
    · subst hid
      exact h.statusSet hghost (fun j hj => hfree j _ hj List.mem_cons_self) fun _ => rfl
    · have hspares : (Stmt.markRefunded id reference).spares t = true := decide_eq_true hid
      have hknow : beforeReversal t id = .idle := if_neg hid
      rw [hknow]
      exact h.spared hghost (spares_exec hspares tick db db)

variable {work : Tx Db Write}

theorem view_fix (h : ∀ view, work.view = some view → view.book t = db.book t) {view : Db}
    (hview : (engine.fix op db work).view = some view) : view.book t = db.book t := by
  unfold Engine.fix at hview
  split_ifs at hview
  · cases hbefore : work.view with
    | none =>
      rw [hbefore] at hview
      cases hview
      rfl
    | some before =>
      rw [hbefore] at hview
      cases hview
      exact h before hbefore
  · exact h view hview

theorem Working.next (h : Working t amount db know work) (op : Stmt)
    (hmarks : ∀ w ∈ writes, w.marks t = none)
    (hentries : know.pending amount ++ writes.flatMap (Write.entries t) = know'.pending amount)
    (hfresh : know' = .begun true → (engine.fix op db work).view = none)
    (hview : know'.holds = true → know'.owes = true → ∀ view, work.view = some view →
      view.book t = db.book t) :
    Working t amount db know'
      { engine.fix op db work with writes := work.writes ++ writes } := by
  refine ⟨fun w hw => ?_, ?_, hfresh, fun hholds howes view hv => ?_⟩
  · rcases List.mem_append.mp hw with hw | hw
    · exact h.marks w hw
    · exact hmarks w hw
  · rw [List.flatMap_append, h.entries]
    exact hentries
  · exact view_fix (hview hholds howes) hv

theorem Working.current (h : Working t amount db know work) :
    (engine.current db work).book t = db.book t ++ know.pending amount ∧
      (engine.current db work).account t = db.account t :=
  ⟨(book_visible work.writes).trans (congrArg _ h.entries), account_visible h.marks⟩

theorem any_entry (seen : Db) (entryType : EntryType) :
    (seen.ledger.any fun row => row.isOf t && decide (row.entryType = entryType)) = true ↔
      entryType ∈ (seen.book t).map Prod.fst := by
  simp [Db.book, and_assoc]

theorem Working.snapshot (h : Working t amount db know work) (op : Stmt)
    (hholds : know.holds = true) (howes : know.owes = true) (hpending : know.pending amount = []) :
    (engine.snapshot db (engine.fix op db work)).book t = db.book t := by
  rw [Engine.snapshot_fix, Engine.snapshot, book_visible, h.entries, hpending, List.append_nil]
  cases hview : work.view with
  | none => rfl
  | some view => exact h.view hholds howes view hview

theorem isEntry_iff {entryType : EntryType} {a : Int} {row : LedgerEntry} :
    row.isEntry t entryType a = true ↔
      row.isOf t = true ∧ row.entryType = entryType ∧ row.amount = a := by
  simp [LedgerEntry.isEntry]

theorem book_uncredited (h : Booked t amount db) (hcredited : db.credited t = false) :
    db.book t = [] := by
  have hnot : EntryType.credit ∉ (db.book t).map Prod.fst := fun hmem => by
    rw [← any_entry] at hmem
    exact Bool.false_ne_true (hcredited.symm.trans hmem)
  rcases h.book with hempty | hcredit | ⟨hboth, -⟩
  · exact hempty
  · rw [hcredit] at hnot
    exact absurd List.mem_cons_self hnot
  · rw [hboth] at hnot
    exact absurd List.mem_cons_self hnot

theorem book_unreversed (h : Booked t amount db)
    (hcredit : EntryType.credit ∈ (db.book t).map Prod.fst)
    (hdebit : EntryType.debit ∉ (db.book t).map Prod.fst) :
    db.book t = [(.credit, amount)] := by
  rcases h.book with hempty | hcredited | ⟨hboth, -⟩
  · rw [hempty] at hcredit
    cases hcredit
  · exact hcredited
  · rw [hboth] at hdebit
    exact absurd (List.mem_cons_of_mem _ List.mem_cons_self) hdebit

theorem locked_row {row : Transaction} {current : Db} {id : Nat}
    (h : current.transaction id = some row) : row.id = id := by
  simpa using List.find?_some h

theorem Inv.learn (h : Inv t amount since tick db held ghosts)
    (hghost : ghosts i = ⟨some know, some work⟩)
    (hfree : ∀ j k, (j, k) ∈ held → k ∈ locks op (engine.current db work) → j = i)
    (hfact : know'.Fact t amount db) (howes : know'.owes = know.owes)
    (hwithin : know'.within = true) (hlock : know'.holds = true →
      (i, Key.transaction t) ∈ held ++ (locks op (engine.current db work)).map fun k => (i, k))
    (hwork : Working t amount db know'
      { engine.fix op db work with writes := work.writes ++ writes }) :
    Inv t amount since (tick + 1) db
      (held ++ (locks op (engine.current db work)).map fun k => (i, k))
      (Function.update ghosts i
        ⟨some know', some { engine.fix op db work with writes := work.writes ++ writes }⟩) := by
  refine h.sameBook (Sys.exclusive_locked h.exclusive hfree)
    (fun j k _ hj => List.mem_append_left _ hj) rfl rfl (fun know hknow => ?_)
    fun hpending _ => Or.inr fun know hknow => ?_
  · cases hknow
    refine ⟨hfact, fun hdue => (h.soundAt hghost).owes (howes ▸ hdue), hlock, fun hnot => ?_,
      fun _ => ⟨_, rfl, hwork⟩⟩
    rw [hwithin] at hnot
    cases hnot
  · cases hknow
    rw [howes]
    exact hpending _ (by rw [hghost])

/-- A statement of an open transaction keeps the invariant. -/
theorem Inv.statement {learn : op.Res → Know} (h : Inv t amount since tick db held ghosts)
    (hghost : ghosts i = ⟨some know, some work⟩) (hk : sent t know .conn op = some learn)
    (hfree : ∀ j k, (j, k) ∈ held → k ∈ locks op (engine.current db work) → j = i)
    (hmay : May t db (.sends op)) :
    Inv t amount since (tick + 1) db
      (held ++ (locks op (engine.current db work)).map fun k => (i, k))
      (Function.update ghosts i
        ⟨some (learn (exec tick (engine.current db work)
            (engine.snapshot db (engine.fix op db work)) op).1),
          some { engine.fix op db work with
            writes := work.writes ++ (exec tick (engine.current db work)
              (engine.snapshot db (engine.fix op db work)) op).2 }⟩) := by
  have hsound := h.soundAt hghost
  have hworking : know.within = true → Working t amount db know work := fun hwithin => by
    obtain ⟨_, htx, hwork⟩ := hsound.opened hwithin
    cases htx
    exact hwork
  have hheld : know.holds = true → (i, Key.transaction t) ∈
      held ++ (locks op (engine.current db work)).map fun k => (i, k) :=
    fun hholds => List.mem_append_left _ (hsound.lock hholds)
  cases sent_sends hk with
  | failed => exact hsound.fact.elim
  | lock due id =>
    have hwork := hworking rfl
    have hnone : due = true → work.view = none := fun hdue => hwork.fresh (hdue ▸ rfl)
    have hbegun : Inv t amount since (tick + 1) db (held ++ [(i, Key.transaction id)])
        (Function.update ghosts i ⟨some (.begun due), some { engine.fix (.lockTransaction id) db work
          with writes := work.writes ++ [] }⟩) :=
      h.learn hghost hfree trivial rfl rfl (fun h => by cases h)
        (hwork.next (.lockTransaction id) (by simp) rfl hwork.fresh fun h => by cases h)
    change Inv t amount since (tick + 1) db (held ++ [(i, Key.transaction id)])
      (Function.update ghosts i ⟨some (locking t due id ((engine.current db work).transaction id)),
        some { engine.fix (.lockTransaction id) db work with writes := work.writes ++ [] }⟩)
    have haccount := hwork.current.2
    obtain ⟨status, hstatus⟩ := h.account
    rw [hstatus, Db.account] at haccount
    cases hfound : (engine.current db work).transaction id with
    | none =>
      by_cases hid : id = t
      · rw [← hid, hfound] at haccount
        cases haccount
      · rw [locking, if_neg hid]
        exact hbegun
    | some row =>
      rw [locking, if_neg (not_not.mpr (locked_row hfound))]
      by_cases hid : id = t
      · subst hid
        rw [if_pos rfl]
        have hamount : row.amount = amount := by
          rw [hfound] at haccount
          exact (Prod.mk.inj (Option.some.inj haccount)).1
        refine h.learn hghost hfree hamount rfl rfl
          (fun _ => List.mem_append_right _ List.mem_cons_self)
          (hwork.next (.lockTransaction id) (by simp) rfl (fun h => by cases h) fun _ hdue view hview => ?_)
        rw [hnone hdue] at hview
        cases hview
      · rw [if_neg hid]
        exact hbegun
  | count a =>
    have hwork := hworking rfl
    have hseen := hwork.snapshot (.selectEntry t .credit) rfl rfl rfl
    refine h.learn hghost hfree ⟨hsound.fact, ?_⟩ rfl rfl hheld
      (hwork.next _ (fun w hw => by cases hw) rfl (fun h => by cases h)
        fun _ _ => hwork.view rfl rfl)
    rw [← hseen]
    exact any_entry _ _
  | judge a found =>
    have hwork := hworking rfl
    have hseen := hwork.snapshot (.selectEntry t .debit) rfl rfl rfl
    refine h.learn hghost hfree ⟨hsound.fact.1, hsound.fact.2, ?_⟩ rfl rfl hheld
      (hwork.next _ (fun w hw => by cases hw) rfl (fun h => by cases h)
        fun _ _ => hwork.view rfl rfl)
    rw [← hseen]
    exact any_entry _ _
  | credit a row hrow =>
    have hwork := hworking rfl
    obtain ⟨hof, htype, hrow⟩ := isEntry_iff.mp hrow
    obtain rfl : a = amount := hsound.fact
    by_cases hfits : fitsLedger row.amount = true
    · have hexec : ∀ current seen, exec tick current seen (.insertEntry row) =
          (true, [.entry row]) := fun current seen => if_pos hfits
      rw [hexec]
      obtain ⟨hcredited, hstatus⟩ := hmay.1 (by simp [Stmt.credits, hof, htype])
      have hempty : db.book t = [] := book_uncredited h.booked hcredited
      refine h.learn hghost hfree ⟨hempty, hstatus, hrow ▸ hfits⟩ rfl rfl hheld
        (hwork.next _ (by simp [Write.marks]) ?_ (fun h => by cases h) fun _ h => by cases h)
      simp [Write.entries, hof, htype, hrow, Know.pending]
    · have hexec : ∀ current seen, exec tick current seen (.insertEntry row) = (false, []) :=
        fun current seen => if_neg hfits
      rw [hexec]
      exact h.learn hghost hfree rfl rfl rfl hheld (hwork.next _ (by simp) rfl (fun h => by cases h)
        fun _ h => by cases h)
  | debit a row hrow =>
    have hwork := hworking rfl
    obtain ⟨hof, htype, hrow⟩ := isEntry_iff.mp hrow
    obtain ⟨rfl, hfound, hreversal⟩ := hsound.fact
    have hbook : db.book t = [(.credit, a)] := book_unreversed h.booked (hfound.mp rfl)
      fun hdebit => by cases hreversal.mpr hdebit
    have hfits : fitsLedger row.amount = true := by
      rw [hrow]
      exact h.booked.fits (by rw [hbook]; exact List.cons_ne_nil _ _)
    have hexec : ∀ current seen, exec tick current seen (.insertEntry row) =
        (true, [.entry row]) := fun current seen => if_pos hfits
    rw [hexec]
    refine h.learn hghost hfree hbook rfl rfl hheld
      (hwork.next _ (by simp [Write.marks]) ?_ (fun h => by cases h) fun _ _ => hwork.view rfl rfl)
    simp [Write.entries, hof, htype, hrow, Know.pending]
  | spare know via op hspares hadmits =>
    have hwithin : know.within = true := by
      cases know <;> first | rfl | cases hadmits
    have hwork := hworking hwithin
    have hspared := spares_exec hspares tick (engine.current db work)
      (engine.snapshot db (engine.fix op db work))
    refine h.learn hghost hfree hsound.fact rfl hwithin hheld (hwork.next op
      (fun w hw => (hspared w hw).2) ?_ (fun hbegun => ?_) hwork.view)
    · rw [List.flatMap_eq_nil_iff.mpr fun w hw => (hspared w hw).1, List.append_nil]
    · subst hbegun
      cases hadmits

theorem Inv.step {ghost' : Ghost Db Write Know} (h : Inv t amount since tick db held ghosts)
    (hstep : Guarded engine (discipline t) (May t db) i tick db held (ghosts i) db' held' ghost') :
    Inv t amount since (tick + 1) db' held' (Function.update ghosts i ghost') := by
  generalize hghost : ghosts i = ghost at hstep
  cases hstep with
  | idle =>
    refine h.sameBook h.exclusive (fun j k hj hk => hk) rfl rfl (fun know hknow => ?_)
      fun hpending _ => Or.inr (hghost ▸ hpending)
    rw [← hghost] at hknow ⊢
    exact h.sound i know hknow
  | abort =>
    exact h.sameBook (Sys.exclusive_releasedBy h.exclusive)
      (fun j k hj hk => Sys.mem_releasedBy_other hj hk) rfl rfl nofun fun _ _ => Or.inr nofun
  | start know know' tx hk => exact h.start hghost hk
  | commit know know' tx hk => exact h.commit hghost hk
  | rollback know know' tx hk => exact h.rollback hghost hk
  | auto know via op learn tx hk hin hfree hmay => exact h.auto hghost hk hin hfree hmay
  | within know op learn tx hk hfree hmay => exact h.statement hghost hk hfree hmay
  | call know query learn tx hk answer hmay => exact h.heard hghost hk hmay

end FireIsp.Gateway
