import FireIsp.Base.Throwing

/-!
# Clients of a store that may fail

A service sends statements and brackets that may raise, and asks about what lies outside of the
store.  Whether a statement raises is an answer from outside like any other; a discipline that
learns nothing from such answers is followed by a client whose statements it allows.
-/

namespace Txn

/-- Calls of a connection that may raise. -/
inductive Bracket
  | connect
  | begin
  | commit
  | rollback

/-- Questions to the world outside of the store. -/
inductive Outside (Op Query : Type)
  | raises (op : Op)
  | fails (bracket : Bracket)
  | about (query : Query)

/-- Replies from outside. -/
@[reducible] def Outside.Answer {Op Query : Type} (Answer : Query → Type) :
    Outside Op Query → Type
  | .raises _ => Bool
  | .fails _ => Bool
  | .about query => Answer query

/-- Errors with one for a statement or a bracket that raised. -/
class Raises (ε : Type) where
  raised : ε

/-- A service. -/
abbrev Client (Op : Type) (Res : Op → Type) (Query : Type) (Answer : Query → Type) (ε A : Type) :
    Type :=
  Throwing Op Res (Outside Op Query) (Outside.Answer Answer) ε A

namespace Client

open Throwing

variable {Op : Type} {Res : Op → Type} {Query : Type} {Answer : Query → Type} {ε A B : Type}

/-- A question about something outside of the store. -/
def asked (query : Query) : Client Op Res Query Answer ε (Answer query) :=
  lift (Prog.ask (Outside.about query))

variable [Raises ε]

def statement (via : Via) (op : Op) : Client Op Res Query Answer ε (Res op) := do
  let raised ← lift (Prog.ask (Outside.raises op))
  refuseIf (raised = true) Raises.raised
  lift (Prog.send via op)

def bracket (call : Bracket) : Client Op Res Query Answer ε Unit := do
  let failed ← lift (Prog.ask (Outside.fails call))
  refuseIf (failed = true) Raises.raised

/-- The `try` of a transaction. -/
def committing (body : Client Op Res Query Answer ε A) : Client Op Res Query Answer ε A := do
  bracket .begin
  lift Prog.begin
  let value ← body
  bracket .commit
  lift Prog.commitNow
  pure value

/-- `await conn.rollback(); throw err;`; the server rolls back even if the call raises. -/
def rolledBack (error : ε) : Client Op Res Query Answer ε A := do
  let failed ← lift (Prog.ask (Outside.fails .rollback))
  lift Prog.rollbackNow
  throw (if failed = true then Raises.raised else error)

/-- The `catch` of a transaction. -/
def settle : Except ε A → Client Op Res Query Answer ε A
  | .ok value => pure value
  | .error error => rolledBack error

def inTransaction (body : Client Op Res Query Answer ε A) : Client Op Res Query Answer ε A := do
  bracket .connect
  let tried ← attempted (committing body)
  settle tried

/-- `try { await conn.rollback(); } catch {} throw err;` -/
def rolledBackQuietly (error : ε) : Client Op Res Query Answer ε A := do
  let _ ← lift (Prog.ask (Outside.fails .rollback))
  lift Prog.rollbackNow
  throw error

/-- The `catch` of a transaction whose rollback may not raise. -/
def settleQuietly : Except ε A → Client Op Res Query Answer ε A
  | .ok value => pure value
  | .error error => rolledBackQuietly error

/-- A transaction on a connection of its own whose rollback may not raise. -/
def inTransactionQuietly (body : Client Op Res Query Answer ε A) :
    Client Op Res Query Answer ε A := do
  bracket .connect
  let tried ← attempted (committing body)
  settleQuietly tried

/-- A part whose errors are swallowed. -/
def swallowed (body : Client Op Res Query Answer ε Unit) : Client Op Res Query Answer ε Unit := do
  let _ ← attempted body
  pure ()

section Keeps

variable {Know : Type} {D : Discipline Know Op Res (Outside Op Query) (Outside.Answer Answer)}
  {know : Know} {post post' : A → Know → Prop} {post₂ : B → Know → Prop}
  {failed : Know → Prop}

/-- Whether something raises teaches nothing. -/
structure Silent (D : Discipline Know Op Res (Outside Op Query) (Outside.Answer Answer)) :
    Prop where
  raises : ∀ know op, D.asked know (.raises op) = some fun _ => know
  fails : ∀ know call, D.asked know (.fails call) = some fun _ => know

/-- The client keeps to the discipline: it returns with `post`, or throws with `failed`. -/
def Keeps (D : Discipline Know Op Res (Outside Op Query) (Outside.Answer Answer)) (know : Know)
    (p : Client Op Res Query Answer ε A) (post : A → Know → Prop) (failed : Know → Prop) : Prop :=
  p.run.Follows D know (Either post fun _ => failed)

variable {p : Client Op Res Query Answer ε A}

omit [Raises ε] in
theorem Keeps.bind {f : A → Client Op Res Query Answer ε B} (hp : Keeps D know p post failed)
    (hf : ∀ value know, post value know → Keeps D know (f value) post₂ failed) :
    Keeps D know (p >>= f) post₂ failed :=
  follows_bind hp hf

omit [Raises ε] in
theorem Keeps.mono {failed' : Know → Prop} (hp : Keeps D know p post failed)
    (h : ∀ value know, post value know → post' value know)
    (hfailed : ∀ know, failed know → failed' know) : Keeps D know p post' failed' := by
  refine Prog.Follows.mono hp fun returned know hend => ?_
  cases returned with
  | ok value => exact h value know hend
  | error error => exact hfailed know hend

omit [Raises ε] in
theorem keeps_pure {value : A} (h : post value know) :
    Keeps D know (pure value : Client Op Res Query Answer ε A) post failed := h

variable {error : ε}

omit [Raises ε] in
theorem keeps_throw (h : failed know) :
    Keeps D know (throw error : Client Op Res Query Answer ε A) post failed := h

omit [Raises ε] in
theorem keeps_refuseIf {condition : Prop} [Decidable condition] (hfailed : failed know) :
    Keeps D know (refuseIf condition error : Client Op Res Query Answer ε Unit)
      (fun _ know' => know' = know ∧ ¬condition) failed :=
  follows_refuseIf (fun _ => hfailed) fun h => ⟨rfl, h⟩

omit [Raises ε] in
theorem keeps_orThrow {found : Option A} (hfailed : failed know) :
    Keeps D know (orThrow found error : Client Op Res Query Answer ε A)
      (fun row know' => found = some row ∧ know' = know) failed :=
  follows_orThrow hfailed fun _ hrow => ⟨hrow, rfl⟩

omit [Raises ε] in
theorem keeps_checked {value : Except ε A} (hfailed : failed know) :
    Keeps D know (checked value : Client Op Res Query Answer ε A)
      (fun returned know' => value = .ok returned ∧ know' = know) failed :=
  follows_checked (fun _ => hfailed) fun _ h => ⟨h, rfl⟩

omit [Raises ε] in
theorem keeps_asked {query : Query} {learn : Answer query → Know}
    (hasked : D.asked know (.about query) = some learn) :
    Keeps D know (asked query : Client Op Res Query Answer ε (Answer query))
      (fun answer know' => know' = learn answer) failed :=
  follows_lift ⟨learn, hasked, fun _ => rfl⟩

theorem keeps_statement (hsilent : Silent D) {via : Via} {op : Op} {learn : Res op → Know}
    (hsent : D.sent know via op = some learn) (hfailed : failed know) :
    Keeps D know (statement via op : Client Op Res Query Answer ε (Res op))
      (fun reply know' => know' = learn reply) failed := by
  have hraises : Keeps D know (lift (Prog.ask (Outside.raises op)) :
      Client Op Res Query Answer ε Bool) (fun _ know' => know' = know) failed :=
    follows_lift ⟨_, hsilent.raises know op, fun _ => rfl⟩
  refine hraises.bind fun raised know' hknow => ?_
  subst hknow
  refine (keeps_refuseIf hfailed).bind fun _ know' hknow => ?_
  obtain ⟨rfl, -⟩ := hknow
  exact follows_lift ⟨learn, hsent, fun _ => rfl⟩

theorem keeps_bracket (hsilent : Silent D) {call : Bracket} (hfailed : failed know) :
    Keeps D know (bracket call : Client Op Res Query Answer ε Unit)
      (fun _ know' => know' = know) failed := by
  have hfails : Keeps D know (lift (Prog.ask (Outside.fails call)) :
      Client Op Res Query Answer ε Bool) (fun _ know' => know' = know) failed :=
    follows_lift ⟨_, hsilent.fails know call, fun _ => rfl⟩
  refine hfails.bind fun raised know' hknow => ?_
  subst hknow
  exact (keeps_refuseIf hfailed).mono (fun _ _ h => h.1) fun _ h => h

omit [Raises ε] in
theorem keeps_attempted {failed' : Know → Prop} (hp : Keeps D know p post failed) :
    Keeps D know (attempted p) (Either post fun _ => failed) failed' :=
  follows_attempted hp

variable {begun : Know} {body : Client Op Res Query Answer ε A}

theorem keeps_committing (hsilent : Silent D) (hstart : D.started know = some begun)
    (hbody : Keeps D begun body post fun _ => True)
    (hcommit : ∀ value know, post value know → ∃ know', D.committed know = some know' ∧
      post' value know') : Keeps D know (committing body) post' fun _ => True := by
  refine (keeps_bracket hsilent trivial).bind fun _ know hknow => ?_
  subst hknow
  have hbegin : Keeps D know (lift Prog.begin : Client Op Res Query Answer ε Unit)
      (fun _ know => know = begun) fun _ => True := follows_lift ⟨begun, hstart, rfl⟩
  refine hbegin.bind fun _ know hknow => ?_
  subst hknow
  refine hbody.bind fun value know hvalue => ?_
  refine (keeps_bracket hsilent trivial).bind fun _ know' hknow => ?_
  subst hknow
  obtain ⟨know'', hcommitted, hpost⟩ := hcommit value know' hvalue
  have hend : Keeps D know' (lift Prog.commitNow : Client Op Res Query Answer ε Unit)
      (fun _ know => know = know'') fun _ => True := follows_lift ⟨know'', hcommitted, rfl⟩
  refine hend.bind fun _ know hknow => ?_
  subst hknow
  exact keeps_pure hpost

variable {back : Know → Know}

omit [Raises ε] in
theorem keeps_undone (hsilent : Silent D) (hrollback : ∀ know, D.rolledBack know = some (back know))
    (hback : ∀ know, failed (back know)) (thrown : Bool → ε) :
    Keeps D know ((lift (Prog.ask (Outside.fails .rollback)) : Client Op Res Query Answer ε Bool) >>=
      fun raised => (lift Prog.rollbackNow : Client Op Res Query Answer ε Unit) >>= fun _ =>
        (throw (thrown raised) : Client Op Res Query Answer ε A)) post failed := by
  have hfails : Keeps D know (lift (Prog.ask (Outside.fails .rollback)) :
      Client Op Res Query Answer ε Bool) (fun _ know' => know' = know) failed :=
    follows_lift ⟨_, hsilent.fails know _, fun _ => rfl⟩
  refine hfails.bind fun raised know' hknow => ?_
  subst hknow
  have hrolled : Keeps D know' (lift Prog.rollbackNow : Client Op Res Query Answer ε Unit)
      (fun _ know => know = back know') failed :=
    follows_lift ⟨back know', hrollback know', rfl⟩
  refine hrolled.bind fun _ know hknow => ?_
  subst hknow
  exact keeps_throw (hback know')

theorem keeps_inTransactionQuietly (hsilent : Silent D) (hstart : D.started know = some begun)
    (hrollback : ∀ know, D.rolledBack know = some (back know))
    (hbody : Keeps D begun body post fun _ => True)
    (hcommit : ∀ value know, post value know → ∃ know', D.committed know = some know' ∧
      post' value know') (hfailed : failed know) (hback : ∀ know, failed (back know)) :
    Keeps D know (inTransactionQuietly body) post' failed := by
  refine (keeps_bracket hsilent hfailed).bind fun _ know' hknow => ?_
  subst hknow
  have hcommitting := keeps_committing hsilent hstart hbody hcommit
  refine (keeps_attempted hcommitting).bind fun tried know htried => ?_
  cases tried with
  | ok value => exact keeps_pure htried
  | error error =>
    exact keeps_undone hsilent hrollback hback fun _ => error

theorem keeps_inTransaction (hsilent : Silent D) (hstart : D.started know = some begun)
    (hrollback : ∀ know, D.rolledBack know = some (back know))
    (hbody : Keeps D begun body post fun _ => True)
    (hcommit : ∀ value know, post value know → ∃ know', D.committed know = some know' ∧
      post' value know') (hfailed : failed know) (hback : ∀ know, failed (back know)) :
    Keeps D know (inTransaction body) post' failed := by
  refine (keeps_bracket hsilent hfailed).bind fun _ know' hknow => ?_
  subst hknow
  have hcommitting := keeps_committing hsilent hstart hbody hcommit
  refine (keeps_attempted hcommitting).bind fun tried know htried => ?_
  cases tried with
  | ok value => exact keeps_pure htried
  | error error =>
    exact keeps_undone hsilent hrollback hback fun raised =>
      if raised = true then Raises.raised else error

omit [Raises ε] in
theorem keeps_within_kept {allowed : Via → Op → Prop} {kept : Know → Prop}
    (hp : p.run.Within allowed) (hsent : ∀ know via op, kept know → allowed via op →
      ∃ learn, D.sent know via op = some learn ∧ ∀ r, kept (learn r))
    (hasked : ∀ know query, kept know →
      ∃ learn, D.asked know query = some learn ∧ ∀ r, kept (learn r)) (hknow : kept know) :
    Keeps D know p (fun _ => kept) kept := by
  refine (Prog.Follows.of_within_kept hsent hasked hp hknow).mono fun returned know' hknow => ?_
  cases returned with
  | ok value => exact hknow
  | error error => exact hknow

omit [Raises ε] in
theorem keeps_within {allowed : Via → Op → Prop} (hp : p.run.Within allowed)
    (hsent : ∀ via op, allowed via op → D.sent know via op = some fun _ => know)
    (hasked : ∀ query, D.asked know query = some fun _ => know) (hfailed : failed know) :
    Keeps D know p (fun _ know' => know' = know) failed := by
  refine (Prog.Follows.of_within hsent hasked hp).mono fun returned know' hknow => ?_
  subst hknow
  cases returned with
  | ok value => exact rfl
  | error error => exact hfailed

/-- Nothing is refused any more: a reply was one the store never gives. -/
structure Lost (D : Discipline Know Op Res (Outside Op Query) (Outside.Answer Answer))
    (lost : Know) : Prop where
  started : D.started lost = some lost
  committed : D.committed lost = some lost
  rolledBack : D.rolledBack lost = some lost
  sent : ∀ via op, D.sent lost via op = some fun _ => lost
  asked : ∀ query, D.asked lost query = some fun _ => lost

omit [Raises ε] in
theorem Lost.keeps {lost : Know} (hlost : Lost D lost) (p : Client Op Res Query Answer ε A)
    (hpost : ∀ value, post value lost) (hfailed : failed lost) : Keeps D lost p post failed := by
  have hany : ∀ p : Prog Op Res (Outside Op Query) (Outside.Answer Answer) (Except ε A),
      p.Follows D lost (Either post fun _ => failed) := by
    intro p
    induction p with
    | done value =>
      cases value with
      | ok value => exact hpost value
      | error error => exact hfailed
    | start next ih => exact ⟨lost, hlost.started, ih⟩
    | commit next ih => exact ⟨lost, hlost.committed, ih⟩
    | rollback next ih => exact ⟨lost, hlost.rolledBack, ih⟩
    | stmt via op next ih => exact ⟨_, hlost.sent via op, ih⟩
    | call query next ih => exact ⟨_, hlost.asked query, ih⟩
  exact hany p.run

/-- The client keeps to the discipline as long as every reply is one the store gives. -/
def Trusts (D : Discipline Know Op Res (Outside Op Query) (Outside.Answer Answer))
    (lost know : Know) (p : Client Op Res Query Answer ε A) (post : A → Know → Prop)
    (failed : Know → Prop) : Prop :=
  Keeps D know p (fun value know => know = lost ∨ post value know)
    fun know => know = lost ∨ failed know

section Trusts

variable {lost : Know}

variable {p : Client Op Res Query Answer ε A}

omit [Raises ε] in
theorem Keeps.trusts (hp : Keeps D know p post failed) :
    Trusts D lost know p post failed :=
  hp.mono (fun _ _ h => Or.inr h) fun _ h => Or.inr h

omit [Raises ε] in
theorem Trusts.bind (hlost : Lost D lost) {f : A → Client Op Res Query Answer ε B}
    (hp : Trusts D lost know p post failed)
    (hf : ∀ value know, post value know → Trusts D lost know (f value) post₂ failed) :
    Trusts D lost know (p >>= f) post₂ failed := by
  refine Keeps.bind hp fun value know hvalue => ?_
  rcases hvalue with rfl | hvalue
  · exact hlost.keeps _ (fun _ => Or.inl rfl) (Or.inl rfl)
  · exact hf value know hvalue

omit [Raises ε] in
theorem Trusts.mono {failed' : Know → Prop} (hp : Trusts D lost know p post failed)
    (h : ∀ value know, post value know → post' value know)
    (hfailed : ∀ know, failed know → failed' know) : Trusts D lost know p post' failed' :=
  Keeps.mono hp (fun value know => Or.imp_right (h value know)) fun know =>
    Or.imp_right (hfailed know)

theorem trusts_statement (hsilent : Silent D) {via : Via} {op : Op} {learn : Res op → Know}
    {post : Res op → Know → Prop} (hsent : D.sent know via op = some learn) (hfailed : failed know)
    (hlearn : ∀ reply, learn reply = lost ∨ post reply (learn reply)) :
    Trusts D lost know (statement via op : Client Op Res Query Answer ε (Res op)) post failed := by
  refine (keeps_statement hsilent hsent (Or.inr hfailed)).mono (fun reply know' hknow => ?_)
    fun _ h => h
  subst hknow
  exact hlearn reply

theorem trusts_inTransaction (hsilent : Silent D) (hlost : Lost D lost) {begun : Know}
    {back : Know → Know} (hstart : D.started know = some begun)
    (hrollback : ∀ know, D.rolledBack know = some (back know))
    {body : Client Op Res Query Answer ε A} (hbody : Trusts D lost begun body post fun _ => True)
    (hcommit : ∀ value know, post value know → ∃ know', D.committed know = some know' ∧
      post' value know') (hfailed : failed know)
    (hback : ∀ know, back know = lost ∨ failed (back know)) :
    Trusts D lost know (inTransaction body) post' failed := by
  have hany : Keeps D begun body (fun value know => know = lost ∨ post value know)
      fun _ => True := Keeps.mono hbody (fun _ _ h => h) fun _ _ => trivial
  refine keeps_inTransaction hsilent hstart hrollback hany (fun value know hvalue => ?_)
    (Or.inr hfailed) hback
  rcases hvalue with rfl | hvalue
  · exact ⟨_, hlost.committed, Or.inl rfl⟩
  · obtain ⟨know', hcommitted, hpost⟩ := hcommit value know hvalue
    exact ⟨know', hcommitted, Or.inr hpost⟩

end Trusts

end Keeps

section Within

variable {allowed : Via → Op → Prop}

omit [Raises ε] in
theorem within_asked (query : Query) :
    (asked query : Client Op Res Query Answer ε (Answer query)).run.Within allowed :=
  within_lift fun _ => trivial

theorem within_statement {via : Via} {op : Op} (h : allowed via op) :
    (statement via op : Client Op Res Query Answer ε (Res op)).run.Within allowed :=
  within_bind (within_lift fun _ => trivial) fun _ =>
    within_bind within_refuseIf fun _ => within_lift ⟨h, fun _ => trivial⟩

end Within

/-- Statements of a transaction. -/
def Inside (allowed : Op → Prop) (via : Via) (op : Op) : Prop := via = .conn ∧ allowed op

/-- Statements outside of transactions. -/
def Between (allowed : Op → Prop) (via : Via) (op : Op) : Prop := via = .pool ∧ allowed op

/-- What is allowed between and inside transactions keeps what may be known there. -/
structure Indifferent {Know : Type}
    (D : Discipline Know Op Res (Outside Op Query) (Outside.Answer Answer))
    (idle opened : Know → Prop) (between inside : Op → Prop) : Prop where
  /-- Whether something raises teaches nothing. -/
  silent : Silent D
  started : ∀ know, idle know → ∃ know', D.started know = some know' ∧ opened know'
  committed : ∀ know, opened know → ∃ know', D.committed know = some know' ∧ idle know'
  rolledBack : ∀ know, ∃ know', D.rolledBack know = some know' ∧ idle know'
  pool : ∀ know op, idle know → between op →
    ∃ learn, D.sent know .pool op = some learn ∧ ∀ reply, idle (learn reply)
  conn : ∀ know op, opened know → inside op →
    ∃ learn, D.sent know .conn op = some learn ∧ ∀ reply, opened (learn reply)
  asked : ∀ know query, D.asked know query = some fun _ => know

theorem ends_statement {σ W K : Type} {E : Engine σ W K Op Res}
    {world : Nat → (q : Outside Op Query) → Outside.Answer Answer q} {db : σ} {tick : Nat} {op : Op}
    {post : Except ε (Res op) → Nat → σ → Prop}
    (hraised : post (.error Raises.raised) (tick + 1) db)
    (hsent : post (.ok (E.exec op (tick + 1) db db).1) (tick + 2)
      (E.visible db (E.exec op (tick + 1) db db).2)) :
    Ends E world (statement .pool op : Client Op Res Query Answer ε (Res op)).run tick db post := by
  refine Throwing.ends_bind (Txn.ends_bind (ends_ask (ends_pure ?_)))
  refine Throwing.ends_bind ?_
  unfold refuseIf
  split_ifs
  · exact ends_pure hraised
  · exact ends_pure (Txn.ends_bind (ends_pool (ends_pure hsent)))

namespace Indifferent

variable {Know : Type} {D : Discipline Know Op Res (Outside Op Query) (Outside.Answer Answer)}
  {idle opened : Know → Prop} {between inside : Op → Prop} {know : Know}

omit [Raises ε] in
theorem keeps_between (h : Indifferent D idle opened between inside)
    {p : Client Op Res Query Answer ε A} (hp : p.run.Within (Between between)) (hknow : idle know) :
    Keeps D know p (fun _ => idle) idle := by
  refine keeps_within_kept hp (fun know via op hknow hop => ?_) (fun know query hknow => ?_) hknow
  · obtain ⟨rfl, hop⟩ := hop
    exact h.pool know op hknow hop
  · exact ⟨_, h.asked know query, fun _ => hknow⟩

omit [Raises ε] in
theorem keeps_inside (h : Indifferent D idle opened between inside)
    {p : Client Op Res Query Answer ε A} (hp : p.run.Within (Inside inside)) (hknow : opened know) :
    Keeps D know p (fun _ => opened) opened := by
  refine keeps_within_kept hp (fun know via op hknow hop => ?_) (fun know query hknow => ?_) hknow
  · obtain ⟨rfl, hop⟩ := hop
    exact h.conn know op hknow hop
  · exact ⟨_, h.asked know query, fun _ => hknow⟩

theorem keeps_inTransaction (h : Indifferent D idle opened between inside)
    {body : Client Op Res Query Answer ε A} (hbody : body.run.Within (Inside inside))
    (hknow : idle know) : Keeps D know (inTransaction body) (fun _ => idle) idle := by
  obtain ⟨begun, hstart, hbegun⟩ := h.started know hknow
  choose back hback hidle using h.rolledBack
  exact Client.keeps_inTransaction h.silent hstart hback
    ((h.keeps_inside hbody hbegun).mono (fun _ _ hopened => hopened) fun _ _ => trivial)
    (fun _ know hopened => h.committed know hopened) hknow hidle

end Indifferent

end Client

end Txn
