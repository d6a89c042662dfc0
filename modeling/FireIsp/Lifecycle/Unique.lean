import FireIsp.Lifecycle.Outcome

/-!
# Outcomes are unique

Any number of calls on one service order, interleaved in any way.  A transaction holds the order
from its first statement to its end, and ends with one step of the order or with nothing.
-/

namespace FireIsp.Lifecycle

open Txn Throwing

variable {o : Nat} {know : Know}

theorem silent_discipline : Silent (discipline o) := fun _ _ => rfl

theorem sent_pooled (via : Via) (op : Stmt) (h : Pooled via op) :
    (discipline o).sent .idle via op = some fun _ => .idle := by
  obtain ⟨rfl, query, rfl⟩ := h
  rfl

variable {contractId : Option Nat}

theorem sent_minor (hholds : know.holds = true) {orderId : Nat} (via : Via) (op : Stmt)
    (h : Minor orderId contractId via op) :
    (discipline o).sent know via op = some fun _ => know := by
  obtain ⟨rfl, hminor⟩ := h
  change know.inside o op = _
  cases op with
  | select locking query =>
    cases locking with
    | false => exact if_pos hholds
    | true =>
      cases query with
      | order id scope live => cases hminor
      | _ => exact if_pos hholds
  | startRow id clientId contractId => cases hminor
  | completeRow id => cases hminor
  | cancelRow id => cases hminor
  | insertOrder row => cases hminor
  | assignOrder id assignedTo => cases hminor
  | insertContract row => cases hminor
  | insertInvoice row => cases hminor
  | _ => exact if_pos hholds

def Keeps {A : Type} (o : Nat) (know : Know) (p : Body A) (post : A → Know → Prop) : Prop :=
  p.run.Follows (discipline o) know (Either post fun _ _ => True)

variable {A B : Type} {post : A → Know → Prop}

variable {p : Body A}

theorem Keeps.mono {post' : A → Know → Prop} (hp : Keeps o know p post)
    (h : ∀ value know, post value know → post' value know) : Keeps o know p post' := by
  refine Prog.Follows.mono hp fun returned know hend => ?_
  cases returned with
  | ok value => exact h value know hend
  | error error => trivial

theorem Keeps.bind {f : A → Body B} {post₂ : B → Know → Prop} (hp : Keeps o know p post)
    (hf : ∀ value know, post value know → Keeps o know (f value) post₂) :
    Keeps o know (p >>= f) post₂ :=
  follows_bind hp hf

theorem keeps_statement {via : Via} {op : Stmt} {learn : op.Res → Know}
    (hsent : (discipline o).sent know via op = some learn) :
    Keeps o know (statement via op) fun reply know' => know' = learn reply :=
  follows_statement silent_discipline hsent (fun _ => trivial) fun _ => rfl

theorem keeps_orThrow {found : Option A} {error : Refusal}
    (h : ∀ row, found = some row → post row know) : Keeps o know (orThrow found error) post :=
  follows_orThrow trivial h

theorem keeps_checked {value : Except Refusal A} (h : ∀ returned, value = .ok returned →
    post returned know) : Keeps o know (checked value) post :=
  follows_checked (fun _ => trivial) h

theorem keeps_refuseIf {condition : Prop} [Decidable condition] {error : Refusal} :
    Keeps o know (refuseIf condition error) fun _ know' => know' = know ∧ ¬condition :=
  follows_refuseIf (fun _ => trivial) fun h => ⟨rfl, h⟩

theorem keeps_minor (hholds : know.holds = true) {orderId : Nat}
    (hp : p.run.Within (Minor orderId contractId)) :
    Keeps o know p fun _ know' => know' = know :=
  follows_within silent_discipline hp (sent_minor hholds) fun _ => trivial

theorem keeps_lockOrder (scope : Scope) (live : Bool) :
    Keeps o .begun (statement .conn (.select true (.order o scope live)))
      fun found know => know = Know.found found :=
  keeps_statement (if_pos ⟨rfl, rfl⟩)

theorem keeps_row (found : Option Order) :
    Keeps o (Know.found found) (orThrow found .orderNotFound) fun order know =>
      know = .held order.status order.contractId .untouched :=
  keeps_orThrow fun order horder => by rw [horder]; rfl

theorem keeps_moved (op : Stmt) (moved : op.Res → Bool) {allowed : Bool}
    (hsent : (discipline o).sent know .conn op =
      if allowed then some fun reply => if moved reply then .closed else know else none)
    (hallowed : allowed = true) :
    Keeps o know (statement .conn op) fun reply know' => moved reply = true → know' = .closed :=
  follows_statement silent_discipline (hsent.trans (if_pos hallowed)) (fun _ => trivial)
    fun _ hmoved => if_pos hmoved

variable (H : Hashing)

theorem status_of_startable {options : StartOptions} {order : Order} {u : Unit}
    (h : assertStartable options order = .ok u) : order.status = .new := by
  obtain ⟨u, hstatus, -⟩ := Fallible.ok_of_bind h
  exact not_not.mp (Fallible.refuseIf_ok hstatus)

theorem keeps_contractToLink {order : Order} (hstatus : order.status = .new)
    (orgId : Option Nat) (clientId : Nat) (source : Option Snapshot) :
    Keeps o (.held order.status order.contractId .untouched)
      (contractToLink order orgId clientId source) fun link know =>
        know.holds = true ∧ know.startable (newValue link order.contractId) = true := by
  unfold contractToLink
  split_ifs with hcreate
  · have hinsert : (discipline o).sent (.held order.status order.contractId .untouched) .conn
        (.insertContract (contractData order orgId clientId source)) =
          some fun contractId => .held .new none (.created contractId) := by
      rw [hstatus, hcreate.2]
      rfl
    have hselectable : Keeps o (.held order.status order.contractId .untouched)
        (asked (.planSelectable order.planId orgId)) fun _ know =>
          know = .held order.status order.contractId .untouched :=
      follows_asked silent_discipline _
    refine hselectable.bind fun _ know hknow => ?_
    subst hknow
    refine Keeps.bind keeps_refuseIf fun _ know hknow => ?_
    obtain ⟨rfl, -⟩ := hknow
    refine Keeps.bind (keeps_statement hinsert) fun contractId know hknow => ?_
    subst hknow
    have hproceeds : proceeds.run.Within (Minor 0 none) := within_proceeds
    refine Keeps.bind (keeps_minor rfl hproceeds) fun _ know hknow => ?_
    subst hknow
    refine ⟨rfl, ?_⟩
    rw [hcreate.2]
    simp [newValue, Know.startable]
  · refine ⟨rfl, ?_⟩
    rw [hstatus]
    simp [newValue, Know.startable]

theorem keeps_startLocked (options : StartOptions) :
    Keeps o .begun (startLocked H o options) fun _ know => know = .closed := by
  refine (keeps_lockOrder _ _).bind fun found know hknow => ?_
  subst hknow
  refine (keeps_row found).bind fun order know hknow => ?_
  subst hknow
  have hstartable : Keeps o (.held order.status order.contractId .untouched)
      (checked (assertStartable options order)) fun _ know =>
        know = .held order.status order.contractId .untouched ∧ order.status = .new :=
    keeps_checked fun _ h => ⟨rfl, status_of_startable h⟩
  refine hstartable.bind fun _ know hknow => ?_
  obtain ⟨rfl, hstatus⟩ := hknow
  have hclient : (resolveClient order (order.organizationId.or options.orgId)).run.Within
      (Minor o none) := minor_resolveClient order _
  refine Keeps.bind (keeps_minor rfl hclient) fun clientId know hknow => ?_
  subst hknow
  have hsource : (registrationFor H order (order.organizationId.or options.orgId)).run.Within
      (Minor o order.contractId) := minor_registrationFor H order _
  refine Keeps.bind (keeps_minor rfl hsource) fun source know hknow => ?_
  subst hknow
  refine (keeps_contractToLink hstatus _ clientId source).bind fun link know hknow => ?_
  obtain ⟨hholds, hlink⟩ := hknow
  have hstart : Keeps o know (statement .conn (.startRow o (newValue (some clientId) order.clientId)
      (newValue link order.contractId))) fun started know' => started = true → know' = .closed :=
    keeps_moved (.startRow o _ _) id rfl (by simpa using hlink)
  refine hstart.bind fun started know' hstarted => ?_
  refine keeps_refuseIf.bind fun _ know'' hknow => ?_
  obtain ⟨rfl, hpass⟩ := hknow
  obtain rfl := hstarted (by simpa using hpass)
  refine Keeps.bind (keeps_minor rfl (minor_dispatch order _ clientId link)) fun visit know hknow => ?_
  subst hknow
  refine Keeps.bind (keeps_minor rfl (minor_handOver order _ clientId link visit))
    fun _ know hknow => ?_
  exact hknow

theorem keeps_createOneOffInvoice (order : Order) (options : CompleteOptions) (fee : Int) :
    Keeps o (.held .inProcess contractId .untouched) (createOneOffInvoice order options fee)
      fun _ know => know.holds = true ∧ know.completable = true := by
  unfold createOneOffInvoice
  split
  · exact ⟨rfl, rfl⟩
  · refine Keeps.bind (follows_asked silent_discipline _) fun composed know hknow => ?_
    subst hknow
    have htotal : Keeps o (.held .inProcess contractId .untouched)
        (orThrow composed .invoiceNotCreated) fun _ know =>
          know = .held .inProcess contractId .untouched :=
      keeps_orThrow fun _ _ => rfl
    refine htotal.bind fun total know hknow => ?_
    subst hknow
    refine Keeps.bind (keeps_statement rfl) fun invoiceId know hknow => ?_
    subst hknow
    have hproceeds : proceeds.run.Within (Minor 0 none) := within_proceeds
    refine Keeps.mono (keeps_minor rfl hproceeds) fun _ know hknow => ?_
    subst hknow
    exact ⟨rfl, rfl⟩

theorem keeps_completeLocked (options : CompleteOptions) (fee : Int) :
    Keeps o .begun (completeLocked H o options fee) fun _ know => know = .closed := by
  refine (keeps_lockOrder _ _).bind fun found know hknow => ?_
  subst hknow
  refine (keeps_row found).bind fun order know hknow => ?_
  subst hknow
  refine keeps_refuseIf.bind fun _ know hknow => ?_
  obtain ⟨rfl, hstatus⟩ := hknow
  rw [not_not.mp hstatus]
  have hminor : (activationIf H order options).run.Within (Minor o order.contractId) :=
    minor_activationIf H order options
  refine Keeps.bind (keeps_minor rfl hminor) fun _ know hknow => ?_
  subst hknow
  refine (keeps_createOneOffInvoice order options fee).bind fun _ know hknow => ?_
  obtain ⟨hholds, hcompletable⟩ := hknow
  have hcomplete : Keeps o know (statement .conn (.completeRow o)) fun completed know' =>
      completed = true → know' = .closed :=
    keeps_moved (.completeRow o) id rfl (by simpa using hcompletable)
  refine hcomplete.bind fun completed know' hcompleted => ?_
  refine keeps_refuseIf.mono fun _ know'' hknow => ?_
  obtain ⟨rfl, hpass⟩ := hknow
  exact hcompleted (by simpa using hpass)

theorem keeps_cancelLocked (options : CancelOptions) :
    Keeps o .begun (cancelLocked o options) fun _ know => know = .closed := by
  refine (keeps_lockOrder _ _).bind fun found know hknow => ?_
  subst hknow
  refine (keeps_row found).bind fun order know hknow => ?_
  subst hknow
  refine keeps_refuseIf.bind fun _ know hknow => ?_
  obtain ⟨rfl, -⟩ := hknow
  refine keeps_refuseIf.bind fun _ know hknow => ?_
  obtain ⟨rfl, hstatus⟩ := hknow
  have hlinked : (cancelLinked order options).run.Within (Minor o order.contractId) :=
    minor_cancelLinked order options
  refine Keeps.bind (keeps_minor rfl hlinked) fun contractCancelled know hknow => ?_
  subst hknow
  have hcancel : Keeps o (.held order.status order.contractId .untouched)
      (statement .conn (.cancelRow o)) fun cancelled know' => cancelled = true → know' = .closed :=
    keeps_moved (.cancelRow o) id rfl (by simpa [Know.cancellable] using hstatus)
  refine hcancel.bind fun cancelled know hcancelled => ?_
  refine keeps_refuseIf.bind fun _ know' hknow => ?_
  obtain ⟨rfl, hpass⟩ := hknow
  obtain rfl := hcancelled (by simpa using hpass)
  refine Keeps.bind (keeps_statement rfl) fun _ know hknow => ?_
  subst hknow
  refine Keeps.bind (keeps_statement rfl) fun _ know hknow => ?_
  exact hknow

/-- A call on the order. -/
inductive Call
  | start (options : StartOptions)
  | complete (options : CompleteOptions)
  | cancel (options : CancelOptions)

def Call.run (o : Nat) : Call → Body (Option Order)
  | .start options => startOrder H o options
  | .complete options => completeOrder H o options
  | .cancel options => Prod.snd <$> cancelOrder o options

theorem keeps_inTransaction {body : Body A}
    (hbody : Keeps o .begun body fun _ know => know = .closed) :
    Keeps o .idle (inTransaction body (reloadOrder o)) fun _ know => know = .idle := by
  have hreload : (reloadOrder o).run.Within Pooled := pooled_select _
  refine Prog.Follows.mono (follows_inTransaction silent_discipline rfl (fun _ => rfl) hreload
    sent_pooled hbody fun _ know hclosed => by rw [hclosed]; rfl) fun returned know hend => ?_
  cases returned with
  | ok result => exact hend.1
  | error error => trivial

theorem keeps_pooled (hp : p.run.Within Pooled) :
    Keeps o .idle p fun _ know => know = .idle :=
  follows_within silent_discipline hp sent_pooled fun _ => trivial

theorem keeps_preOrder (found : Option Order) :
    Keeps o .idle (orThrow found .orderNotFound) fun _ know => know = .idle :=
  keeps_orThrow fun _ _ => rfl

theorem keeps_run (call : Call) : Keeps o .idle (call.run H o) fun _ know => know = .idle := by
  cases call with
  | start options =>
    refine (keeps_pooled (pooled_select _)).bind fun found know hknow => ?_
    subst hknow
    refine (keeps_preOrder found).bind fun preOrder know hknow => ?_
    subst hknow
    refine (keeps_checked fun _ _ => rfl).bind fun _ know hknow => ?_
    subst hknow
    refine (keeps_inTransaction (keeps_startLocked H options)).bind fun result know hknow => ?_
    exact hknow
  | complete options =>
    refine (keeps_pooled (pooled_select _)).bind fun found know hknow => ?_
    subst hknow
    refine (keeps_preOrder found).bind fun preOrder know hknow => ?_
    subst hknow
    refine keeps_refuseIf.bind fun _ know hknow => ?_
    obtain ⟨rfl, -⟩ := hknow
    refine (keeps_pooled (pooled_assertInvoice options preOrder)).bind fun fee know hknow => ?_
    subst hknow
    refine (keeps_inTransaction (keeps_completeLocked H options fee)).bind
      fun result know hknow => ?_
    subst hknow
    refine Keeps.bind (follows_asked silent_discipline _) fun _ know hknow => ?_
    exact hknow
  | cancel options =>
    have hcancel : Keeps o .idle (cancelOrder o options) fun _ know => know = .idle := by
      refine (keeps_inTransaction (keeps_cancelLocked options)).bind fun result know hknow => ?_
      subst hknow
      refine Keeps.bind (follows_asked silent_discipline _) fun _ know hknow => ?_
      exact hknow
    exact hcancel.bind fun result know hknow => hknow

end FireIsp.Lifecycle
