import FireIsp.Lifecycle.Orders

/-!
# What the parts of a transaction touch

Between the locks it begins with and the update it ends with, a transaction on an order sends
statements that lock at most the order and its contract.  Outside of transactions only queries are
sent.
-/

namespace FireIsp.Lifecycle

open Txn Throwing

/-- The statement locks at most an order and its contract, and leaves the order as it is. -/
def Stmt.isMinor (orderId : Nat) (contractId : Option Nat) : Stmt → Bool
  | .select false _ => true
  | .select true (.order ..) => false
  | .select true (.openActivationOrder ..) => false
  | .select true (.contract id _ _) => decide (contractId = some id)
  | .select true _ => true
  | .activateContract id => decide (contractId = some id)
  | .cancelContract id _ _ => decide (contractId = some id)
  | .insertWorkOrder row =>
    decide (row.serviceOrderId = some orderId ∧ row.contractId = contractId)
  | .insertDocument row =>
    decide (row.serviceOrderId = some orderId ∧ row.contractId = contractId)
  | .setRadius .. => true
  | .assignVisits .. => true
  | .cancelVisits _ => true
  | .cancelDocuments .. => true
  | _ => false

/-- Minor statements of a transaction. -/
def Minor (orderId : Nat) (contractId : Option Nat) (via : Via) (op : Stmt) : Prop :=
  via = .conn ∧ op.isMinor orderId contractId = true

/-- Queries outside of transactions. -/
def Pooled (via : Via) (op : Stmt) : Prop := via = .pool ∧ ∃ query, op = .select false query

variable {A B : Type} {allowed : Via → Stmt → Prop} {orderId : Nat} {contractId : Option Nat}

theorem within_statement {via : Via} {op : Stmt} (h : allowed via op) :
    (statement via op).run.Within allowed :=
  within_bind (within_lift fun _ => trivial) fun _ =>
    within_bind within_refuseIf fun _ => within_lift ⟨h, fun _ => trivial⟩

theorem pooled_select (query : Select) :
    (statement .pool (.select false query)).run.Within Pooled :=
  within_statement ⟨rfl, query, rfl⟩

theorem minor_statement {op : Stmt} (h : op.isMinor orderId contractId = true) :
    (statement .conn op).run.Within (Minor orderId contractId) :=
  within_statement ⟨rfl, h⟩

theorem within_asked (query : Query) : (asked query).run.Within allowed :=
  within_lift fun _ => trivial

theorem within_proceeds : proceeds.run.Within allowed :=
  within_bind (within_asked _) fun _ => within_refuseIf

theorem within_proceedsIf (condition : Bool) : (proceedsIf condition).run.Within allowed := by
  cases condition with
  | false => trivial
  | true => exact within_proceeds

variable (H : Hashing)

theorem minor_resolveClient (order : Order) (effectiveOrgId : Option Nat) :
    (resolveClient order effectiveOrgId).run.Within (Minor orderId contractId) := by
  unfold resolveClient
  split
  · exact within_bind (minor_statement rfl) fun _ =>
      within_bind within_orThrow fun _ => trivial
  · exact within_bind (within_asked _) fun _ => within_orThrow

theorem minor_flowEnvironment (order : Order) (activationOrgId : Nat) :
    (flowEnvironment order activationOrgId).run.Within (Minor orderId order.contractId) := by
  unfold flowEnvironment
  split
  · rename_i linked hlinked
    exact within_bind (minor_statement (decide_eq_true hlinked)) fun _ =>
      within_bind within_orThrow fun _ => trivial
  · exact within_bind (minor_statement rfl) fun _ =>
      within_bind within_orThrow fun _ => within_bind within_refuseIf fun _ => trivial

theorem minor_mxSource (order : Order) (activationOrgId : Nat) :
    (mxSource H order activationOrgId).run.Within (Minor orderId order.contractId) :=
  within_bind (minor_flowEnvironment order activationOrgId) fun _ =>
    within_bind (minor_statement rfl) fun _ => within_bind within_refuseIf fun _ =>
      within_bind within_checked fun _ => within_bind within_refuseIf fun _ => trivial

theorem minor_registrationFor (order : Order) (effectiveOrgId : Option Nat) :
    (registrationFor H order effectiveOrgId).run.Within (Minor orderId order.contractId) := by
  unfold registrationFor
  split
  · refine within_bind (minor_statement rfl) fun _ => within_bind within_orThrow fun found => ?_
    cases found.locale with
    | mx => exact minor_mxSource H order _
    | global => trivial
  · trivial

theorem minor_dispatch (order : Order) (orgId : Option Nat) (clientId : Nat)
    (contractId : Option Nat) :
    (dispatch order orgId clientId contractId).run.Within (Minor order.id contractId) := by
  unfold dispatch
  split
  · refine within_bind (minor_statement rfl) fun existing => ?_
    cases existing with
    | true => trivial
    | false =>
      refine within_bind (minor_statement (decide_eq_true ⟨rfl, rfl⟩)) fun _ => ?_
      exact within_bind within_proceeds fun _ => trivial
  · trivial

theorem minor_insertDocuments {documents : List Document}
    (h : ∀ row ∈ documents, row.serviceOrderId = some orderId ∧ row.contractId = contractId) :
    (insertDocuments documents).run.Within (Minor orderId contractId) := by
  induction documents with
  | nil => trivial
  | cons row rows ih =>
    refine within_bind (minor_statement (decide_eq_true (h row List.mem_cons_self))) fun _ => ?_
    exact ih fun other hother => h other (List.mem_cons_of_mem row hother)

theorem minor_generateForOrder (orgId clientId contractId : Option Nat) (orderId : Nat)
    (workOrderId : Option Nat) :
    (generateForOrder orgId clientId contractId orderId workOrderId).run.Within
      (Minor orderId contractId) := by
  cases orgId with
  | none => trivial
  | some orgId =>
    refine within_bind (within_asked _) fun _ => within_bind within_orThrow fun rendered => ?_
    refine minor_insertDocuments fun row hrow => ?_
    obtain ⟨rendered, -, rfl⟩ := List.mem_map.mp hrow
    exact ⟨rfl, rfl⟩

theorem minor_handOver (order : Order) (orgId : Option Nat) (clientId : Nat)
    (contractId workOrderId : Option Nat) :
    (handOver order orgId clientId contractId workOrderId).run.Within
      (Minor order.id contractId) := by
  unfold handOver
  split_ifs
  · exact minor_generateForOrder _ _ _ _ _
  · trivial

theorem pooled_assertInvoice (options : CompleteOptions) (preOrder : Order) :
    (assertInvoice options preOrder).run.Within Pooled := by
  unfold assertInvoice
  split
  · trivial
  · exact within_bind within_refuseIf fun _ => within_bind within_orThrow fun _ =>
      within_bind (pooled_select _) fun _ => within_bind within_orThrow fun _ =>
        within_bind within_orThrow fun _ => within_bind (within_proceedsIf _) fun _ => trivial

theorem minor_activationLocale (organizationId : Option Nat) :
    (activationLocale true .conn organizationId).run.Within (Minor orderId contractId) := by
  cases organizationId with
  | none => trivial
  | some id => exact within_bind (minor_statement rfl) fun _ => trivial

theorem minor_assertSigned (order : Order) (linkedId : Nat) (contract : Contract)
    (locale : Locale) (activationOrgId : Option Nat) :
    (assertSigned H order linkedId contract locale activationOrgId).run.Within
      (Minor orderId contractId) := by
  unfold assertSigned
  split
  · exact within_bind (minor_statement rfl) fun _ => within_bind within_refuseIf fun _ =>
      within_bind within_checked fun _ => within_bind within_refuseIf fun _ =>
        within_bind within_refuseIf fun _ => within_bind (minor_statement rfl) fun _ =>
          within_refuseIf
  · exact within_bind (minor_statement rfl) fun _ => within_refuseIf

theorem minor_assertSandboxContractCanResume (contract : Contract) (locale : Locale) :
    (assertSandboxContractCanResume contract locale).run.Within (Minor orderId contractId) := by
  unfold assertSandboxContractCanResume
  split_ifs
  · trivial
  · exact within_refuseIf
  · refine within_bind ?_ fun owner => ?_
    · unfold owningOrganization
      split
      · trivial
      · exact minor_statement rfl
    · cases owner with
      | none => exact within_refuseIf
      | some orgId =>
        exact within_bind (minor_statement rfl) fun _ => within_bind within_orThrow fun _ =>
          within_checked

theorem minor_enableAccounts (linkedId : Nat) (organizationId : Option Nat) :
    (enableAccounts linkedId organizationId).run.Within (Minor orderId contractId) := by
  refine within_bind (minor_statement rfl) fun found => ?_
  rcases found with _ | ⟨contract, accounts⟩
  · trivial
  · dsimp only
    split_ifs
    · trivial
    · exact within_bind within_proceeds fun _ => within_bind within_checked fun _ =>
        within_proceeds

theorem minor_goLive {linkedId : Nat} (h : contractId = some linkedId)
    (activationOrgId : Option Nat) :
    (goLive linkedId activationOrgId).run.Within (Minor orderId contractId) :=
  within_bind (minor_statement (decide_eq_true h)) fun _ => within_bind within_checked fun _ =>
    within_bind (minor_statement rfl) fun _ => minor_enableAccounts linkedId activationOrgId

theorem minor_activationGate (order : Order) (options : CompleteOptions) :
    (activationGate H order options).run.Within (Minor orderId order.contractId) := by
  refine within_bind within_refuseIf fun _ => ?_
  cases hlinked : order.contractId with
  | none => trivial
  | some linkedId =>
    rw [orThrow_bind]
    exact within_bind (minor_statement (decide_eq_true rfl)) fun _ =>
      within_bind within_orThrow fun _ => within_bind within_checked fun _ =>
        within_bind (minor_statement rfl) fun _ => within_bind within_orThrow fun _ =>
          within_bind within_checked fun _ => within_bind (minor_statement rfl) fun _ =>
            within_bind within_refuseIf fun _ => within_bind (minor_activationLocale _) fun _ =>
              within_bind (minor_assertSigned H order linkedId _ _ _) fun _ =>
                within_bind (minor_assertSandboxContractCanResume _ _) fun _ =>
                  minor_goLive rfl _

theorem minor_activationIf (order : Order) (options : CompleteOptions) :
    (activationIf H order options).run.Within (Minor orderId order.contractId) := by
  unfold activationIf
  split_ifs
  · exact minor_activationGate H order options
  · trivial

theorem minor_cancelPending {linkedId : Nat} (h : contractId = some linkedId)
    (contract : Contract) :
    (cancelPending linkedId contract).run.Within (Minor orderId contractId) := by
  refine within_bind within_proceeds fun _ => within_bind ?_ fun marked => ?_
  · unfold needsExternalCleanup
    split_ifs
    · exact within_bind (within_asked _) fun _ => within_orThrow
    · trivial
  · exact within_bind (minor_statement (decide_eq_true h)) fun _ =>
      within_bind (minor_statement rfl) fun _ => within_proceeds

theorem minor_cancelLinked (order : Order) (options : CancelOptions) :
    (cancelLinked order options).run.Within (Minor orderId order.contractId) := by
  unfold cancelLinked
  split
  · trivial
  · rename_i linkedId hlinked
    refine within_bind (minor_statement (decide_eq_true hlinked)) fun found => ?_
    split
    · trivial
    · exact within_bind (minor_cancelPending hlinked _) fun _ => trivial

section Follows

variable {Know : Type} {D : Discipline Know Stmt Stmt.Res Query Query.Answer} {know idle : Know}
  {failed : Refusal → Know → Prop}

/-- Answers from outside teach nothing. -/
def Silent (D : Discipline Know Stmt Stmt.Res Query Query.Answer) : Prop :=
  ∀ know query, D.asked know query = some fun _ => know

theorem follows_asked (hsilent : Silent D) (query : Query) :
    (asked query).run.Follows D know (Either (fun _ know' => know' = know) failed) :=
  follows_lift ⟨_, hsilent know query, fun _ => rfl⟩

theorem follows_statement (hsilent : Silent D) {via : Via} {op : Stmt} {learn : op.Res → Know}
    (hsent : D.sent know via op = some learn) (hfailed : ∀ error, failed error know)
    {post : op.Res → Know → Prop} (hpost : ∀ reply, post reply (learn reply)) :
    (statement via op).run.Follows D know (Either post failed) := by
  refine follows_bind (follows_asked hsilent _) fun raised know' hknow => ?_
  subst hknow
  have hraised : (refuseIf (raised = true) .raised : Body Unit).run.Follows D know'
      (Either (fun _ know => know = know') failed) :=
    follows_refuseIf (fun _ => hfailed _) fun _ => rfl
  refine follows_bind hraised fun _ know hknow => ?_
  subst hknow
  exact follows_lift ⟨learn, hsent, hpost⟩

theorem follows_within (hsilent : Silent D) {allowed : Via → Stmt → Prop} {p : Body A}
    (hp : p.run.Within allowed)
    (hsent : ∀ via op, allowed via op → D.sent know via op = some fun _ => know)
    (hfailed : ∀ error, failed error know) :
    p.run.Follows D know (Either (fun _ know' => know' = know) failed) := by
  refine (Prog.Follows.of_within hsent (hsilent know) hp).mono fun returned know' hknow => ?_
  subst hknow
  cases returned with
  | ok value => exact rfl
  | error error => exact hfailed error

theorem follows_bracket (hsilent : Silent D) (call : Bracket)
    (hfailed : ∀ error, failed error know) :
    (bracket call).run.Follows D know (Either (fun _ know' => know' = know) failed) :=
  follows_bind (follows_asked hsilent _) fun _ _ hknow =>
    follows_refuseIf (fun _ => hknow ▸ hfailed _) fun _ => hknow

theorem follows_inTransaction (hsilent : Silent D) {begun : Know}
    (hstart : D.started idle = some begun)
    (hrollback : ∀ know, D.rolledBack know = some idle) {body : Body A} {reload : Body B}
    {post : A → Know → Prop} (hreload : reload.run.Within Pooled)
    (hpool : ∀ via op, Pooled via op → D.sent idle via op = some fun _ => idle)
    (hbody : body.run.Follows D begun (Either post fun _ _ => True))
    (hcommit : ∀ value know, post value know → D.committed know = some idle) :
    (inTransaction body reload).run.Follows D idle
      (Either (fun result know => know = idle ∧ ∃ know, post result.1 know)
        fun _ know => know = idle) := by
  refine follows_bind (follows_bracket hsilent _ fun _ => rfl) fun _ know hknow => ?_
  rw [hknow]
  have hcommitting : (committing body reload).run.Follows D idle
      (Either (fun result know => know = idle ∧ ∃ know, post result.1 know)
        fun _ _ => True) := by
    refine follows_bind (follows_bracket hsilent _ fun _ => trivial) fun _ know hknow => ?_
    rw [hknow]
    have hbegin : (lift Prog.begin : Body Unit).run.Follows D idle
        (Either (fun _ know => know = begun) fun _ _ => True) := ⟨begun, hstart, rfl⟩
    refine follows_bind hbegin fun _ know hknow => ?_
    rw [hknow]
    refine follows_bind hbody fun value know hvalue => ?_
    refine follows_bind (follows_bracket hsilent _ fun _ => trivial) fun _ know' hknow => ?_
    rw [hknow]
    have hcommitted : (lift Prog.commitNow : Body Unit).run.Follows D know
        (Either (fun _ know => know = idle) fun _ _ => True) :=
      ⟨idle, hcommit value know hvalue, rfl⟩
    refine follows_bind hcommitted fun _ know hknow => ?_
    rw [hknow]
    refine follows_bind (follows_within hsilent hreload hpool fun _ => trivial)
      fun read know hknow => ?_
    exact ⟨hknow, _, hvalue⟩
  refine follows_bind (follows_attempted hcommitting) fun tried know htried => ?_
  cases tried with
  | ok result => exact htried
  | error error =>
    refine follows_bind (follows_asked hsilent _) fun failed know _ => ?_
    have hrolled : (lift Prog.rollbackNow : Body Unit).run.Follows D know
        (Either (fun _ know => know = idle) fun _ know => know = idle) :=
      ⟨idle, hrollback know, rfl⟩
    exact follows_bind hrolled fun _ know hknow => hknow

end Follows

end FireIsp.Lifecycle
