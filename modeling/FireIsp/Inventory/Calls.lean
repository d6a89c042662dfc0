import FireIsp.Inventory.Serials

/-!
# What the calls touch

Only the calls that handle units change one or move its stock, only a purchase order that is received
and a unit that is registered bring new stock, and only the former changes lines.
-/

namespace FireIsp.Inventory

open Txn Txn.Throwing
open Txn.Client (Inside Between Indifferent Keeps within_asked within_statement)

/-- The statement changes no unit, and moves no stock for one. -/
def Stmt.SparesUnits : Stmt → Prop
  | .updateUnit .. => False
  | .addStock _ _ reason => ∀ id, reason ≠ .unit id
  | .insertStock _ _ _ reason => ∀ id, reason ≠ .unit id
  | _ => True

/-- The statement brings no new stock, and registers no unit of it. -/
def Stmt.SparesItems : Stmt → Prop
  | .insertUnit _ _ _ origin => origin = .catchUp
  | .addStock _ _ reason => reason ≠ .registered ∧ ∀ id, reason ≠ .line id
  | .insertStock _ _ quantity reason => quantity = 0 ∧ ∀ id, reason ≠ .line id
  | _ => True

/-- The statement changes no line, and neither stock nor units for one. -/
def Stmt.SparesLines : Stmt → Prop
  | .insertUnit _ _ _ origin => ∀ id, origin ≠ .line id
  | .addStock _ _ reason => ∀ id, reason ≠ .line id
  | .insertStock _ _ _ reason => ∀ id, reason ≠ .line id
  | .setReceived .. => False
  | _ => True

/-- What a unit is installed, taken off, picked up or swapped with, and what is sold. -/
def Stmt.Handles (op : Stmt) : Prop := op.SparesItems ∧ op.SparesLines

variable {A : Type} {allowed : Stmt → Prop}

theorem inside_statement {op : Stmt} (h : allowed op) :
    (statement .conn op).run.Within (Inside allowed) :=
  within_statement ⟨rfl, h⟩

theorem within_proceeds {allowed : Via → Stmt → Prop} : proceeds.run.Within allowed :=
  within_bind (within_asked _) fun _ => within_refuseIf

theorem inside_lookedUp (query : Query) (h : allowed .elsewhere) :
    (lookedUp query).run.Within (Inside allowed) :=
  within_bind (inside_statement h) fun _ => within_asked query

section Shared

variable (hread : ∀ op, op.SparesUnits → op.Handles → allowed op)

include hread

theorem inside_loadItem (itemId orgId : Nat) :
    (loadItem itemId orgId).run.Within (Inside allowed) :=
  within_bind (inside_statement (hread _ trivial ⟨trivial, trivial⟩)) fun _ => within_orThrow

theorem inside_assertSerialNotTaken (serialNumber : String) (orgId : Nat) :
    (assertSerialNotTaken serialNumber orgId).run.Within (Inside allowed) :=
  within_bind (inside_statement (hread _ trivial ⟨trivial, trivial⟩)) fun _ => within_refuseIf

theorem inside_assertUntracked (itemId orgId : Nat) :
    (assertUntracked itemId orgId).run.Within (Inside allowed) :=
  within_bind (within_bind (inside_statement (hread _ trivial ⟨trivial, trivial⟩)) fun _ =>
    within_bind (inside_statement (hread _ trivial ⟨trivial, trivial⟩)) fun _ => trivial)
      fun _ => within_refuseIf

theorem inside_resolveOrCreateStockRow (orgId itemId : Nat) :
    (resolveOrCreateStockRow orgId itemId).run.Within (Inside allowed) := by
  refine within_bind (inside_statement (hread _ trivial ⟨trivial, trivial⟩)) fun found => ?_
  cases found with
  | some stockId => trivial
  | none =>
    refine within_bind (inside_lookedUp _ (hread _ trivial ⟨trivial, trivial⟩)) fun warehouse =>
      within_bind within_orThrow fun warehouseId => inside_statement (hread _ ?_ ?_)
    · exact fun _ => nofun
    · exact ⟨⟨rfl, fun _ => nofun⟩, fun _ => nofun⟩

theorem inside_registerCatchUp (options : RegisterOptions) :
    (registerCatchUp options).run.Within (Inside allowed) :=
  within_bind (inside_assertUntracked hread _ _) fun _ =>
    inside_statement (hread _ trivial ⟨rfl, fun _ => nofun⟩)

theorem inside_assertServiceOrder (options : InstallOptions) :
    (assertServiceOrder options).run.Within (Inside allowed) := by
  unfold assertServiceOrder
  split
  · trivial
  · exact within_bind (inside_lookedUp _ (hread _ trivial ⟨trivial, trivial⟩)) fun _ =>
      within_refuseIf

end Shared

theorem inside_moveStock (hread : ∀ op, op.SparesUnits → op.Handles → allowed op)
    (orgId itemId : Nat) (quantity : Int) {reason : Reason}
    (hadd : ∀ stockId, allowed (.addStock stockId quantity reason)) :
    (moveStock orgId itemId quantity reason).run.Within (Inside allowed) :=
  within_bind (inside_resolveOrCreateStockRow hread orgId itemId) fun stockId =>
    within_bind (inside_statement (hadd stockId)) fun _ => within_proceeds

theorem inside_saleLocked (hread : ∀ op, op.SparesUnits → op.Handles → allowed op) (orgId : Nat)
    (lines : List (Nat × Int)) : (saleLocked orgId lines).run.Within (Inside allowed) := by
  have hlines : (sellLines orgId lines).run.Within (Inside allowed) := by
    induction lines with
    | nil => trivial
    | cons line lines ih =>
      refine within_bind within_proceeds fun _ => within_bind (inside_moveStock hread _ _ _
        fun stockId => hread _ ?_ ⟨?_, ?_⟩) fun _ => ih
      · exact fun _ => nofun
      · exact ⟨nofun, fun _ => nofun⟩
      · exact fun _ => nofun
  exact within_bind (inside_statement (hread _ trivial ⟨trivial, trivial⟩)) fun _ =>
    within_bind hlines fun _ => within_proceeds

theorem inside_registerLocked (hread : ∀ op, op.SparesUnits → op.SparesLines → allowed op)
    (options : RegisterOptions) : (registerLocked options).run.Within (Inside allowed) := by
  have hread' : ∀ op, op.SparesUnits → op.Handles → allowed op :=
    fun op hunits hhandles => hread op hunits hhandles.2
  have hnew : (registerNew options).run.Within (Inside allowed) := by
    have hwarehouse : (assertWarehouse options).run.Within (Inside allowed) := by
      unfold assertWarehouse
      split
      · trivial
      · exact within_bind (inside_lookedUp _ (hread _ trivial trivial)) fun _ => within_refuseIf
    have hstock : (stockForNew options).run.Within (Inside allowed) := by
      unfold stockForNew
      split
      · refine within_bind (inside_statement (hread _ trivial trivial)) fun found => ?_
        cases found with
        | some stockId => trivial
        | none => exact inside_statement (hread _ (fun _ => nofun) fun _ => nofun)
      · exact inside_resolveOrCreateStockRow hread' _ _
    exact within_bind hwarehouse fun _ =>
      within_bind (inside_statement (hread _ trivial fun _ => nofun)) fun _ =>
        within_bind hstock fun _ =>
          within_bind (inside_statement (hread _ (fun _ => nofun) fun _ => nofun)) fun _ =>
            within_bind within_proceeds fun _ => trivial
  refine within_bind (inside_loadItem hread' _ _) fun _ =>
    within_bind (inside_assertSerialNotTaken hread' _ _) fun _ => ?_
  split
  · exact hnew
  · exact inside_registerCatchUp hread' options

theorem inside_receiveLocked (hread : ∀ op, op.SparesUnits → allowed op) (order : PurchaseOrder)
    (orgId : Nat) (request : ReceiveRequest) :
    (receiveLocked order orgId request).run.Within (Inside allowed) := by
  have hknown : ∀ lines known,
      (serialRequiredByItem lines known).run.Within (Inside allowed) := by
    intro lines
    induction lines with
    | nil => exact fun known => trivial
    | cons line lines ih =>
      intro known
      unfold serialRequiredByItem
      split
      · exact ih known
      · split_ifs
        · exact ih known
        · exact within_bind (inside_statement (hread _ trivial)) fun _ => ih _
  have hunits : ∀ itemId origin serials,
      (createTrackedUnits orgId itemId origin serials).run.Within (Inside allowed) := by
    intro itemId origin serials
    induction serials with
    | nil => trivial
    | cons serialNumber serials ih =>
      exact within_bind within_refuseIf fun _ => within_bind
        (inside_assertSerialNotTaken (fun op hunits _ => hread op hunits) _ _) fun _ =>
          within_bind (inside_statement (hread _ trivial)) fun _ => within_bind ih fun _ => trivial
  have hitem : ∀ known line,
      (receiveItem order orgId request known line).run.Within (Inside allowed) := by
    intro known line
    unfold receiveItem
    split
    · refine within_bind (within_bind (inside_statement (hread _ trivial)) fun found => ?_)
        fun _ => within_bind within_proceeds fun _ => ?_
      · cases found with
        | some stockId => exact inside_statement (hread _ fun _ => nofun)
        | none => exact within_bind (inside_statement (hread _ fun _ => nofun)) fun _ => trivial
      · unfold mintUnits
        split_ifs
        · exact within_bind (hunits _ _ _) fun _ => trivial
        · trivial
    · trivial
  have hlines : ∀ known lines,
      (receiveLines order orgId request known lines).run.Within (Inside allowed) := by
    intro known lines
    induction lines with
    | nil => trivial
    | cons line lines ih =>
      refine within_bind ?_ fun _ => ih
      unfold receiveLine
      split_ifs
      · exact within_bind (hitem known line) fun _ => inside_statement (hread _ trivial)
      · trivial
  exact within_bind (inside_statement (hread _ trivial)) fun lines =>
    within_bind (hknown _ _) fun known => within_bind within_checked fun _ =>
      within_bind (hlines _ _) fun _ => inside_statement (hread _ trivial)

theorem within_transitionLifecycleState {allowed : Via → Stmt → Prop} {via : Via}
    {cpeDeviceId : Nat} {toState : LifecycleState}
    (hread : allowed via (.unit false cpeDeviceId .any))
    (hwrite : allowed via (.updateUnit cpeDeviceId (.state toState))) :
    (transitionLifecycleState via cpeDeviceId toState).run.Within allowed :=
  within_bind (within_statement hread) fun _ => within_bind within_orThrow fun _ =>
    within_bind within_checked fun _ => within_bind (within_statement hwrite) fun _ =>
      within_bind within_proceeds fun _ => within_statement hread

section Handled

variable (hhandles : ∀ op, op.Handles → allowed op)

include hhandles

end Handled

/-- A query outside of transactions. -/
def Stmt.Reads : Stmt → Prop
  | .unit false _ _ => True
  | .order .. => True
  | .outstanding _ => True
  | _ => False

theorem between_voidSaleOf (orgId : Nat) (unit : CpeDevice) :
    (voidSaleOf orgId unit).run.Within (Between allowed) := by
  unfold voidSaleOf
  split
  · refine within_bind (within_asked _) fun found => ?_
    cases found with
    | none => trivial
    | some invoice =>
      refine within_bind within_refuseIf fun _ => ?_
      split_ifs
      · trivial
      · exact within_bind (within_asked _) fun _ => within_refuseIf
  · trivial

theorem between_assertContractLive (orgId : Nat) (unit : CpeDevice) :
    (assertContractLive orgId unit).run.Within (Between allowed) := by
  unfold assertContractLive
  split
  · trivial
  · exact within_bind (within_asked _) fun _ => within_refuseIf

section Between

variable (hread : ∀ op, op.Reads → allowed op)

include hread

theorem between_read (op : Stmt) (h : op.Reads) :
    (statement .pool op).run.Within (Between allowed) :=
  within_statement ⟨rfl, hread op h⟩

variable (hassign : ∀ id, allowed (.updateUnit id (.state .assigned)))
  (hlink : ∀ id subscriberId, allowed (.updateUnit id (.subscriber subscriberId)))

theorem between_transitionLifecycleState (cpeDeviceId : Nat) {toState : LifecycleState}
    (hstate : allowed (.updateUnit cpeDeviceId (.state toState))) :
    (transitionLifecycleState .pool cpeDeviceId toState).run.Within (Between allowed) :=
  within_transitionLifecycleState ⟨rfl, hread _ trivial⟩ ⟨rfl, hstate⟩

include hassign

theorem between_assignInStock (cpeDeviceId : Nat) :
    (assignInStock cpeDeviceId).run.Within (Between allowed) := by
  refine within_bind (between_read hread (.unit false _ _) trivial) fun _ => ?_
  split_ifs
  · exact within_bind (between_transitionLifecycleState hread _ (hassign _)) fun _ => trivial
  · trivial

include hlink

theorem between_linkSubscriber (cpeDeviceId : Nat) (subscriberId : Option Nat) :
    (linkSubscriber cpeDeviceId subscriberId).run.Within (Between allowed) := by
  refine within_bind (within_statement ⟨rfl, hlink _ _⟩) fun _ => within_bind ?_ fun _ =>
    between_read hread (.unit false _ _) trivial
  unfold assignLinked
  split_ifs
  · exact between_assignInStock hread hassign _
  · trivial

theorem between_autoLinked (cpeDeviceId subscriberId : Nat) :
    (autoLinked cpeDeviceId subscriberId).run.Within (Between allowed) :=
  within_bind (within_statement ⟨rfl, hlink _ _⟩) fun _ =>
    within_bind (within_attempted (between_assignInStock hread hassign _)) fun _ => trivial

theorem between_tryAutoLinkSubscriber (device : CpeDevice) :
    (tryAutoLinkSubscriber device).run.Within (Between allowed) := by
  have hlinked : ∀ subscriberId,
      (autoLinked device.id subscriberId).run.Within (Between allowed) :=
    between_autoLinked hread hassign hlink device.id
  unfold tryAutoLinkSubscriber
  split_ifs
  · trivial
  · refine within_bind ?_ fun linked => ?_
    · unfold ownStrategy
      split
      · trivial
      · refine within_bind (within_attempted (within_bind (within_asked _) fun _ =>
          within_bind within_orThrow fun clientId => ?_)) fun _ => trivial
        cases clientId with
        | none => trivial
        | some subscriberId => exact within_bind (hlinked subscriberId) fun _ => trivial
    · split_ifs
      · trivial
      · refine within_bind (within_attempted (within_bind (within_asked _) fun _ =>
          within_bind within_orThrow fun clientId => ?_)) fun _ => trivial
        cases clientId with
        | none => trivial
        | some subscriberId => exact hlinked subscriberId

end Between

section Indifferent

variable {Know : Type}
  {D : Discipline Know Stmt Stmt.Res (Outside Stmt Query) (Outside.Answer Query.Answer)}
  {idle opened : Know → Prop} {between inside : Stmt → Prop} {know : Know}
  (h : Indifferent D idle opened between inside) (hread : ∀ op, op.Reads → between op)
  (hknow : idle know)

include h hread hknow

theorem keeps_receivePo (hinside : ∀ op, op.SparesUnits → inside op) (orgId poId : Nat)
    (request : ReceiveRequest) :
    Keeps D know (receivePo orgId poId request) (fun _ => idle) idle := by
  refine (h.keeps_between (between_read hread (.order _ _) trivial) hknow).bind fun found know hknow => ?_
  refine (h.keeps_between within_orThrow hknow).bind fun order know hknow => ?_
  refine (h.keeps_between within_refuseIf hknow).bind fun _ know hknow => ?_
  refine (h.keeps_between within_refuseIf hknow).bind fun _ know hknow => ?_
  refine (h.keeps_between within_checked hknow).bind fun _ know hknow => ?_
  refine (h.keeps_inTransaction (inside_receiveLocked hinside order orgId request) hknow).bind
    fun _ know hknow => ?_
  exact h.keeps_between (between_read hread (.order _ _) trivial) hknow

theorem keeps_registerSerial (hinside : ∀ op, op.SparesUnits → op.SparesLines → inside op)
    (options : RegisterOptions) :
    Keeps D know (registerSerial options) (fun _ => idle) idle := by
  refine (h.keeps_between within_refuseIf hknow).bind fun _ know hknow => ?_
  refine (h.keeps_inTransaction (inside_registerLocked hinside options) hknow).bind
    fun deviceId know hknow => ?_
  exact h.keeps_between (between_read hread (.unit false _ _) trivial) hknow

end Indifferent

end FireIsp.Inventory
