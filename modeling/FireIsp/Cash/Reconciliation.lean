import FireIsp.Base.Run
import FireIsp.Base.Table

/-!
# Cash reconciliation

`openSession` and `closeSession` of `cashReconciliationService`, with the recording and the deletion
of payments.  Amounts are in cents and times in seconds.
-/

namespace FireIsp.Cash

inductive PaymentMethod
  | cash
  | check
  | card
  | transfer
  | online
  | creditCard
  | debitCard
  | bankTransfer
  | oxxoPay
  | spei
  | codi
  | convenienceStore
  | digitalWallet
  | other
  deriving DecidableEq

/-- Row of `payments`; the last two fields say what happened and are no columns. -/
structure Payment where
  id : Nat
  organizationId : Option Nat
  amount : Int
  paymentMethod : PaymentMethod
  paymentDate : Nat
  recordedBy : Option Nat
  deletedAt : Option Nat
  recorder : Nat
  during : Option Nat
  deriving DecidableEq

/-- `cash_reconciliation_sessions.status`. -/
inductive SessionStatus
  | opened
  | closed
  | approved
  | disputed
  deriving DecidableEq

/-- Row of `cash_reconciliation_sessions`; the last two fields are no columns. -/
structure CashSession where
  id : Nat
  organizationId : Nat
  agentUserId : Nat
  openedAt : Nat
  closedAt : Option Nat
  expectedTotal : Option Int
  countedTotal : Option Int
  variance : Option Int
  status : SessionStatus
  notes : Option String
  deletedAt : Option Nat
  counted : List Nat
  /-- Cash payments the agent had recorded since the opening that were not deleted, at the closing. -/
  due : List Payment
  deriving DecidableEq

/-- The tables, and the clock. -/
structure State where
  sessions : List CashSession
  payments : List Payment
  /-- `NOW()` of the last call. -/
  clock : Nat

def Payment.live (p : Payment) : Bool := p.deletedAt.isNone

/-- The first second of a day: a `DATE` compared with a `DATETIME`. -/
def midnight (day : Nat) : Nat := day * 86400

/-- `CURRENT_DATE` -/
def today (now : Nat) : Nat := now / 86400

def CashSession.isOpenOf (organizationId agentUserId : Nat) (session : CashSession) : Bool :=
  decide (session.organizationId = organizationId) && decide (session.agentUserId = agentUserId) &&
    decide (session.status = .opened) && session.deletedAt.isNone

def State.openSessionOf (s : State) (organizationId agentUserId : Nat) : Option CashSession :=
  s.sessions.find? (CashSession.isOpenOf organizationId agentUserId)

/-- The errors of a call. -/
inductive Failure
  | notFound (entity : String)
  | validation (message : String)

/-- The row of a session that is opened. -/
def newSession (now organizationId agentUserId : Nat) (notes : Option String) (s : State) :
    CashSession where
  id := s.sessions.length
  organizationId := organizationId
  agentUserId := agentUserId
  openedAt := now
  closedAt := none
  expectedTotal := none
  countedTotal := none
  variance := none
  status := .opened
  notes := notes.filter fun text => text ≠ ""
  deletedAt := none
  counted := []
  due := []

def openSession (now organizationId agentUserId : Nat) (notes : Option String) (s : State) :
    Except Failure State :=
  if (s.openSessionOf organizationId agentUserId).isSome then
    .error (.validation "Agent already has an open reconciliation session")
  else
    .ok { s with
      sessions := s.sessions ++ [newSession now organizationId agentUserId notes s] }

/-- The payments of the sum: `payment_date BETWEEN opened_at AND NOW()`. -/
def countedPayments (now : Nat) (session : CashSession) (s : State) : List Payment :=
  s.payments.filter fun p =>
    decide (p.organizationId = some session.organizationId) &&
      decide (p.paymentMethod = .cash) && decide (p.recordedBy = some session.agentUserId) &&
      decide (session.openedAt ≤ midnight p.paymentDate ∧ midnight p.paymentDate ≤ now)

/-- The cash payments the agent recorded since the session was opened that are not deleted. -/
def duePayments (session : CashSession) (s : State) : List Payment :=
  s.payments.filter fun p =>
    decide (p.organizationId = some session.organizationId) &&
      decide (p.paymentMethod = .cash) && decide (p.recorder = session.agentUserId) &&
      decide (p.during = some session.id) && p.live

def total (payments : List Payment) : Int := (payments.map Payment.amount).sum

/-- A session with its sums. -/
def CashSession.close (now : Nat) (countedTotal : Int) (s : State) (session : CashSession) :
    CashSession :=
  let expectedTotal := total (countedPayments now session s)
  { session with
    expectedTotal := some expectedTotal
    countedTotal := some countedTotal
    variance := some (countedTotal - expectedTotal)
    status := .closed
    closedAt := some now
    counted := (countedPayments now session s).map Payment.id
    due := duePayments session s }

def closeSession (now sessionId organizationId : Nat) (countedTotal : Int) (s : State) :
    Except Failure State :=
  match s.sessions.find? fun session => decide (session.id = sessionId) &&
      decide (session.organizationId = organizationId) && session.deletedAt.isNone with
  | none => .error (.notFound "cash_reconciliation_sessions")
  | some session =>
    if session.status ≠ .opened then .error (.validation "Session is not open")
    else
      .ok { s with
        sessions := Table.modify CashSession.id sessionId
          (CashSession.close now countedTotal s) s.sessions }

/-- The values of an `INSERT INTO payments`. -/
structure NewPayment where
  organizationId : Option Nat
  amount : Int
  paymentMethod : PaymentMethod
  paymentDate : Nat
  /-- `recorded_by` is the user who records it, and not `NULL`. -/
  attributed : Bool

/-- `POST /payments`: `recorded_by` is not among the columns `Payment` fills. -/
def postPayment (now organizationId : Nat) (amount : Int) (method : Option PaymentMethod)
    (date : Option Nat) : NewPayment where
  organizationId := some organizationId
  amount := amount
  paymentMethod := method.getD .cash
  paymentDate := date.getD (today now)
  attributed := false

/-- The payment of `payGroup`. -/
def groupPayment (now organizationId : Nat) (amount : Int) (method : Option PaymentMethod) :
    NewPayment where
  organizationId := some organizationId
  amount := amount
  paymentMethod := method.getD .other
  paymentDate := today now
  attributed := false

def importedPayment (amount : Int) (method : Option PaymentMethod) (date : Nat) : NewPayment where
  organizationId := none
  amount := amount
  paymentMethod := method.getD .cash
  paymentDate := date
  attributed := false

def newRow (userId : Nat) (payment : NewPayment) (s : State) : Payment where
  id := s.payments.length
  organizationId := payment.organizationId
  amount := payment.amount
  paymentMethod := payment.paymentMethod
  paymentDate := payment.paymentDate
  recordedBy := if payment.attributed then some userId else none
  deletedAt := none
  recorder := userId
  during := (payment.organizationId.bind fun organizationId =>
    s.openSessionOf organizationId userId).map CashSession.id

/-- `INSERT INTO payments` by a user. -/
def insertPayment (userId : Nat) (payment : NewPayment) (s : State) : State :=
  { s with payments := s.payments ++ [newRow userId payment s] }

/-- `Payment.delete` -/
def deletePayment (now paymentId organizationId : Nat) (s : State) : Except Failure State :=
  if s.payments.any fun p => decide (p.id = paymentId) && p.live &&
      decide (p.organizationId = some organizationId) then
    .ok { s with
      payments := s.payments.map fun p =>
        if decide (p.id = paymentId) && p.live && decide (p.organizationId = some organizationId)
        then { p with deletedAt := some now } else p }
  else .error (.notFound "payments")

inductive Call
  | start (organizationId agentUserId : Nat) (notes : Option String)
  | record (userId : Nat) (payment : NewPayment)
  | delete (paymentId organizationId : Nat)
  | finish (sessionId organizationId : Nat) (countedTotal : Int)

/-- What a call does. -/
def Call.perform (now : Nat) : Call → State → Except Failure State
  | .start organizationId agentUserId notes, s => openSession now organizationId agentUserId notes s
  | .record userId payment, s => .ok (insertPayment userId payment s)
  | .delete paymentId organizationId, s => deletePayment now paymentId organizationId s
  | .finish sessionId organizationId countedTotal, s =>
    closeSession now sessionId organizationId countedTotal s

/-- The clock moves. -/
def State.tick (now : Nat) (s : State) : State := { s with clock := now }

/-- The state after a call at a time; one that throws has written nothing. -/
def step (s : State) (timed : Nat × Call) : State :=
  ((timed.2.perform timed.1 (s.tick timed.1)).toOption).getD (s.tick timed.1)

end FireIsp.Cash
