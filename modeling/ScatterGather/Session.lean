import ScatterGather.Error

/-!
# Session — what a connection remembers between statements

A `Session` knows its open transaction and whether its reads have to follow its writes to the
primary.  Transaction ids come from one counter that all sessions share.
-/

namespace ScatterGather

/-- The counter of transaction ids, a word of 64 bits. -/
structure TransactionIds where
  next : Nat
  deriving DecidableEq

/-- The counter before any transaction. -/
def TransactionIds.first : TransactionIds := ⟨1⟩

/-- The counter after its next id was given out; it starts over where 64 bits end. -/
def TransactionIds.advance (ids : TransactionIds) : TransactionIds := ⟨(ids.next + 1) % 2 ^ 64⟩

/-- The state of one connection. -/
structure Session where
  transaction : Option Nat
  /-- The primary has been used since the last transaction ended. -/
  primaryVisited : Bool
  /-- Every statement is sent to the primary. -/
  writeRouteOnly : Bool
  deriving DecidableEq

namespace Session

/-- A new connection. -/
def fresh : Session := ⟨none, false, false⟩

/-- Whether a transaction is open. -/
def inTransaction (s : Session) : Bool := s.transaction.isSome

/-- Opens a transaction under the next id; only one can be open. -/
def begin (s : Session) (ids : TransactionIds) : Except Error (Nat × Session × TransactionIds) :=
  match s.transaction with
  | some id => .error (.unsupported (.transactionOpen id))
  | none => .ok (ids.next, { s with transaction := some ids.next }, ids.advance)

/-- Ends the transaction, committed or rolled back, and forgets the visit to the primary. -/
def endTransaction (s : Session) : Session :=
  { s with transaction := none, primaryVisited := false }

/-- Ends the session: the transaction and every hint. -/
def close (s : Session) : Session := { s.endTransaction with writeRouteOnly := false }

/-- Remembers that the primary has been used. -/
def visitPrimary (s : Session) : Session := { s with primaryVisited := true }

/-- Sets whether every statement is sent to the primary. -/
def setWriteRouteOnly (s : Session) (only : Bool) : Session := { s with writeRouteOnly := only }

@[simp] theorem close_eq_fresh (s : Session) : s.close = fresh := rfl

@[simp] theorem inTransaction_endTransaction (s : Session) :
    s.endTransaction.inTransaction = false := rfl

end Session

end ScatterGather
