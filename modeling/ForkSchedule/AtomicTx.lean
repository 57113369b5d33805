import ForkSchedule.Schedule.Rules

/-!
# Atomic transactions

Hooks for transactions that move funds between chains. On networks where such transactions are
switched off, every hook refuses.
-/

namespace ForkSchedule.AtomicTx

/-- The direction of an atomic transaction. -/
inductive Direction where
  /-- Funds come from another chain. -/
  | incoming
  /-- Funds go to another chain. -/
  | outgoing
  deriving DecidableEq, Repr

/-- The name of a direction in messages. -/
def Direction.name : Direction → String
  | incoming => "importTx"
  | outgoing => "exportTx"

/-- Why a hook refuses. -/
inductive Refusal where
  | wrongChainId
  /-- Transactions in this direction are switched off. -/
  | disabled (direction : Direction)
  | insufficientFunds
  deriving DecidableEq, Repr

/-- The wording of a refusal. -/
def Refusal.message : Refusal → String
  | wrongChainId => "tx has wrong chain ID"
  | disabled direction => direction.name ++ " transactions disabled"
  | insufficientFunds => "insufficient funds"

/-- The identifier of an asset. -/
abbrev AssetId := Hash

/-- What the node asks of an atomic transaction. Whatever depends on a fork is read from the rules
that are handed in. -/
structure Hooks where
  direction : Direction
  /-- Whether the transaction is well formed. -/
  verify : Rules → Except Refusal Unit
  gasUsed : Except Refusal Nat
  /-- The amount of an asset that is burned. -/
  burned : AssetId → Except Refusal Nat
  /-- Whether the transaction fits the state of the chain, given the base fee, if any. -/
  semanticVerify : Rules → Option Nat → Except Refusal Unit
  accept : Except Refusal Unit
  /-- Moves the funds. -/
  stateTransfer : Except Refusal Unit

/-- A transaction that is refused at every stage. -/
def disabled (direction : Direction) : Hooks where
  direction := direction
  verify := fun _ => .error .wrongChainId
  gasUsed := .error (.disabled direction)
  burned := fun _ => .error (.disabled direction)
  semanticVerify := fun _ _ => .error (.disabled direction)
  accept := .error (.disabled direction)
  stateTransfer := .error .insufficientFunds

end ForkSchedule.AtomicTx
