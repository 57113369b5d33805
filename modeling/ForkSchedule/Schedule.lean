import ForkSchedule.Fork.Order
import ForkSchedule.Hash

/-!
# Fork schedules

A schedule says at which point each fork activates, together with the identity of the chain and two
settings that belong to single forks. `point` and `setPoint` give access to the points by fork, and
`active` answers whether a fork is active for a block.
-/

namespace ForkSchedule

/-- The settings that determine the rules of a chain. An absent height or timestamp means that the
fork never activates; a point of zero means that it is active from genesis. -/
structure Schedule where
  /-- Identifies the chain; used for replay protection. -/
  chainId : Option Nat := none
  homestead : Option Nat := none
  dao : Option Nat := none
  /-- Whether the node supports the DAO fork or opposes it. -/
  daoForkSupport : Bool := false
  eip150 : Option Nat := none
  /-- The hash of the block at the EIP150 fork, for clients that hold headers only. -/
  eip150Hash : Option Hash := none
  eip155 : Option Nat := none
  eip158 : Option Nat := none
  byzantium : Option Nat := none
  constantinople : Option Nat := none
  /-- Absent, it is the same as Constantinople. -/
  petersburg : Option Nat := none
  istanbul : Option Nat := none
  muirGlacier : Option Nat := none
  apricotPhase1 : Option Nat := none
  apricotPhase2 : Option Nat := none
  apricotPhase3 : Option Nat := none
  apricotPhase4 : Option Nat := none
  deriving DecidableEq

namespace Schedule

def point (schedule : Schedule) : Fork → Option Nat
  | .homestead => schedule.homestead
  | .dao => schedule.dao
  | .eip150 => schedule.eip150
  | .eip155 => schedule.eip155
  | .eip158 => schedule.eip158
  | .byzantium => schedule.byzantium
  | .constantinople => schedule.constantinople
  | .petersburg => schedule.petersburg
  | .istanbul => schedule.istanbul
  | .muirGlacier => schedule.muirGlacier
  | .apricotPhase1 => schedule.apricotPhase1
  | .apricotPhase2 => schedule.apricotPhase2
  | .apricotPhase3 => schedule.apricotPhase3
  | .apricotPhase4 => schedule.apricotPhase4

def setPoint (schedule : Schedule) (fork : Fork) (value : Option Nat) : Schedule :=
  match fork with
  | .homestead => { schedule with homestead := value }
  | .dao => { schedule with dao := value }
  | .eip150 => { schedule with eip150 := value }
  | .eip155 => { schedule with eip155 := value }
  | .eip158 => { schedule with eip158 := value }
  | .byzantium => { schedule with byzantium := value }
  | .constantinople => { schedule with constantinople := value }
  | .petersburg => { schedule with petersburg := value }
  | .istanbul => { schedule with istanbul := value }
  | .muirGlacier => { schedule with muirGlacier := value }
  | .apricotPhase1 => { schedule with apricotPhase1 := value }
  | .apricotPhase2 => { schedule with apricotPhase2 := value }
  | .apricotPhase3 => { schedule with apricotPhase3 := value }
  | .apricotPhase4 => { schedule with apricotPhase4 := value }

@[simp] theorem point_setPoint_self (schedule : Schedule) (fork : Fork) (value : Option Nat) :
    (schedule.setPoint fork value).point fork = value := by
  cases fork <;> rfl

theorem point_setPoint_of_ne (schedule : Schedule) {fork other : Fork} (hne : other ≠ fork)
    (value : Option Nat) : (schedule.setPoint fork value).point other = schedule.point other := by
  cases fork <;> cases other <;> first | exact absurd rfl hne | rfl

/-- Whether a fork's own point is reached by a block at `height` with `timestamp`; each fork looks
at its own axis only. -/
def pointReached (schedule : Schedule) (fork : Fork) (height timestamp : Nat) : Bool :=
  reached (schedule.point fork)
    (some (match fork.axis with | .height => height | .timestamp => timestamp))

/-- Whether a fork is active for a block at `height` with `timestamp`. Petersburg without a point
of its own comes with Constantinople. -/
def active (schedule : Schedule) (fork : Fork) (height timestamp : Nat) : Bool :=
  match fork with
  | .petersburg =>
    schedule.pointReached .petersburg height timestamp ||
      (schedule.petersburg.isNone && schedule.pointReached .constantinople height timestamp)
  | fork => schedule.pointReached fork height timestamp

def forkPoint (schedule : Schedule) (fork : Fork) : ForkPoint :=
  { name := fork.fieldName, axis := fork.axis, value := schedule.point fork,
    optional := fork.optional }

def heightForks (schedule : Schedule) : List ForkPoint := Fork.byHeight.map schedule.forkPoint

def timestampForks (schedule : Schedule) : List ForkPoint :=
  Fork.byTimestamp.map schedule.forkPoint

/-- No fork is skipped and each is scheduled in order. The axes are checked one after the other and
never against each other. -/
def checkOrder (schedule : Schedule) : Except OrderError Unit :=
  match checkHeightOrder schedule.heightForks with
  | .ok () => checkTimestampOrder schedule.timestampForks
  | .error offence => .error offence

/-- One line that shows every point of the schedule. -/
def summary (schedule : Schedule) : String :=
  "\x7bChainID: " ++ pointText schedule.chainId
    ++ " Homestead: " ++ pointText schedule.homestead
    ++ " DAO: " ++ pointText schedule.dao
    ++ " DAOSupport: " ++ (if schedule.daoForkSupport then "true" else "false")
    ++ " EIP150: " ++ pointText schedule.eip150
    ++ " EIP155: " ++ pointText schedule.eip155
    ++ " EIP158: " ++ pointText schedule.eip158
    ++ " Byzantium: " ++ pointText schedule.byzantium
    ++ " Constantinople: " ++ pointText schedule.constantinople
    ++ " Petersburg: " ++ pointText schedule.petersburg
    ++ " Istanbul: " ++ pointText schedule.istanbul
    ++ ", Muir Glacier: " ++ pointText schedule.muirGlacier
    ++ ", Apricot Phase 1: " ++ pointText schedule.apricotPhase1
    ++ ", Apricot Phase 2: " ++ pointText schedule.apricotPhase2
    ++ ", Apricot Phase 3: " ++ pointText schedule.apricotPhase3
    ++ ", Apricot Phase 4: " ++ pointText schedule.apricotPhase4
    ++ ", Engine: Dummy Consensus Engine\x7d"

end Schedule

end ForkSchedule
