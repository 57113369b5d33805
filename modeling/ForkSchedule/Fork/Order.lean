import ForkSchedule.Fork.Point

/-!
# The order of forks

Forks run in one fixed order, so none may be scheduled before a fork that precedes it. A walk along
the points remembers the last point that holds back the next one and stops at the first offence.
Forks by height have to sit at genesis besides.
-/

namespace ForkSchedule

/-- Why a list of fork points is refused. -/
inductive OrderError where
  /-- A fork by height is scheduled somewhere other than genesis. -/
  | notAtGenesis (name : String) (value : Nat)
  /-- A fork is scheduled although a fork before it is not. -/
  | skipped (last cur : String) (curValue : Nat)
  /-- A fork is scheduled at a lower point than a fork before it. -/
  | outOfOrder (last : String) (lastValue : Nat) (cur : String) (curValue : Nat)
  deriving DecidableEq, Repr

def OrderError.message : OrderError → String
  | notAtGenesis name value =>
    "only forking by height at the genesis block is supported: " ++ name ++ " enabled at "
      ++ toString value
  | skipped last cur curValue =>
    "unsupported fork ordering: " ++ last ++ " not enabled, but " ++ cur ++ " enabled at "
      ++ toString curValue
  | outOfOrder last lastValue cur curValue =>
    "unsupported fork ordering: " ++ last ++ " enabled at " ++ toString lastValue ++ ", but "
      ++ cur ++ " enabled at " ++ toString curValue

namespace ForkPoint

/-- The offence of a point that is scheduled away from genesis. -/
def awayFromGenesis? (point : ForkPoint) : Option OrderError :=
  match point.value with
  | some value => if value = genesisHeight then none else some (.notAtGenesis point.name value)
  | none => none

/-- The offence of `cur` against the point that it has to follow. -/
def offence? (last cur : ForkPoint) : Option OrderError :=
  match last.value, cur.value with
  | none, some curValue => some (.skipped last.name cur.name curValue)
  | some lastValue, some curValue =>
    if curValue < lastValue then some (.outOfOrder last.name lastValue cur.name curValue) else none
  | _, none => none

end ForkPoint

/-- The first offence of the points that follow `last`. With `atGenesis` the place of a point is
looked at before its order. -/
def orderOffence? (atGenesis : Bool) (last : Option ForkPoint) :
    List ForkPoint → Option OrderError
  | [] => none
  | cur :: rest =>
    ((if atGenesis then cur.awayFromGenesis? else none).or (last.bind (·.offence? cur))).or
      (orderOffence? atGenesis (if cur.binding then some cur else last) rest)

/-- What a check without a result answers: the offence, or nothing. -/
def refuse : Option OrderError → Except OrderError Unit
  | some offence => .error offence
  | none => .ok ()

/-- Forks by height must sit at genesis and come in order. -/
def checkHeightOrder (points : List ForkPoint) : Except OrderError Unit :=
  refuse (orderOffence? true none points)

/-- Upgrades by timestamp must come in order. -/
def checkTimestampOrder (points : List ForkPoint) : Except OrderError Unit :=
  refuse (orderOffence? false none points)

end ForkSchedule
