/-!
# Forks and their axes

The fourteen forks that a schedule knows, in canonical order. Ten are scheduled by block height
and four by block timestamp. Points on different axes are never compared.
-/

namespace ForkSchedule

/-- What a fork is scheduled by. -/
inductive Axis where
  | height
  | timestamp
  deriving DecidableEq, Repr

def Axis.name : Axis → String
  | .height => "height"
  | .timestamp => "timestamp"

/-- Both axes, height first. -/
def Axis.all : List Axis := [.height, .timestamp]

theorem Axis.forall_iff {property : Axis → Prop} :
    (∀ axis, property axis) ↔ property .height ∧ property .timestamp := by
  constructor
  · intro hall
    exact ⟨hall .height, hall .timestamp⟩
  · rintro ⟨hheight, htimestamp⟩ axis
    cases axis with
    | height => exact hheight
    | timestamp => exact htimestamp

/-- The forks, in canonical order along each axis. -/
inductive Fork where
  | homestead
  | dao
  | eip150
  | eip155
  | eip158
  | byzantium
  | constantinople
  | petersburg
  | istanbul
  | muirGlacier
  | apricotPhase1
  | apricotPhase2
  | apricotPhase3
  | apricotPhase4
  deriving DecidableEq, Repr

namespace Fork

/-- The forks scheduled by block height, in canonical order. -/
def byHeight : List Fork :=
  [homestead, dao, eip150, eip155, eip158, byzantium, constantinople, petersburg, istanbul,
    muirGlacier]

/-- The upgrades scheduled by block timestamp, in canonical order. -/
def byTimestamp : List Fork :=
  [apricotPhase1, apricotPhase2, apricotPhase3, apricotPhase4]

def axis : Fork → Axis
  | apricotPhase1 | apricotPhase2 | apricotPhase3 | apricotPhase4 => .timestamp
  | _ => .height

/-- An optional fork may stay unscheduled while later forks are scheduled. -/
def optional : Fork → Bool
  | dao | muirGlacier => true
  | _ => false

/-- The name of a fork's field in a schedule document. -/
def fieldName : Fork → String
  | homestead => "homesteadBlock"
  | dao => "daoForkBlock"
  | eip150 => "eip150Block"
  | eip155 => "eip155Block"
  | eip158 => "eip158Block"
  | byzantium => "byzantiumBlock"
  | constantinople => "constantinopleBlock"
  | petersburg => "petersburgBlock"
  | istanbul => "istanbulBlock"
  | muirGlacier => "muirGlacierBlock"
  | apricotPhase1 => "apricotPhase1BlockTimestamp"
  | apricotPhase2 => "apricotPhase2BlockTimestamp"
  | apricotPhase3 => "apricotPhase3BlockTimestamp"
  | apricotPhase4 => "apricotPhase4BlockTimestamp"

/-- The name under which a mismatch of the fork's point is reported. -/
def ruleName : Fork → String
  | homestead => "Homestead fork block"
  | dao => "DAO fork block"
  | eip150 => "EIP150 fork block"
  | eip155 => "EIP155 fork block"
  | eip158 => "EIP158 fork block"
  | byzantium => "Byzantium fork block"
  | constantinople => "Constantinople fork block"
  | petersburg => "Petersburg fork block"
  | istanbul => "Istanbul fork block"
  | muirGlacier => "Muir Glacier fork block"
  | apricotPhase1 => "Apricot Phase 1 fork block timestamp"
  | apricotPhase2 => "Apricot Phase 2 fork block timestamp"
  | apricotPhase3 => "Apricot Phase 3 fork block timestamp"
  | apricotPhase4 => "Apricot Phase 4 fork block timestamp"

/-- The name of the fork's entry in a rules snapshot. -/
def flagName : Fork → String
  | homestead => "is_homestead"
  | dao => "is_dao_fork"
  | eip150 => "is_eip150"
  | eip155 => "is_eip155"
  | eip158 => "is_eip158"
  | byzantium => "is_byzantium"
  | constantinople => "is_constantinople"
  | petersburg => "is_petersburg"
  | istanbul => "is_istanbul"
  | muirGlacier => "is_muir_glacier"
  | apricotPhase1 => "is_apricot_phase1"
  | apricotPhase2 => "is_apricot_phase2"
  | apricotPhase3 => "is_apricot_phase3"
  | apricotPhase4 => "is_apricot_phase4"

/-- The list of an axis holds exactly the forks of that axis. -/
theorem mem_byHeight {fork : Fork} : fork ∈ byHeight ↔ fork.axis = .height := by
  cases fork <;> decide

theorem mem_byTimestamp {fork : Fork} : fork ∈ byTimestamp ↔ fork.axis = .timestamp := by
  cases fork <;> decide

end Fork

end ForkSchedule
