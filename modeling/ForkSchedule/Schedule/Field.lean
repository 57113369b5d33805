import ForkSchedule.Schedule

/-!
# The fields of a schedule

A schedule has seventeen fields of three kinds. `get` and `set` give access to them by field, and
their laws say that a schedule is no more than what its fields hold.
-/

namespace ForkSchedule

/-- A field of a schedule. -/
inductive Field where
  | chainId
  /-- The activation point of a fork. -/
  | point (fork : Fork)
  | daoForkSupport
  | eip150Hash
  deriving DecidableEq, Repr

namespace Field

/-- What kind of data a field holds. -/
inductive Kind where
  /-- A number that may be absent. -/
  | number
  /-- A flag. -/
  | flag
  /-- A hash that may be absent. -/
  | hash
  deriving DecidableEq, Repr

/-- The data of a kind. -/
abbrev Kind.Data : Kind → Type
  | .number => Option Nat
  | .flag => Bool
  | .hash => Option Hash

/-- The data of a field that is not given. -/
def Kind.blank : (kind : Kind) → kind.Data
  | .number => none
  | .flag => false
  | .hash => none

/-- The kind of a field. -/
abbrev kind : Field → Kind
  | chainId | point _ => .number
  | daoForkSupport => .flag
  | eip150Hash => .hash

/-- The fields in document order. -/
def all : List Field :=
  [chainId, point .homestead, point .dao, daoForkSupport, point .eip150, eip150Hash, point .eip155,
    point .eip158, point .byzantium, point .constantinople, point .petersburg, point .istanbul,
    point .muirGlacier, point .apricotPhase1, point .apricotPhase2, point .apricotPhase3,
    point .apricotPhase4]

/-- The name of a field in a document. -/
def name : Field → String
  | chainId => "chainId"
  | point fork => fork.fieldName
  | daoForkSupport => "daoForkSupport"
  | eip150Hash => "eip150Hash"

theorem mem_all (field : Field) : field ∈ all := by
  cases field with
  | point fork => cases fork <;> decide
  | _ => decide

theorem nodup_all : all.Nodup := by decide

end Field

namespace Schedule

/-- The data of a field. -/
def get (schedule : Schedule) : (field : Field) → field.kind.Data
  | .chainId => schedule.chainId
  | .point fork => schedule.point fork
  | .daoForkSupport => schedule.daoForkSupport
  | .eip150Hash => schedule.eip150Hash

/-- The schedule with other data in one field. -/
def set (schedule : Schedule) : (field : Field) → field.kind.Data → Schedule
  | .chainId, value => { schedule with chainId := value }
  | .point fork, value => schedule.setPoint fork value
  | .daoForkSupport, value => { schedule with daoForkSupport := value }
  | .eip150Hash, value => { schedule with eip150Hash := value }

@[simp] theorem get_set_self (schedule : Schedule) (field : Field) (value : field.kind.Data) :
    (schedule.set field value).get field = value := by
  cases field with
  | point fork => exact point_setPoint_self schedule fork value
  | _ => rfl

theorem get_set_of_ne (schedule : Schedule) {field other : Field} (hne : other ≠ field)
    (value : field.kind.Data) : (schedule.set field value).get other = schedule.get other := by
  cases field with
  | point fork =>
    cases other with
    | point _ =>
      exact point_setPoint_of_ne schedule (fun heq => hne (congrArg Field.point heq)) value
    | _ => cases fork <;> rfl
  | chainId => cases other with
    | chainId => exact absurd rfl hne
    | point fork => cases fork <;> rfl
    | _ => rfl
  | daoForkSupport => cases other with
    | daoForkSupport => exact absurd rfl hne
    | point fork => cases fork <;> rfl
    | _ => rfl
  | eip150Hash => cases other with
    | eip150Hash => exact absurd rfl hne
    | point fork => cases fork <;> rfl
    | _ => rfl

/-- A schedule is determined by its fields. -/
theorem ext_get {schedule other : Schedule} (hget : ∀ field, schedule.get field = other.get field) :
    schedule = other := by
  have hpoint (fork : Fork) : schedule.point fork = other.point fork := hget (.point fork)
  have hchain : schedule.chainId = other.chainId := hget .chainId
  have hsupport : schedule.daoForkSupport = other.daoForkSupport := hget .daoForkSupport
  have hhash : schedule.eip150Hash = other.eip150Hash := hget .eip150Hash
  have := hpoint .homestead
  have := hpoint .dao
  have := hpoint .eip150
  have := hpoint .eip155
  have := hpoint .eip158
  have := hpoint .byzantium
  have := hpoint .constantinople
  have := hpoint .petersburg
  have := hpoint .istanbul
  have := hpoint .muirGlacier
  have := hpoint .apricotPhase1
  have := hpoint .apricotPhase2
  have := hpoint .apricotPhase3
  have := hpoint .apricotPhase4
  cases schedule
  cases other
  simp_all [point]

end Schedule

end ForkSchedule
