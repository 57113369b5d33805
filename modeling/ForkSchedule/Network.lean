import ForkSchedule.Schedule

/-!
# Networks and their schedules

The known networks, each with a chain identifier and a fixed schedule, and the schedules that tests
start from.
-/

namespace ForkSchedule

/-- The start of the year 2000, as a timestamp. -/
def y2000 : Nat := 946684800

/-- The start of the year 2100, as a timestamp. -/
def y2100 : Nat := 4102444800

/-- The hash of the EIP150 fork block of the known networks. -/
def sharedEip150Hash : Hash where
  bytes := [
    0x20, 0x86, 0x79, 0x9a, 0xee, 0xbe, 0xae, 0x13, 0x5c, 0x24, 0x6c, 0x65, 0x02, 0x1c, 0x82, 0xb4,
    0xe1, 0x5a, 0x2c, 0x45, 0x13, 0x40, 0x99, 0x3a, 0xac, 0xfd, 0x27, 0x51, 0x88, 0x65, 0x14, 0xf0]
  length_bytes := rfl

inductive Network where
  | flare
  | songbird
  | coston
  /-- A local network for development. -/
  | localNet
  deriving DecidableEq, Repr

namespace Network

def all : List Network := [flare, songbird, coston, localNet]

/-- The network that is used when none is named. -/
def default : Network := flare

def name : Network → String
  | flare => "flare"
  | songbird => "songbird"
  | coston => "coston"
  | localNet => "local"

/-- The chain identifier of a network. That of the local network is the largest that EIP-2294
allows. -/
def chainId : Network → Nat
  | flare => 14
  | songbird => 19
  | coston => 16
  | localNet => 9223372036854775771

def ofChainId? (chainId : Nat) : Option Network := all.find? (·.chainId = chainId)

/-- The network with a name, in ASCII letters of either case. -/
def ofName? (name : String) : Option Network :=
  all.find? (·.name.toList = name.toList.map Char.toLower)

end Network

namespace Schedule

/-- The schedule shared by the public networks: every fork by height at genesis, three upgrades in
the past and the fourth far in the future. -/
def publicNetwork (chainId : Nat) : Schedule where
  chainId := some chainId
  homestead := some 0
  dao := some 0
  daoForkSupport := true
  eip150 := some 0
  eip150Hash := some sharedEip150Hash
  eip155 := some 0
  eip158 := some 0
  byzantium := some 0
  constantinople := some 0
  petersburg := some 0
  istanbul := some 0
  muirGlacier := some 0
  apricotPhase1 := some y2000
  apricotPhase2 := some y2000
  apricotPhase3 := some y2000
  apricotPhase4 := some y2100

/-- A schedule for tests without any upgrade: every fork by height at genesis except the DAO
fork. -/
def testLaunch : Schedule where
  chainId := some 1
  homestead := some 0
  eip150 := some 0
  eip155 := some 0
  eip158 := some 0
  byzantium := some 0
  constantinople := some 0
  petersburg := some 0
  istanbul := some 0
  muirGlacier := some 0

def testPhase1 : Schedule := { testLaunch with apricotPhase1 := some 0 }

def testPhase2 : Schedule := { testPhase1 with apricotPhase2 := some 0 }

def testPhase3 : Schedule := { testPhase2 with apricotPhase3 := some 0 }

def testPhase4 : Schedule := { testPhase3 with apricotPhase4 := some 0 }

/-- The schedule for tests with every fork at genesis except the DAO fork. -/
def test : Schedule where
  chainId := some 1
  homestead := some 0
  eip150 := some 0
  eip155 := some 0
  eip158 := some 0
  byzantium := some 0
  constantinople := some 0
  petersburg := some 0
  istanbul := some 0
  muirGlacier := some 0
  apricotPhase1 := some 0
  apricotPhase2 := some 0
  apricotPhase3 := some 0
  apricotPhase4 := some 0

end Schedule

/-- The schedule of a network. On the local network every upgrade is active from genesis. -/
def Network.schedule (network : Network) : Schedule :=
  match network with
  | .localNet =>
    { Schedule.publicNetwork network.chainId with
      apricotPhase1 := some 0, apricotPhase2 := some 0, apricotPhase3 := some 0,
      apricotPhase4 := some 0 }
  | network => Schedule.publicNetwork network.chainId

end ForkSchedule
