import ForkSchedule.Chain

/-!
# Calls on the chain store

The service reaches the stored chain through five methods. A call is what a log of the traffic
between the two keeps.
-/

namespace ForkSchedule

/-- A method of the chain store. -/
inductive Method where
  | storedSchedule
  | head
  | writeSchedule
  | rewindTo
  | heightAt
  deriving DecidableEq, Repr

namespace Method

def all : List Method := [storedSchedule, head, writeSchedule, rewindTo, heightAt]

def name : Method → String
  | storedSchedule => "stored_config"
  | head => "head"
  | writeSchedule => "write_config"
  | rewindTo => "rewind_to"
  | heightAt => "height_at_timestamp"

/-- The failure of a method that is out of order. -/
def failure (method : Method) : Error := .store (method.name ++ " failed")

end Method

/-- A call of the service on the chain store. -/
inductive Call where
  | storedSchedule
  | head
  | writeSchedule
  | rewindTo (height : Nat)
  | heightAt (timestamp : Nat)
  deriving DecidableEq, Repr

namespace Call

def method : Call → Method
  | storedSchedule => .storedSchedule
  | head => .head
  | writeSchedule => .writeSchedule
  | rewindTo _ => .rewindTo
  | heightAt _ => .heightAt

/-- A call is shown as its method with the number it is given, if any. -/
def text : Call → String
  | rewindTo height => Method.rewindTo.name ++ "(" ++ toString height ++ ")"
  | heightAt timestamp => Method.heightAt.name ++ "(" ++ toString timestamp ++ ")"
  | call => call.method.name

end Call

end ForkSchedule
