import LiquidityController.Wire.Codec

/-!
# Protocols

The kinds of external protocol into which the controller can place funds.
-/

namespace LiquidityController

inductive Protocol where
  | splTokenExternal
  | splTokenSwap
  | cctpBridge
  | lzBridge
  | atomicSwap
  | drift
  | kamino
  deriving DecidableEq, Repr

namespace Protocol

/-- Every protocol, in the order of the numbers by which records name them. -/
def all : List Protocol :=
  [splTokenExternal, splTokenSwap, cctpBridge, lzBridge, atomicSwap, drift, kamino]

def name : Protocol → String
  | splTokenExternal => "SplTokenExternal"
  | splTokenSwap => "SplTokenSwap"
  | cctpBridge => "CctpBridge"
  | lzBridge => "LzBridge"
  | atomicSwap => "AtomicSwap"
  | drift => "Drift"
  | kamino => "Kamino"

def codec : Codec Protocol :=
  .enumeration all

end Protocol

end LiquidityController
