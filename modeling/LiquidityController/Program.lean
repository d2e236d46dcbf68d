import LiquidityController.Address.Basic

/-!
# Programs

The controller works together with seven other programs. An instruction builder targets one
address for each of them, by default that of the public deployment.
-/

namespace LiquidityController

/-- The programs that an instruction can involve, in the order in which they are listed. -/
inductive Program where
  | controller
  | token
  | token2022
  | associatedToken
  | system
  | kaminoLend
  | kaminoFarms
  | drift
  deriving DecidableEq, Repr

namespace Program

def all : List Program :=
  [controller, token, token2022, associatedToken, system, kaminoLend, kaminoFarms, drift]

def name : Program → String
  | controller => "controller"
  | token => "token"
  | token2022 => "token_2022"
  | associatedToken => "associated_token"
  | system => "system"
  | kaminoLend => "kamino_lend"
  | kaminoFarms => "kamino_farms"
  | drift => "drift"

def ofName? (name : String) : Option Program :=
  all.find? (·.name == name)

def mainnet : Program → Address
  | controller => .ofText "ALM1JSnEhc5PkNecbSZotgprBuJujL5objTbwGtpTgTd"
  | token => .ofText "TokenkegQfeZyiNwAJbNbGKPFXCWuBvf9Ss623VQ5DA"
  | token2022 => .ofText "TokenzQdBNbLqP5VEhdkAS6EPFLC1PHnBqCXEpPxuEb"
  | associatedToken => .ofText "ATokenGPvbdGVxr1b2hvZbsiqW5xWH25efTNsLJA8knL"
  | system => .ofText "11111111111111111111111111111111"
  | kaminoLend => .ofText "KLend2g3cP87fffoy8q1mQqGKjrxjC8boSyAYavgmjD"
  | kaminoFarms => .ofText "FarmsPZpWu9i7Kky8tPN37rs2TpmMrAZrC7S7vJa91Hr"
  | drift => .ofText "dRiftyHA39MWEi3m9aunc5MzRF1JYuBsbn6VPcn33UH"

end Program

structure Programs where
  (controller token token2022 associatedToken system kaminoLend kaminoFarms drift : Address)
  deriving DecidableEq

namespace Programs

def get (programs : Programs) : Program → Address
  | .controller => programs.controller
  | .token => programs.token
  | .token2022 => programs.token2022
  | .associatedToken => programs.associatedToken
  | .system => programs.system
  | .kaminoLend => programs.kaminoLend
  | .kaminoFarms => programs.kaminoFarms
  | .drift => programs.drift

def ofFn (address : Program → Address) : Programs where
  controller := address .controller
  token := address .token
  token2022 := address .token2022
  associatedToken := address .associatedToken
  system := address .system
  kaminoLend := address .kaminoLend
  kaminoFarms := address .kaminoFarms
  drift := address .drift

@[simp] theorem get_ofFn (address : Program → Address) : (ofFn address).get = address := by
  funext program
  cases program <;> rfl

@[simp] theorem ofFn_get (programs : Programs) : ofFn programs.get = programs := rfl

/-- The public deployments. -/
def mainnet : Programs :=
  ofFn Program.mainnet

/-- Whether an address is that of one of the two token programs. -/
def isTokenProgram (programs : Programs) (address : Address) : Bool :=
  address == programs.token || address == programs.token2022

end Programs

def rentSysvar : Address :=
  .ofText "SysvarRent111111111111111111111111111111111"

/-- The well-known account through which a program reads the instructions of its transaction. -/
def instructionsSysvar : Address :=
  .ofText "Sysvar1nstructions1111111111111111111111111"

end LiquidityController
