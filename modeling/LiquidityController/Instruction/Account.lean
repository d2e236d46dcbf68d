import LiquidityController.Address.Basic

/-!
# Accounts of an instruction

An instruction lists the accounts it works on, each with what it may do with the account and
whether the account has to sign.
-/

namespace LiquidityController

/-- What an instruction needs of an account. -/
inductive Role where
  | writableSigner
  | writable
  | signer
  | readonly
  deriving DecidableEq, Repr

namespace Role

def isSigner : Role → Bool
  | writableSigner | signer => true
  | writable | readonly => false

def isWritable : Role → Bool
  | writableSigner | writable => true
  | signer | readonly => false

def unsigned : Role → Role
  | writableSigner => writable
  | signer => readonly
  | role => role

end Role

structure AccountMeta where
  address : Address
  role : Role
  deriving DecidableEq

namespace AccountMeta

def writableSigner (address : Address) : AccountMeta :=
  ⟨address, .writableSigner⟩

def writable (address : Address) : AccountMeta :=
  ⟨address, .writable⟩

def signer (address : Address) : AccountMeta :=
  ⟨address, .signer⟩

def readonly (address : Address) : AccountMeta :=
  ⟨address, .readonly⟩

/-- An account with its need to sign decided by the caller. Signing can be waived this way, but
it is never asked of an account that does not sign anyway. -/
def withSigning (signing : Option Bool) (account : AccountMeta) : AccountMeta :=
  match signing with
  | some false => { account with role := account.role.unsigned }
  | some true | none => account

end AccountMeta

end LiquidityController
