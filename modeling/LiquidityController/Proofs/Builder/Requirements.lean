import LiquidityController.Proofs.Builder.Lookups
import LiquidityController.Proofs.Integration.CanonicalForm

/-!
# Requirements of an operation

What an operation insists on before it makes an instruction. Some requirements are conditions on the
request, and they are what a caller has to know. The others are that an address can be derived,
which practically never fails.

`Call.conditions` is the table of conditions, in the order in which they are reported.
`Builder.steps` is the same table with the derivations at their places between the conditions.
-/

namespace LiquidityController

def Change.isCleared {α : Type} : Change α → Bool
  | cleared => true
  | unchanged | set _ => false

/-- Something that an operation insists on. -/
inductive Requirement where
  /-- The builder knows the number of its controller. -/
  | knownId
  | tokenProgram (program : Address)
  | description (text : String)
  /-- The field is not emptied. -/
  | kept (field : String) (cleared : Bool)
  /-- The config has a canonical form. -/
  | zeroPadding (config : Config)
  /-- An obligation can reference that many reserves. -/
  | reserves (count : Nat)
  /-- The search for a bump finds the account. -/
  | found (account : Derived)

namespace Requirement

/-- Whether the requirement is about the request, not about a search. -/
def isCondition : Requirement → Bool
  | found _ => false
  | _ => true

end Requirement

/-- A call of a builder. Some operations give an address or a config instead of an instruction. -/
inductive Call where
  | perform (request : Request)
  | reserveAddress (mint : Address)
  | reserveVault (mint tokenProgram : Address)
  | integrationAddress (config : Config)
  | externalConfig (transfer : ExternalTransfer)
  | kaminoConfig (position : KaminoPosition)

/-! ### Conditions -/

def Change.conditions : Change String → List Requirement
  | set text => [.description text]
  | unchanged | cleared => []

def IntegrationUpdate.conditions (update : IntegrationUpdate) : List Requirement :=
  update.description.conditions ++ [
  .kept "status" update.status.isCleared,
  .kept "rate_limit_slope" update.rateLimitSlope.isCleared]

def ReserveUpdate.conditions (update : ReserveUpdate) : List Requirement := [
  .kept "status" update.status.isCleared,
  .kept "rate_limit_slope" update.rateLimitSlope.isCleared]

def Request.conditions : Request → List Requirement
  | initializeController _ => [.knownId]
  | initializeReserve _ tokenProgram _ _ | syncReserve _ tokenProgram
  | pushDrift _ tokenProgram _ _ _ | pullDrift _ tokenProgram _ _
  | pushKamino _ tokenProgram _ | pullKamino _ tokenProgram _ => [.tokenProgram tokenProgram]
  | pushExternal transfer _ => [.tokenProgram transfer.tokenProgram]
  | syncKamino _ tokenProgram harvest =>
    .tokenProgram tokenProgram :: harvest.toList.map (.tokenProgram ·.rewardsTokenProgram)
  | initializeExternal terms transfer =>
    [.tokenProgram transfer.tokenProgram, .description terms.description]
  | initializeAtomicSwap terms _ | initializeDrift terms _ | initializeKamino terms _ =>
    [.description terms.description]
  | initializeIntegration _ config terms _ _ =>
    [.description terms.description, .zeroPadding config]
  | manageReserve _ update => update.conditions
  | manageIntegration _ update => update.conditions
  | refreshKaminoObligation _ _ reserves => [.reserves reserves.length]
  | manageController _ | managePermission _ _ _ | claimRent _ | initializeOracle _ _ _ _ _
  | updateOracle _ _ _ _ | refreshOracle _ _ | refreshKaminoReserve _ _ _ | syncIntegration _ _ _
  | push _ _ _ _ | pull _ _ _ _ | syncDrift _ => []

/-- The conditions under which a call succeeds, the first to be reported first. -/
def Call.conditions : Call → List Requirement
  | perform request => request.conditions
  | reserveVault _ tokenProgram => [.tokenProgram tokenProgram]
  | integrationAddress config => [.zeroPadding config]
  | externalConfig transfer => [.tokenProgram transfer.tokenProgram]
  | reserveAddress _ | kaminoConfig _ => []

def refusal {α : Type} : Except Failure α → Option Failure
  | .error failure => some failure
  | .ok _ => none

section Refusal

variable {α β : Type} {attempt : Except Failure α} {failure : Failure}

theorem isOk_iff_refusal : attempt.isOk ↔ refusal attempt = none := by
  cases attempt <;> simp [refusal, Except.isOk, Except.toBool]

theorem eq_error_of_refusal (refused : refusal attempt = some failure) :
    attempt = .error failure := by
  cases attempt with
  | error other =>
    cases refused
    rfl
  | ok value => cases refused

theorem refusal_map (f : α → β) (attempt : Except Failure α) :
    refusal (f <$> attempt) = refusal attempt := by
  cases attempt <;> rfl

end Refusal

namespace Builder

def failure? (builder : Builder) : Call → Option Failure
  | .perform request => refusal (builder.perform request).result
  | .reserveAddress mint => refusal (builder.reserveAddress mint)
  | .reserveVault mint tokenProgram => refusal (builder.reserveVault mint tokenProgram).result
  | .integrationAddress config => refusal (builder.integrationAddress config)
  | .externalConfig transfer => refusal (builder.externalConfig transfer).result
  | .kaminoConfig position => refusal (builder.kaminoConfig position)

/-- The failure that reports a requirement that is not met. -/
def unmet (builder : Builder) : Requirement → Option Failure
  | .knownId => if builder.id.isSome then none else some .missingControllerId
  | .tokenProgram program =>
    if builder.programs.isTokenProgram program then none else some (.unknownTokenProgram program)
  | .description text =>
    let length := text.toUTF8.toList.length
    if length ≤ descriptionLength then none else some (.descriptionTooLong length)
  | .kept field cleared => if cleared then some (.invalidClear field) else none
  | .zeroPadding config =>
    if config.payload.padding.isZero then none else some .nonCanonicalPadding
  | .reserves count =>
    if count ≤ maxObligationReserves then none else some (.tooManyReserves count)
  | .found account =>
    if (builder.programs.derive account).isOk then none
    else some (.derivationExhausted (builder.programs.get account.owner))

/-! ### Derivations -/

/-- The address of an account. What it is if the search fails does not matter, since then nothing is
done with it. -/
def locate (builder : Builder) (account : Derived) : Address :=
  match builder.programs.derive account with
  | .ok address => address
  | .error _ => .zero

variable (builder : Builder)

def reserveStep (mint : Address) : Requirement :=
  .found (.reserve builder.controller mint)

def integrationStep (config : Config) : Requirement :=
  .found (.integration builder.controller (keccak256 (Config.codec.encode config)))

/-- A token account is only looked for under a token program. -/
def accountSteps (owner mint tokenProgram : Address) : List Requirement :=
  [.tokenProgram tokenProgram, .found (.associatedToken owner mint tokenProgram)]

def vaultSteps (mint tokenProgram : Address) : List Requirement :=
  accountSteps builder.controllerAuthority mint tokenProgram

def externalSteps (transfer : ExternalTransfer) : List Requirement :=
  .tokenProgram transfer.tokenProgram ::
    if transfer.tokenAccount.isSome then []
    else [.found (.associatedToken transfer.recipient transfer.mint transfer.tokenProgram)]

def externalFields (transfer : ExternalTransfer) : Config.SplTokenExternal where
  program := transfer.tokenProgram
  mint := transfer.mint
  recipient := transfer.recipient
  tokenAccount := transfer.tokenAccount.getD <| builder.locate <|
    .associatedToken transfer.recipient transfer.mint transfer.tokenProgram

def obligation (position : KaminoPosition) : Derived :=
  .kaminoObligation position.obligationId builder.controllerAuthority position.market

def kaminoFields (position : KaminoPosition) : Config.Kamino :=
  position.fields (builder.locate (builder.obligation position))

def farmStep (config : Config.Kamino) : Requirement :=
  .found (.farmObligation config.reserveFarmCollateral config.obligation)

def lendingSteps (config : Config.Kamino) (tokenProgram : Address) : List Requirement :=
  let mint := config.reserveLiquidityMint
  (if config.reserveFarmCollateral = .zero then [] else [farmStep config]) ++
  builder.vaultSteps mint tokenProgram ++ [
  .found (.kaminoLiquiditySupply config.market mint),
  .found (.kaminoCollateralMint config.market mint),
  .found (.kaminoCollateralSupply config.market mint),
  .found (.kaminoMarketAuthority config.market)]

def harvestSteps (config : Config.Kamino) (harvest : RewardHarvest) : List Requirement :=
  let farm := config.reserveFarmCollateral
  builder.vaultSteps harvest.rewardsMint harvest.rewardsTokenProgram ++ [
  farmStep config,
  .found (.farmRewardsVault farm harvest.rewardsMint),
  .found (.farmTreasuryVault harvest.globalConfig harvest.rewardsMint),
  .found (.farmVaultsAuthority farm)]

/-- Everything that a request requires, in the order in which it is looked at. -/
def requestSteps : Request → List Requirement
  | .initializeController _ => [.knownId]
  | .managePermission subject _ _ => [.found (.permission builder.controller subject)]
  | .initializeReserve mint tokenProgram _ _ | .syncReserve mint tokenProgram =>
    builder.reserveStep mint :: builder.vaultSteps mint tokenProgram
  | .manageReserve mint update => builder.reserveStep mint :: update.conditions
  | .initializeOracle _ nonce _ _ _ => [.found (.oracle nonce)]
  | .refreshKaminoObligation _ _ reserves => [.reserves reserves.length]
  | .initializeIntegration _ config terms _ _ =>
    [.description terms.description, .zeroPadding config, builder.integrationStep config]
  | .manageIntegration _ update => update.conditions
  | .initializeAtomicSwap terms swap =>
    [.description terms.description, builder.integrationStep (.ofProtocol .atomicSwap swap)]
  | .initializeExternal terms transfer =>
    externalSteps transfer ++ [
    .description terms.description,
    builder.integrationStep (.ofProtocol .splTokenExternal (builder.externalFields transfer))]
  -- the token program is looked at twice, for the config and for the vault
  | .pushExternal transfer _ =>
    externalSteps transfer ++
    builder.integrationStep (.ofProtocol .splTokenExternal (builder.externalFields transfer)) ::
    builder.reserveStep transfer.mint ::
    builder.vaultSteps transfer.mint transfer.tokenProgram
  | .initializeDrift terms position => [
    .found (.driftUser builder.controllerAuthority position.subAccountId),
    .found (.driftUserStats builder.controllerAuthority),
    .found .driftState,
    .found (.driftSpotMarket position.spotMarketIndex),
    .description terms.description,
    builder.integrationStep position.config]
  | .pushDrift position tokenProgram _ _ _ =>
    builder.vaultSteps position.mint tokenProgram ++ [
    .found .driftState,
    .found (.driftUser builder.controllerAuthority position.subAccountId),
    .found (.driftUserStats builder.controllerAuthority),
    .found (.driftSpotMarketVault position.spotMarketIndex),
    builder.integrationStep position.config,
    builder.reserveStep position.mint]
  -- unlike a deposit, a withdrawal looks at the vault after the accounts of the exchange
  | .pullDrift position tokenProgram _ _ => [
    .found .driftSigner,
    .found .driftState,
    .found (.driftUser builder.controllerAuthority position.subAccountId),
    .found (.driftUserStats builder.controllerAuthority),
    .found (.driftSpotMarketVault position.spotMarketIndex)] ++
    builder.vaultSteps position.mint tokenProgram ++ [
    builder.integrationStep position.config,
    builder.reserveStep position.mint]
  | .syncDrift position => [
    .found (.driftSpotMarketVault position.spotMarketIndex),
    .found (.driftSpotMarket position.spotMarketIndex),
    .found (.driftUser builder.controllerAuthority position.subAccountId),
    builder.integrationStep position.config,
    builder.reserveStep position.mint]
  | .initializeKamino terms position =>
    let config := builder.kaminoFields position
    [.found (builder.obligation position),
    .found (.kaminoUserMetadata builder.controllerAuthority),
    farmStep config,
    .found (.kaminoMarketAuthority config.market),
    .description terms.description,
    builder.integrationStep (.ofProtocol .kamino config)]
  | .pushKamino position tokenProgram _ =>
    let config := builder.kaminoFields position
    .found (builder.obligation position) :: builder.lendingSteps config tokenProgram ++ [
    .found (.kaminoUserMetadata builder.controllerAuthority),
    builder.integrationStep (.ofProtocol .kamino config),
    builder.reserveStep config.reserveLiquidityMint]
  | .pullKamino position tokenProgram _ =>
    let config := builder.kaminoFields position
    .found (builder.obligation position) :: builder.lendingSteps config tokenProgram ++ [
    builder.integrationStep (.ofProtocol .kamino config),
    builder.reserveStep config.reserveLiquidityMint]
  | .syncKamino position tokenProgram harvest =>
    let config := builder.kaminoFields position
    .found (builder.obligation position) ::
    builder.vaultSteps config.reserveLiquidityMint tokenProgram ++
    harvest.toList.flatMap (builder.harvestSteps config) ++ [
    builder.integrationStep (.ofProtocol .kamino config),
    builder.reserveStep config.reserveLiquidityMint]
  | .manageController _ | .claimRent _ | .updateOracle _ _ _ _ | .refreshOracle _ _
  | .refreshKaminoReserve _ _ _ | .syncIntegration _ _ _ | .push _ _ _ _ | .pull _ _ _ _ => []

def steps : Call → List Requirement
  | .perform request => builder.requestSteps request
  | .reserveAddress mint => [builder.reserveStep mint]
  | .reserveVault mint tokenProgram => builder.vaultSteps mint tokenProgram
  | .integrationAddress config => [.zeroPadding config, builder.integrationStep config]
  | .externalConfig transfer => externalSteps transfer
  | .kaminoConfig position => [.found (builder.obligation position)]

/-- The requirements that a call looks at: those up to the first that is not met. -/
def reached : List Requirement → List Requirement
  | [] => []
  | step :: steps => step :: if (builder.unmet step).isNone then reached steps else []

end Builder

end LiquidityController
