import LiquidityController.Builder.Request
import LiquidityController.Environment.Basic
import LiquidityController.Json.Programs
import LiquidityController.Proofs.Integration.ConfigCodec
import LiquidityController.Proofs.Integration.ConfigLayout
import LiquidityController.Proofs.Integration.ConfigDecoding
import LiquidityController.Proofs.Integration.CanonicalForm
import LiquidityController.Proofs.Address.Separation
import LiquidityController.Proofs.Instruction.ArgumentCodecs
import LiquidityController.Proofs.Logged
import LiquidityController.Proofs.Position.Recomputation
import LiquidityController.Proofs.Address.BumpSearch
import LiquidityController.Proofs.Wire.Exactness
import LiquidityController.Proofs.Wire.Truncation
import LiquidityController.Proofs.Position.ContentAddressing
import LiquidityController.Proofs.Position.Operations
import LiquidityController.Proofs.Builder.Lookups
import LiquidityController.Proofs.Builder.Funds
import LiquidityController.Proofs.Builder.Layout
import LiquidityController.Proofs.Builder.Roles
import LiquidityController.Proofs.Builder.Reissue
import LiquidityController.Proofs.Builder.Signatures
import LiquidityController.Proofs.Builder.Requirements
import LiquidityController.Proofs.Builder.Refusals
import LiquidityController.Proofs.Instruction.Payloads
import LiquidityController.Proofs.Integration.DescriptionText
import LiquidityController.Proofs.Builder.Updates
import LiquidityController.Proofs.Builder.Recipes
import LiquidityController.Proofs.Builder.Deployments
import LiquidityController.Proofs.Environment.Overrides
import LiquidityController.Proofs.Environment.Parsing
import LiquidityController.Proofs.Json.Programs
import LiquidityController.Proofs.Position.SpotMarkets
import LiquidityController.Proofs.Position.Lending
import LiquidityController.Proofs.Builder.Supplied
import LiquidityController.Proofs.Builder.Terms
import LiquidityController.Proofs.Builder.Consistency
import LiquidityController.Proofs.Instruction.Signing
import LiquidityController.Proofs.Builder.Reports
