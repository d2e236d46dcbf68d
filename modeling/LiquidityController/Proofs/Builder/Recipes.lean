import LiquidityController.Proofs.Logged
import LiquidityController.Builder.Basic

/-!
# Recipes of builders

A builder is made from the address or from the number of a controller, and may be given another
payer any number of times. Making it looks accounts up under the controller program only, so the
addresses of the other programs do not matter to whether it can be made.
-/

namespace LiquidityController

/-- The steps that make a builder. -/
inductive Recipe where
  | new (controller authority : Address)
  | ofId (id : UInt16) (authority : Address)
  | withPayer (recipe : Recipe) (payer : Address)

/-- The builder that a recipe makes under given programs. -/
def Recipe.build (programs : Programs) : Recipe → Logged Failure Builder
  | new controller authority => Builder.new programs controller authority
  | ofId id authority => Builder.ofId programs id authority
  | withPayer recipe payer => return (← recipe.build programs).withPayer payer

/-- The controller program at its address and the other programs at those of a replacement. -/
def Programs.redeploy (programs replacement : Programs) : Programs :=
  { replacement with controller := programs.controller }

theorem Programs.redeploy_eq {programs replacement : Programs}
    (same : programs.controller = replacement.controller) :
    programs.redeploy replacement = replacement := by
  rw [redeploy, same]

/-- Whatever the controller program owns stays where it is. -/
theorem Programs.derive_redeploy (programs replacement : Programs) {account : Derived}
    (own : account.owner = .controller) :
    (programs.redeploy replacement).derive account = programs.derive account := by
  rw [derive, derive, own]
  rfl

namespace Builder

/-- The same builder where all programs but that of the controller have been replaced. -/
def redeploy (builder : Builder) (replacement : Programs) : Builder :=
  { builder with programs := builder.programs.redeploy replacement }

section Make

variable {ε α β : Type} {attempt : Except ε α}

theorem evident_bind_of_ok {value : α} (found : attempt = .ok value)
    (next : { value : α // attempt = .ok value } → Logged ε β) :
    (liftM (evident attempt) : Logged ε _) >>= next = next ⟨value, found⟩ := by
  subst found
  rfl

theorem evident_bind_of_error {failure : ε} (failed : attempt = .error failure)
    (next : { value : α // attempt = .ok value } → Logged ε β) :
    (liftM (evident attempt) : Logged ε _) >>= next = .ofExcept (.error failure) := by
  subst failed
  rfl

variable {programs : Programs} {controller authority controllerAuthority permission : Address}
  {id : Option UInt16} {failure : Failure}
  {derive_controller : ∀ number ∈ id, programs.derive (.controller number) = .ok controller}

theorem make_of_error
    (failed : programs.derive (.controllerAuthority controller) = .error failure) :
    make programs controller authority id derive_controller = .ofExcept (.error failure) := by
  rw [make, evident_bind_of_error failed]

theorem make_of_ok_of_error
    (found : programs.derive (.controllerAuthority controller) = .ok controllerAuthority)
    (failed : programs.derive (.permission controller authority) = .error failure) :
    make programs controller authority id derive_controller = .ofExcept (.error failure) := by
  rw [make, evident_bind_of_ok found]
  exact evident_bind_of_error failed _

theorem make_of_ok_of_ok
    (found : programs.derive (.controllerAuthority controller) = .ok controllerAuthority)
    (found' : programs.derive (.permission controller authority) = .ok permission) :
    make programs controller authority id derive_controller =
      ⟨[.builderReady controller controllerAuthority permission authority], .ok {
        programs, controller, id, controllerAuthority, authority, permission,
        payer := authority
        derive_controller := derive_controller
        derive_controllerAuthority := found
        derive_permission := found' }⟩ := by
  rw [make, evident_bind_of_ok found]
  exact evident_bind_of_ok found' _

/-- Making a builder succeeds only if both searches do, and fills in nothing else. -/
theorem eq_of_make {builder : Builder}
    (made : (make programs controller authority id derive_controller).Returns builder) :
    ∃ controllerAuthority permission found found', builder = {
      programs, controller, id, controllerAuthority, authority, permission
      payer := authority
      derive_controller := derive_controller
      derive_controllerAuthority := found
      derive_permission := found' } := by
  obtain ⟨⟨controllerAuthority, found⟩, -, made⟩ := Logged.returns_bind.mp made
  obtain ⟨⟨permission, found'⟩, -, made⟩ := Logged.returns_bind.mp made
  obtain ⟨_, -, made⟩ := Logged.returns_bind.mp made
  exact ⟨controllerAuthority, permission, found, found', (Logged.returns_pure.mp made).symm⟩

theorem programs_of_make {builder : Builder}
    (made : (make programs controller authority id derive_controller).Returns builder) :
    builder.programs = programs := by
  obtain ⟨controllerAuthority, permission, found, found', rfl⟩ := eq_of_make made
  rfl

end Make

variable {programs replacement : Programs} {controller authority : Address}

/-- A builder that is made after all programs but that of the controller have been replaced is the
one that was made before, with the programs replaced. -/
theorem make_redeploy {id : Option UInt16}
    (derive_controller : ∀ number ∈ id, programs.derive (.controller number) = .ok controller)
    (derive_controller' : ∀ number ∈ id,
      (programs.redeploy replacement).derive (.controller number) = .ok controller) :
    make (programs.redeploy replacement) controller authority id derive_controller' =
      (·.redeploy replacement) <$> make programs controller authority id derive_controller := by
  -- both accounts belong to the controller program, so they are found where they were
  have sameAuthority : (programs.redeploy replacement).derive (.controllerAuthority controller) =
      programs.derive (.controllerAuthority controller) := programs.derive_redeploy replacement rfl
  have samePermission : (programs.redeploy replacement).derive (.permission controller authority) =
      programs.derive (.permission controller authority) := programs.derive_redeploy replacement rfl
  cases attempt : programs.derive (.controllerAuthority controller) with
  | error failure =>
    rw [make_of_error attempt, make_of_error (sameAuthority.trans attempt)]
    rfl
  | ok controllerAuthority =>
    cases attempt' : programs.derive (.permission controller authority) with
    | error failure =>
      rw [make_of_ok_of_error attempt attempt',
        make_of_ok_of_error (sameAuthority.trans attempt) (samePermission.trans attempt')]
      rfl
    | ok permission =>
      rw [make_of_ok_of_ok attempt attempt',
        make_of_ok_of_ok (sameAuthority.trans attempt) (samePermission.trans attempt')]
      rfl

theorem ofId_redeploy (id : UInt16) :
    ofId (programs.redeploy replacement) id authority =
      (·.redeploy replacement) <$> ofId programs id authority := by
  have sameController : (programs.redeploy replacement).derive (.controller id) =
      programs.derive (.controller id) := programs.derive_redeploy replacement rfl
  cases attempt : programs.derive (.controller id) with
  | error failure =>
    rw [ofId, ofId, evident_bind_of_error attempt,
      evident_bind_of_error (sameController.trans attempt)]
    rfl
  | ok controller =>
    rw [ofId, ofId, evident_bind_of_ok attempt, evident_bind_of_ok (sameController.trans attempt)]
    exact make_redeploy _ _

end Builder

/-- A builder targets the programs that it was made for. -/
theorem Recipe.programs_of_build {programs : Programs} {builder : Builder} (recipe : Recipe)
    (made : (recipe.build programs).Returns builder) : builder.programs = programs := by
  induction recipe generalizing builder with
  | new controller authority => exact Builder.programs_of_make made
  | ofId id authority =>
    obtain ⟨_, -, made⟩ := Logged.returns_bind.mp made
    exact Builder.programs_of_make made
  | withPayer recipe payer ih =>
    obtain ⟨_, first, changed⟩ := Logged.returns_bind.mp made
    obtain rfl := Logged.returns_pure.mp changed
    have unchanged := ih first
    exact unchanged

/-- A recipe makes the same builder under other programs, as long as the controller program is the
same. -/
theorem Recipe.build_redeploy (programs replacement : Programs) (recipe : Recipe) :
    recipe.build (programs.redeploy replacement) =
      (·.redeploy replacement) <$> recipe.build programs := by
  induction recipe with
  | new controller authority =>
    rw [build, build, Builder.new, Builder.new]
    exact Builder.make_redeploy _ _
  | ofId id authority => exact Builder.ofId_redeploy id
  | withPayer recipe payer ih =>
    -- it does not matter whether the payer or the programs are replaced first
    rw [build, ih, build, bind_map_left, map_bind]
    rfl

section SameController

variable {programs programs' : Programs} (same : programs.controller = programs'.controller)
  (recipe : Recipe)

include same

theorem Recipe.build_of_sameController :
    recipe.build programs' = (·.redeploy programs') <$> recipe.build programs := by
  rw [← build_redeploy, Programs.redeploy_eq same]

theorem Recipe.build_returns_of_sameController {builder : Builder}
    (made : (recipe.build programs).Returns builder) :
    (recipe.build programs').Returns (builder.redeploy programs') := by
  rw [recipe.build_of_sameController same, Logged.Returns, Logged.result_map, made]
  rfl

end SameController

end LiquidityController
