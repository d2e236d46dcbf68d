import LiquidityController.Proofs.Builder.Recipes
import LiquidityController.Proofs.Environment.Overrides

/-!
# Environments from documents

What a document has to say to describe an environment, and which environment it describes, when its
table names the network by a text. The reader of TOML is taken as it is: the text has a document and
the document a table.

## Main result

`Environment.parse_exact`: a document is accepted exactly if it names a network and overrides
programs that exist with addresses that are well-formed, and then exactly these are overridden.
-/

namespace LiquidityController

theorem Network.ofName?_eq_some_iff {name : String} {network : Network} :
    Network.ofName? name = some network ↔ network.name = name := by
  constructor
  · intro found
    simpa using List.find?_some found
  · rintro rfl
    cases network <;> decide +kernel

theorem Network.exists_name_iff {name : String} :
    (∃ network : Network, network.name = name) ↔ name ∈ ["mainnet", "devnet", "localnet"] := by
  simp only [List.mem_cons, List.not_mem_nil, or_false]
  constructor
  · rintro ⟨network, rfl⟩
    cases network with
    | mainnet => exact .inl rfl
    | devnet => exact .inr (.inl rfl)
    | localnet => exact .inr (.inr rfl)
  · rintro (rfl | rfl | rfl)
    · exact ⟨.mainnet, rfl⟩
    · exact ⟨.devnet, rfl⟩
    · exact ⟨.localnet, rfl⟩

namespace Environment

/-- The text is that of a document whose table names the network by a text and has at most one value
for the programs. Nothing is said about the other entries of the table. -/
inductive Describes (text network : String) (programs : Option Toml.Value) : Prop
  | intro (document : Toml.Document) (entries : Toml.Entries)
    (parsed : Toml.Document.parse? text = some document)
    (table : document.table? = some entries)
    (network : entries.filter (·.1 == "network") = [("network", .text network)])
    (programs : entries.filter (·.1 == "programs") = programs.toList.map ("programs", ·))

/-- The address that the programs of a document give for one of them. -/
def Given (programs : Option Toml.Value) (program : Program) (address : Address) : Prop :=
  ∃ value ∈ programs, value.Gives program address

/-- The environment is on the network, with every program at the address that is given for it, or
else at that of the public deployment. -/
structure Realises (environment : Environment) (network : String) (programs : Option Toml.Value) :
    Prop where
  network : environment.network.name = network
  given : ∀ program address, Given programs program address →
    environment.programs.get program = address
  other : ∀ program, (¬ ∃ address, Given programs program address) →
    environment.programs.get program = program.mainnet

/-- Two ways to write the same overrides. -/
inductive Alike : Option Toml.Value → Option Toml.Value → Prop
  | same (programs : Option Toml.Value) : Alike programs programs
  /-- The names of a table may stand in any order, and the table may be written in any way. -/
  | reordered (origin origin' : Toml.Origin) {entries entries' : Toml.Entries}
    (order : entries.Perm entries') :
    Alike (some (.table origin entries)) (some (.table origin' entries'))
  /-- An array gives its items to the first programs. -/
  | positional (origin : Toml.Origin) (items : List Toml.Value) (fits : items.length ≤ 8) :
    Alike (some (.array items)) (some (.table origin (Overrides.tableOf items)))

/-! ### The table of a document -/

/-- A document of one header only has a table, not a text, under the name of the header. -/
theorem ofSoleHeader?_eq_none {document : Toml.Document} {entries : Toml.Entries} {name : String}
    (table : document.table? = some entries)
    (network : entries.filter (·.1 == "network") = [("network", .text name)]) :
    Network.ofSoleHeader? document = none := by
  obtain ⟨own, sections⟩ := document
  rw [Network.ofSoleHeader?]
  split
  next path repeated outer inner =>
    simp only at outer inner
    subst outer inner
    cases path with
    | nil => rfl
    | cons part path =>
      -- the last part of the header names a table in the table that its first part names
      obtain ⟨inner, -, rfl⟩ : ∃ inner, Toml.Entries.place [] repeated (part :: path) [] =
          some inner ∧ [("network", .table .outerHeader inner)] = entries := by
        simpa [Toml.Document.table?, Toml.Entries.place, Toml.Entries.updatePlaced] using table
      simp at network
  next => rfl

theorem atMostOne?_of_filter {entries : Toml.Entries} {name : String} {value : Option Toml.Value}
    (only : entries.filter (·.1 == name) = value.toList.map (name, ·)) :
    entries.atMostOne? name = some value := by
  rw [Toml.Entries.atMostOne?, only]
  cases value <;> rfl

/-- The overrides that the programs of a document describe. -/
def overrides? : Option Toml.Value → Option Overrides
  | none => some .empty
  | some value => Overrides.ofValue? value

/-- Only the network and the programs of a document matter. -/
theorem parse_eq {text network : String} {programs : Option Toml.Value}
    (described : Describes text network programs) :
    parse text =
      match Network.ofName? network, overrides? programs with
      | some network, some overrides => ofChoices network overrides
      | _, _ => .ofExcept (.error .malformed) := by
  obtain ⟨document, entries, parsed, table, named, overridden⟩ := described
  have network? : entries.atMostOne? "network" = some (some (.text network)) :=
    atMostOne?_of_filter named
  have programs? : entries.atMostOne? "programs" = some programs :=
    atMostOne?_of_filter overridden
  -- the table decides, although a document may also choose a network by its only header
  have choices : ofDocument? document = choices? entries := by
    rw [ofDocument?, ofSoleHeader?_eq_none table named, table]
    rfl
  rw [parse, parsed, Option.bind_eq_bind, Option.bind_some, choices, choices?, network?, programs?]
  simp only [Option.bind_eq_bind, Option.bind_some, Network.ofValue?]
  cases Network.ofName? network with
  | none => rfl
  | some known =>
    cases programs with
    | none => rfl
    | some value =>
      simp only [overrides?, Option.bind_some]
      cases Overrides.ofValue? value <;> rfl

/-! ### Choices -/

theorem exists_overrides?_iff {programs : Option Toml.Value} :
    (∃ overrides, overrides? programs = some overrides) ↔
      ∀ value ∈ programs, value.OverridesPrograms := by
  cases programs with
  | none => simp [overrides?]
  | some value => simp [overrides?, Overrides.exists_ofValue?_iff]

theorem given_of_overrides? {programs : Option Toml.Value} {overrides : Overrides}
    (read : overrides? programs = some overrides) (program : Program) (address : Address) :
    overrides program = some address ↔ Given programs program address := by
  cases programs with
  | none =>
    cases read
    simp [Given, Overrides.empty]
  | some value => simp [Given, Overrides.gives_of_ofValue? read]

theorem overrides?_congr {programs programs' : Option Toml.Value}
    (accepted : (∀ value ∈ programs, value.OverridesPrograms) ↔
      ∀ value ∈ programs', value.OverridesPrograms)
    (given : ∀ program address, Given programs program address ↔ Given programs' program address) :
    overrides? programs = overrides? programs' := by
  rw [← exists_overrides?_iff, ← exists_overrides?_iff] at accepted
  cases read : overrides? programs with
  | none => cases read' : overrides? programs' with
    | none => rfl
    | some overrides' => simp [read, read'] at accepted
  | some overrides => cases read' : overrides? programs' with
    | none => simp [read, read'] at accepted
    | some overrides' =>
      refine congrArg some (funext fun program => Option.ext fun address => ?_)
      rw [given_of_overrides? read, given_of_overrides? read', given]

theorem overrides?_of_alike {programs programs' : Option Toml.Value}
    (alike : Alike programs programs') : overrides? programs = overrides? programs' := by
  cases alike with
  | same => rfl
  | reordered origin origin' order =>
    refine overrides?_congr ?_ fun program address => ?_
    · simp [Toml.Value.OverridesPrograms, order.mem_iff, (order.map Prod.fst).nodup_iff]
    · simp [Given, Toml.Value.Gives, order.mem_iff]
  | positional origin items fits =>
    rw [overrides?, overrides?, Overrides.ofValue?, Overrides.ofValue?, Overrides.ofItems?_eq,
      if_pos fits]

theorem isEmpty_iff {overrides : Overrides} :
    overrides.isEmpty = true ↔ ¬ ∃ program address, overrides program = some address := by
  rw [Overrides.isEmpty, List.all_eq_true]
  constructor
  · rintro none ⟨program, address, found⟩
    have absent := none program program.mem_all
    rw [found] at absent
    cases absent
  · intro none program _
    rw [Option.isNone_iff_eq_none, Option.eq_none_iff_forall_ne_some]
    exact fun address found => none ⟨program, address, found⟩

theorem ofChoices_eq (network : Network) (overrides : Overrides) :
    ofChoices network overrides =
      ⟨if overrides.isEmpty then [] else [.overridesRead network overrides],
        .ok ⟨network, overrides.apply .mainnet⟩⟩ := by
  rw [ofChoices]
  cases overrides.isEmpty <;> rfl

theorem get_apply (overrides : Overrides) (program : Program) :
    (overrides.apply .mainnet).get program = (overrides program).getD program.mainnet := by
  rw [Overrides.apply, Programs.get_ofFn, Programs.mainnet, Programs.get_ofFn]

theorem realises_of_overrides? (known : Network) {programs : Option Toml.Value}
    {overrides : Overrides} (read : overrides? programs = some overrides) :
    Realises ⟨known, overrides.apply .mainnet⟩ known.name programs where
  network := rfl
  given program address named := by
    rw [get_apply, (given_of_overrides? read program address).mpr named, Option.getD_some]
  other program nothing := by
    have absent : overrides program = none := by
      rw [Option.eq_none_iff_forall_ne_some]
      exact fun address found =>
        nothing ⟨address, (given_of_overrides? read program address).mp found⟩
    rw [get_apply, absent, Option.getD_none]

theorem ofChoices_returns {network : Network} {overrides : Overrides} {environment : Environment} :
    (ofChoices network overrides).Returns environment ↔
      ⟨network, overrides.apply .mainnet⟩ = environment := by
  rw [ofChoices_eq, Logged.Returns, Except.ok.injEq]

/-- A document is accepted if its network is known and its overrides are, and else it is refused
without an event. -/
theorem parse_cases {text network : String} {programs : Option Toml.Value}
    (described : Describes text network programs) :
    (∃ (known : Network) (overrides : Overrides), known.name = network ∧
      overrides? programs = some overrides ∧ parse text = ofChoices known overrides) ∨
    (¬ ((∃ known : Network, known.name = network) ∧
      ∃ overrides, overrides? programs = some overrides) ∧
      parse text = .ofExcept (.error .malformed)) := by
  rw [parse_eq described]
  simp only [← Network.ofName?_eq_some_iff]
  cases Network.ofName? network <;> cases overrides? programs <;> simp

/-! ### Main theorem -/

/-- A document is accepted exactly if it names one of the networks, and overrides nothing or
programs that exist with well-formed addresses. Each program then has the address that is given for
it, or else that of the public deployment, and the builders of the environment target these
programs. The overrides are reported if there are any. How they are written does not matter, and
neither does anything else in the document. -/
theorem parse_exact {text network : String} {programs : Option Toml.Value}
    (described : Describes text network programs) :
    ((∃ environment, (parse text).Returns environment) ↔
      network ∈ ["mainnet", "devnet", "localnet"] ∧
        ∀ value ∈ programs, value.OverridesPrograms) ∧
    (∀ environment, (parse text).Returns environment →
      environment.Realises network programs ∧
      (∀ id authority builder, (environment.builder id authority).Returns builder →
        builder.programs = environment.programs) ∧
      ((∃ program address, Given programs program address) → ∃ overrides : Overrides,
        (∀ program address,
          overrides program = some address ↔ Given programs program address) ∧
        (parse text).events = [.overridesRead environment.network overrides] ∧
        (Event.overridesRead environment.network overrides).level = .info) ∧
      ((¬ ∃ program address, Given programs program address) → (parse text).events = [])) ∧
    ((¬ ∃ environment, (parse text).Returns environment) → (parse text).events = []) ∧
    ∀ text' programs', Describes text' network programs' → Alike programs programs' →
      parse text' = parse text := by
  have alike : ∀ text' programs', Describes text' network programs' → Alike programs programs' →
      parse text' = parse text := by
    intro text' programs' described' alike
    rw [parse_eq described, parse_eq described', overrides?_of_alike alike]
  obtain ⟨known, overrides, rfl, read, parsed⟩ | ⟨refused, parsed⟩ := parse_cases described
  · have given := given_of_overrides? read
    have result : ∀ environment, (parse text).Returns environment ↔
        ⟨known, overrides.apply .mainnet⟩ = environment := by
      intro environment
      rw [parsed, ofChoices_returns]
    have returned := (result _).mpr rfl
    -- the report looks at the overrides that were read, the statement at the document
    have silent : overrides.isEmpty = true ↔
        ¬ ∃ program address, Given programs program address := by
      simp only [isEmpty_iff, given]
    refine ⟨⟨fun _ => ?_, fun _ => ⟨_, returned⟩⟩, ?_, fun none => absurd ⟨_, returned⟩ none, alike⟩
    · exact ⟨Network.exists_name_iff.mp ⟨known, rfl⟩, exists_overrides?_iff.mp ⟨overrides, read⟩⟩
    intro environment made
    obtain rfl := (result environment).mp made
    refine ⟨realises_of_overrides? known read, ?_, ?_, ?_⟩
    · intro id authority builder built
      exact Recipe.programs_of_build (.ofId id authority) built
    · intro named
      refine ⟨overrides, given, ?_, rfl⟩
      rw [parsed, ofChoices_eq]
      exact if_neg fun empty => silent.mp empty named
    · intro nothing
      rw [parsed, ofChoices_eq]
      exact if_pos (silent.mpr nothing)
  · have fails : ¬ ∃ environment, (parse text).Returns environment := by
      rintro ⟨environment, made⟩
      rw [parsed] at made
      cases made
    refine ⟨⟨fun made => absurd made fails, ?_⟩, fun environment made => absurd ⟨_, made⟩ fails,
      fun _ => by rw [parsed]; rfl, alike⟩
    rintro ⟨listed, overriding⟩
    exact absurd ⟨Network.exists_name_iff.mpr listed, exists_overrides?_iff.mpr overriding⟩ refused

/-- A document that moves the exchange of the network for development. -/
def movedExchange : String :=
  "network = \"devnet\"\n[programs]\ndrift = \"11111111111111111111111111111111\"\n"

theorem describes_movedExchange :
    Describes movedExchange "devnet"
      (some (.table .header [("drift", .text "11111111111111111111111111111111")])) := by
  have folded : Toml.Token.foldLineEnds (Toml.Token.dropByteOrderMark movedExchange.toList) =
      movedExchange.toList := by decide +kernel
  have length : movedExchange.toList.length = 73 := by decide +kernel
  have tokens : Toml.Token.scan movedExchange.toList = [
      .word "network".toList, .blank [' '], .equals, .blank [' '],
      .quoted "devnet".toList false, .newline,
      .leftBracket, .word "programs".toList, .rightBracket, .newline,
      .word "drift".toList, .blank [' '], .equals, .blank [' '],
      .quoted "11111111111111111111111111111111".toList false, .newline] := by decide +kernel
  have parsed : Toml.Document.parse? movedExchange = some
      ⟨[("network", .text "devnet")],
        [⟨["programs"], false, [("drift", .text "11111111111111111111111111111111")]⟩]⟩ := by
    simp only [Toml.Document.parse?, folded, length, tokens]
    rfl
  exact ⟨_, _, parsed, rfl, rfl, rfl⟩

/-- The exchange is at the address that the document gives, and the controller where it was. -/
theorem parse_exact_of_moved_exchange :
    ∃ environment, (parse movedExchange).Returns environment ∧
      environment.network.name = "devnet" ∧ environment.programs.get .drift = .zero ∧
      environment.programs.get .controller = Program.controller.mainnet := by
  obtain ⟨accepted, exact, -⟩ := parse_exact describes_movedExchange
  have names : (Toml.Value.text "11111111111111111111111111111111").Names .zero :=
    ⟨_, rfl, by decide +kernel, by decide +kernel⟩
  have overriding : (Toml.Value.table .header
      [("drift", .text "11111111111111111111111111111111")]).OverridesPrograms := by
    refine ⟨List.nodup_singleton _, fun name value member => ?_⟩
    cases List.mem_singleton.mp member
    exact ⟨⟨.drift, rfl⟩, .zero, names⟩
  obtain ⟨environment, made⟩ := accepted.mpr ⟨by simp, by simpa using overriding⟩
  obtain ⟨⟨network, given, other⟩, -⟩ := exact environment made
  refine ⟨environment, made, network, given .drift .zero ?_, other .controller ?_⟩
  · exact ⟨_, rfl, _, List.mem_singleton.mpr rfl, names⟩
  · rintro ⟨address, _, ⟨⟩, item, member, -⟩
    have differ : Program.controller.name ≠ "drift" := by decide +kernel
    exact differ (congrArg Prod.fst (List.mem_singleton.mp member))

end Environment

end LiquidityController
