/-
This file says who owns the payload parameter once it is threaded: a bound is always on a type
parameter, and on one alone unless a synthesized parameter takes a name that is declared already.
-/

import InterfaceContract.Proofs.Block.Assembly
import InterfaceContract.Proofs.Contract.Assembly
import InterfaceContract.Proofs.List.Search

namespace InterfaceContract

namespace GenericParameter

def isLifetime : GenericParameter → Bool
  | .lifetime _ => true
  | _ => false

/-- The type and constant parameters, which share their names; lifetimes are named apart. -/
def owners (generics : List GenericParameter) : List GenericParameter :=
  generics.filter fun parameter => !parameter.isLifetime

def ownedNames (generics : List GenericParameter) : List String :=
  (owners generics).map name

variable {generics : List GenericParameter} {name : String} {fallback : Option TypeExpr}

theorem mem_owners_of_type (member : .type name fallback ∈ generics) :
    .type name fallback ∈ owners generics :=
  List.mem_filter.mpr ⟨member, rfl⟩

theorem ownedNames_append_type (generics : List GenericParameter) (name : String)
    (fallback : Option TypeExpr) :
    ownedNames (generics ++ [.type name fallback]) = ownedNames generics ++ [name] := by
  simp [ownedNames, owners, isLifetime, GenericParameter.name]

theorem nodup_ownedNames_append_type_iff (distinct : (ownedNames generics).Nodup) :
    (ownedNames (generics ++ [.type name fallback])).Nodup ↔ name ∉ ownedNames generics := by
  rw [ownedNames_append_type, ← List.concat_eq_append, List.nodup_concat]
  exact and_iff_left distinct

end GenericParameter

/-- The parameter that a requirement bounds, if it names one. -/
def Requirement.parameter? : Requirement → Option String
  | .scalarValue parameter | .dynamicValue parameter => some parameter
  | .shareable parameter => parameter

namespace ThreadedGenerics

/-- Each bound is on a type parameter. -/
def Bounded (threaded : ThreadedGenerics) : Prop :=
  ∀ requirement ∈ threaded.bounds, ∀ name ∈ requirement.parameter?,
    ∃ fallback, .type name fallback ∈ threaded.generics

/-- Bounds on one declared type parameter are on type parameters. -/
theorem bounded_of_forall_eq {threaded : ThreadedGenerics} {payload : String}
    (owned : ∃ fallback, .type payload fallback ∈ threaded.generics)
    (only : ∀ requirement ∈ threaded.bounds, ∀ name ∈ requirement.parameter?, name = payload) :
    threaded.Bounded := by
  intro requirement required name named
  rw [only requirement required name named]
  exact owned

/-- No name is owned twice, and each bound is on the one owner of its name, a type parameter. -/
structure OwnedOnce (threaded : ThreadedGenerics) : Prop where
  distinct : (GenericParameter.ownedNames threaded.generics).Nodup
  bounded : ∀ requirement ∈ threaded.bounds, ∀ name ∈ requirement.parameter?,
    ∃ fallback, (GenericParameter.owners threaded.generics).filter (·.name == name) =
      [.type name fallback]

/-- Where each bound is on a type parameter, only the names matter. -/
theorem Bounded.ownedOnce_iff {threaded : ThreadedGenerics} (bounded : threaded.Bounded) :
    threaded.OwnedOnce ↔ (GenericParameter.ownedNames threaded.generics).Nodup := by
  refine ⟨OwnedOnce.distinct, fun distinct => ⟨distinct, ?_⟩⟩
  intro requirement required name named
  obtain ⟨fallback, member⟩ := bounded requirement required name named
  exact ⟨fallback,
    filter_key_eq_singleton distinct (GenericParameter.mem_owners_of_type member)⟩

/-- The payload parameter among declared ones: it is owned once exactly if it is settled otherwise
than by synthesis, or the name that would be synthesized is not taken. -/
structure OwnedUnlessTaken (threaded : ThreadedGenerics) (declared : List GenericParameter)
    (settled : Prop) (synthesized : String) : Prop where
  bounded : threaded.Bounded
  ownedOnce_iff : threaded.OwnedOnce ↔
    settled ∨ synthesized ∉ GenericParameter.ownedNames declared

/-- A bound that names no parameter asks for none. -/
theorem Bounded.append {threaded : ThreadedGenerics} (bounded : threaded.Bounded)
    {others : List Requirement} (nameless : ∀ requirement ∈ others, requirement.parameter? = none) :
    Bounded ⟨threaded.generics, threaded.bounds ++ others⟩ := by
  intro requirement required name named
  cases List.mem_append.mp required with
  | inl ours => exact bounded requirement ours name named
  | inr other =>
      rw [nameless requirement other] at named
      cases named

end ThreadedGenerics

theorem Adaptation.parameter?_of_mem_asyncBounds (methods : List Method) :
    ∀ requirement ∈ asyncBounds methods, requirement.parameter? = none := by
  intro requirement required
  rw [asyncBounds] at required
  split at required
  · obtain rfl := List.mem_singleton.mp required
    rfl
  · cases required

namespace Scalar

/-- A type that names one of the type parameters. -/
def NamesParameter (type : TypeExpr) (generics : List GenericParameter) : Prop :=
  ∃ name, type.bareName? = some name ∧ ∃ fallback, .type name fallback ∈ generics

variable {type : TypeExpr} {override : Option TypeExpr} {generics : List GenericParameter}
  {options : CompilationOptions}

/-- What a directive can be resolved to among the declared parameters. -/
inductive Resolves (generics : List GenericParameter) (options : CompilationOptions) :
    Option TypeExpr → Scalar → Prop
  | explicit {type : TypeExpr} {name : String} {fallback : Option TypeExpr}
      (named : type.bareName? = some name) (declared : .type name fallback ∈ generics) :
      Resolves generics options (some type) (.explicit name)
  | concrete {type : TypeExpr} (foreign : ¬ NamesParameter type generics) :
      Resolves generics options (some type) (.concrete type)
  | implicit :
      Resolves generics options none (.implicit options.scalarParameter options.defaultScalar)

theorem boundParameter?_eq_some_iff {name : String} :
    boundParameter? type generics = some name ↔
      type.bareName? = some name ∧ ∃ fallback, .type name fallback ∈ generics := by
  simp only [boundParameter?, Option.bind_eq_bind, Option.bind_eq_some_iff, Option.pure_def,
    Option.some.injEq]
  constructor
  · rintro ⟨sought, bare, parameter, found, rfl⟩
    obtain ⟨isType, rfl⟩ : parameter.isType = true ∧ parameter.name = sought := by
      simpa using List.find?_some found
    cases parameter with
    | type name fallback => exact ⟨bare, fallback, List.mem_of_find?_eq_some found⟩
    | lifetime _ | constant _ _ => cases isType
  · rintro ⟨bare, fallback, declared⟩
    refine ⟨name, bare, ?_⟩
    cases found : generics.find? fun parameter => parameter.isType && parameter.name == name with
    | none =>
        have missed := List.find?_eq_none.mp found _ declared
        simp [GenericParameter.isType, GenericParameter.name] at missed
    | some parameter =>
        have fits : parameter.isType = true ∧ parameter.name = name := by
          simpa using List.find?_some found
        exact ⟨parameter, rfl, fits.2⟩

theorem not_namesParameter_of_boundParameter? (unbound : boundParameter? type generics = none) :
    ¬ NamesParameter type generics := by
  rintro ⟨name, named⟩
  rw [boundParameter?_eq_some_iff.mpr named] at unbound
  cases unbound

theorem resolves_resolve (override : Option TypeExpr) (generics : List GenericParameter)
    (options : CompilationOptions) :
    Resolves generics options override (resolve override generics options) := by
  cases override with
  | none => exact .implicit
  | some type =>
      rw [resolve]
      cases bound : boundParameter? type generics with
      | some name =>
          obtain ⟨named, fallback, declared⟩ := boundParameter?_eq_some_iff.mp bound
          exact .explicit named declared
      | none => exact .concrete (not_namesParameter_of_boundParameter? bound)

/-- What an implementation block is threaded to. -/
def threadBlock (scalar : Scalar) (generics : List GenericParameter) : ThreadedGenerics where
  generics := generics ++ scalar.blockParameters
  bounds := scalar.blockBounds

namespace Resolves

variable {scalar : Scalar}

/-- Both bounds of a contract are on its payload parameter, which is declared or gained. -/
theorem bounded_threadContract (resolves : Resolves generics options override scalar) :
    (scalar.threadContract generics options).Bounded := by
  have owned : ∃ fallback, .type (scalar.parameterName options) fallback ∈
      (scalar.threadContract generics options).generics := by
    cases resolves with
    | explicit _ declared => exact ⟨_, List.mem_append_left _ declared⟩
    | concrete _ | implicit => exact ⟨_, List.mem_append_right _ List.mem_cons_self⟩
  apply ThreadedGenerics.bounded_of_forall_eq owned
  simp [threadContract, Requirement.parameter?]

/-- The bounds of a block are on its payload parameter, unless the payload is one type. -/
theorem bounded_threadBlock (resolves : Resolves generics options override scalar) :
    (scalar.threadBlock generics).Bounded := by
  cases resolves with
  | explicit _ declared =>
      apply ThreadedGenerics.bounded_of_forall_eq ⟨_, List.mem_append_left _ declared⟩
      simp [threadBlock, blockBounds, Requirement.parameter?]
  | concrete _ => rintro requirement ⟨⟩
  | implicit =>
      apply ThreadedGenerics.bounded_of_forall_eq ⟨_, List.mem_append_right _ List.mem_cons_self⟩
      simp [threadBlock, blockBounds, Requirement.parameter?]

/-- A contract gains the synthesized name, unless it binds a parameter of its own. -/
theorem nodup_threadContract_iff (resolves : Resolves generics options override scalar)
    (distinct : (GenericParameter.ownedNames generics).Nodup) :
    (GenericParameter.ownedNames (scalar.threadContract generics options).generics).Nodup ↔
      (∃ type ∈ override, NamesParameter type generics) ∨
        options.scalarParameter ∉ GenericParameter.ownedNames generics := by
  cases resolves with
  | explicit named declared =>
      refine iff_of_true ?_ (.inl ⟨_, rfl, _, named, _, declared⟩)
      simpa [threadContract, contractParameters] using distinct
  | concrete foreign =>
      refine (GenericParameter.nodup_ownedNames_append_type_iff distinct).trans (or_iff_right ?_).symm
      rintro ⟨_, ⟨⟩, names⟩
      exact foreign names
  | implicit =>
      refine (GenericParameter.nodup_ownedNames_append_type_iff distinct).trans (or_iff_right ?_).symm
      rintro ⟨_, ⟨⟩, -⟩

/-- A block gains the synthesized name, unless it has a scalar directive. -/
theorem nodup_threadBlock_iff (resolves : Resolves generics options override scalar)
    (distinct : (GenericParameter.ownedNames generics).Nodup) :
    (GenericParameter.ownedNames (scalar.threadBlock generics).generics).Nodup ↔
      override.isSome ∨ options.scalarParameter ∉ GenericParameter.ownedNames generics := by
  cases resolves with
  | explicit _ _ | concrete _ =>
      refine iff_of_true ?_ (.inl rfl)
      simpa [threadBlock, blockParameters] using distinct
  | implicit =>
      refine (GenericParameter.nodup_ownedNames_append_type_iff distinct).trans (or_iff_right ?_).symm
      simp

end Resolves

end Scalar

/-- The generics of a compiled contract with all its bounds. -/
def CompiledContract.threaded (contract : CompiledContract) : ThreadedGenerics :=
  ⟨contract.model.generics, contract.adaptation.bounds⟩

def CompiledBlock.threaded (compiled : CompiledBlock) : ThreadedGenerics :=
  ⟨compiled.generics, compiled.bounds⟩

/-- Whoever compiles under these settings owns the payload parameter once, unless the parameter is
synthesized under a name that is taken. A contract settles its parameter by a directive that names
one of its own; a block does by any directive. -/
theorem CompilationOptions.payload_ownedUnlessTaken (options : CompilationOptions) :
    (∀ (declaration : ContractDeclaration) (contract : CompiledContract),
      (GenericParameter.ownedNames declaration.generics).Nodup →
      declaration.compile options = .compiled contract →
      ∃ directives, declaration.directives = .found directives ∧
        contract.threaded.OwnedUnlessTaken declaration.generics
          (∃ directive ∈ directives.scalar,
            Scalar.NamesParameter directive.value declaration.generics)
          options.scalarParameter) ∧
    ∀ (block : ImplementationBlock) (compiled : CompiledBlock),
      (GenericParameter.ownedNames block.generics).Nodup →
      block.compile options = .compiled compiled →
      ∃ directives, block.directives = .found directives ∧
        compiled.threaded.OwnedUnlessTaken block.generics directives.scalar.isSome
          options.scalarParameter := by
  constructor
  · intro declaration contract distinct compiled
    obtain ⟨directives, found, -, rfl⟩ := ContractDeclaration.clean_of_compiled compiled
    have resolves := Scalar.resolves_resolve (directives.scalar.map (·.value))
      declaration.generics options
    have bounded := resolves.bounded_threadContract.append
      (Adaptation.parameter?_of_mem_asyncBounds declaration.methods)
    refine ⟨directives, found, bounded, bounded.ownedOnce_iff.trans ?_⟩
    simpa using resolves.nodup_threadContract_iff distinct
  · intro block compiled distinct succeeded
    obtain ⟨directives, found, rfl⟩ := ImplementationBlock.compile_eq_compiled_iff.mp succeeded
    have resolves := Scalar.resolves_resolve (directives.scalar.map (·.value))
      block.generics options
    have bounded := resolves.bounded_threadBlock
    refine ⟨directives, found, bounded, bounded.ownedOnce_iff.trans ?_⟩
    simpa using resolves.nodup_threadBlock_iff distinct

section

/-- Synthesizes the payload parameter under a name that declarations use too. -/
def shortPayload : CompilationOptions where
  scalarParameter := "S"

def characterPath : NamedType :=
  ⟨"Character", []⟩

/-- The directive binds a declared parameter, and a default body may be suspended. -/
def boundPayload : ContractDeclaration :=
  .ofOutline "Character" {
    generics := [.lifetime "a", .type "S" none, .constant "N" (.named "usize")]
    directives := { scalar := some ⟨.named "S", ⟨1, 5⟩⟩ }
    items := [.method (.ofOutline "home_planet" { isAsync := true, hasDefault := true })] }

/-- A lifetime has the name of the parameter that is synthesized. -/
def lifetimePayload : ImplementationBlock :=
  .ofOutline characterPath (.named "Human") {
    generics := [.lifetime "S", .constant "N" (.named "usize")] }

theorem payload_ownedUnlessTaken_short :
    ((GenericParameter.ownedNames boundPayload.generics).Nodup ∧
      ∃ contract, boundPayload.compile shortPayload = .compiled contract ∧
        contract.threaded.OwnedOnce) ∧
    (GenericParameter.ownedNames lifetimePayload.generics).Nodup ∧
      ∃ compiled, lifetimePayload.compile shortPayload = .compiled compiled ∧
        compiled.threaded.OwnedOnce := by
  obtain ⟨contracts, blocks⟩ := shortPayload.payload_ownedUnlessTaken
  have boundDistinct : (GenericParameter.ownedNames boundPayload.generics).Nodup := by decide
  have bound : boundPayload.compile shortPayload = .compiled (boundPayload.assembled _ _) :=
    ContractDeclaration.compile_eq_compiled_iff.mpr
      ⟨_, rfl, by decide +kernel, by decide +kernel, rfl⟩
  have free : (GenericParameter.ownedNames lifetimePayload.generics).Nodup := by decide
  have synthesized : lifetimePayload.compile shortPayload =
      .compiled (lifetimePayload.assembled _ _) :=
    ImplementationBlock.compile_of_found rfl shortPayload
  refine ⟨⟨boundDistinct, _, bound, ?_⟩, free, _, synthesized, ?_⟩
  · obtain ⟨directives, found, owned⟩ := contracts boundPayload _ boundDistinct bound
    cases found
    refine owned.ownedOnce_iff.mpr (.inl ⟨_, rfl, "S", by decide +kernel, none, ?_⟩)
    exact List.mem_cons_of_mem _ List.mem_cons_self
  · obtain ⟨directives, -, owned⟩ := blocks lifetimePayload _ free synthesized
    exact owned.ownedOnce_iff.mpr (.inr (by decide))

/-- The name that is synthesized is declared already, and no directive binds it. -/
def takenPayload : ContractDeclaration :=
  .ofOutline "Character" { generics := [.type "S" none] }

def takenBlockPayload : ImplementationBlock :=
  .ofOutline characterPath (.named "Human") { generics := [.type "S" none] }

/-- A parameter that is declared is synthesized once more. -/
theorem takenPayload_not_nodup :
    ((GenericParameter.ownedNames takenPayload.generics).Nodup ∧
      ∃ contract, takenPayload.compile shortPayload = .compiled contract ∧
        ¬ (GenericParameter.ownedNames contract.model.generics).Nodup) ∧
    (GenericParameter.ownedNames takenBlockPayload.generics).Nodup ∧
      ∃ compiled, takenBlockPayload.compile shortPayload = .compiled compiled ∧
        ¬ (GenericParameter.ownedNames compiled.generics).Nodup := by
  refine ⟨⟨by decide, takenPayload.assembled {} shortPayload, ?_, by decide +kernel⟩,
    by decide, takenBlockPayload.assembled {} shortPayload, ?_, by decide⟩
  · exact ContractDeclaration.compile_eq_compiled_iff.mpr
      ⟨_, rfl, by decide +kernel, by decide +kernel, rfl⟩
  · exact ImplementationBlock.compile_of_found rfl shortPayload

end

end InterfaceContract
