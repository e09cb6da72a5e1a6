/-
This file shows that contracts and the blocks that implement them thread the payload alike, so that the
path of a compiled block fits the generics of its contract.
-/

import InterfaceContract.Proofs.Contract.Dispatch
import InterfaceContract.Proofs.Scalar.Ownership

namespace InterfaceContract

namespace Scalar

/-- The parameter that a contract gains for its payload, beside the argument that its path gains in a
block with the given generics. Where there is an argument, it gives the parameter the payload. -/
inductive GainedAlike (generics : List GenericParameter) :
    Scalar → List GenericParameter → List TypeArgument → Prop where
  /-- The argument is the default of the parameter. -/
  | concrete {type : TypeExpr} {parameter : String} :
      GainedAlike generics (.concrete type) [.type parameter (some type)] [.type type]
  | explicit {parameter : String} : GainedAlike generics (.explicit parameter) [] []
  /-- The argument refers to a parameter of the same name, which the block has too. -/
  | implicit {parameter : String} {fallback : TypeExpr} (own : .type parameter none ∈ generics) :
      GainedAlike generics (.implicit parameter fallback) [.type parameter (some fallback)]
        [.type (.named parameter)]

theorem gainedAlike (scalar : Scalar) (generics : List GenericParameter)
    (options : CompilationOptions) :
    GainedAlike (generics ++ scalar.blockParameters) scalar (scalar.contractParameters options)
      scalar.pathArguments := by
  cases scalar with
  | concrete type => exact .concrete
  | explicit parameter => exact .explicit
  | implicit parameter fallback =>
      exact .implicit (List.mem_append_right generics List.mem_cons_self)

variable {scalar : Scalar} {generics parameters : List GenericParameter}
  {arguments : List TypeArgument}

/-- One argument is gained for one parameter. -/
theorem GainedAlike.length_eq (gained : GainedAlike generics scalar parameters arguments) :
    arguments.length = parameters.length := by
  cases gained with
  | concrete => rfl
  | explicit => rfl
  | implicit own => rfl

end Scalar

/-- A compiled contract and a compiled block agree on a payload if the path that the block implements
fits the generics of the contract, and if behind what was declared both gain the same. -/
structure ThreadedAlike (declaration : ContractDeclaration) (contract : CompiledContract)
    (block : ImplementationBlock) (compiled : CompiledBlock) (scalar : Scalar) : Prop where
  ofContract : contract.model.scalar = scalar
  ofBlock : compiled.scalar = scalar
  arity : compiled.contract.arguments.length = contract.model.generics.length
  gained : ∃ parameters arguments,
    contract.model.generics = declaration.generics ++ parameters ∧
      compiled.contract.arguments = block.contract.arguments ++ arguments ∧
      Scalar.GainedAlike compiled.generics scalar parameters arguments

/-- What is assembled under one payload agrees on it. -/
theorem threadedAlike_assembled {declaration : ContractDeclaration} {block : ImplementationBlock}
    {options : CompilationOptions} {directives : ContractDirectives}
    {blockDirectives : ImplementationDirectives} {scalar : Scalar}
    (resolved :
      Scalar.resolve (directives.scalar.map (·.value)) declaration.generics options = scalar)
    (blockResolved :
      Scalar.resolve (blockDirectives.scalar.map (·.value)) block.generics options = scalar)
    (fits : block.contract.arguments.length = declaration.generics.length) :
    ThreadedAlike declaration (declaration.assembled directives options) block
      (block.assembled blockDirectives options) scalar := by
  have generics : (declaration.assembled directives options).model.generics =
      declaration.generics ++ scalar.contractParameters options := by
    rw [← resolved]
    rfl
  have assembled : block.assembled blockDirectives options =
      .ofParts (.ofBlock block scalar)
        (.ofMethods blockDirectives.asynchronous.isSome block.methods) := by
    rw [ImplementationBlock.assembled, blockResolved]
  have gained := scalar.gainedAlike block.generics options
  rw [assembled]
  refine ⟨resolved, rfl, ?_, _, _, generics, rfl, gained⟩
  calc (block.contract.arguments ++ scalar.pathArguments).length
      = block.contract.arguments.length + scalar.pathArguments.length := List.length_append
    _ = declaration.generics.length + (scalar.contractParameters options).length := by
        rw [fits, gained.length_eq]
    _ = (declaration.assembled directives options).model.generics.length := by
        rw [generics, List.length_append]

/-- Contracts and blocks thread the payload on their own. If the block gives an argument for each
parameter of the contract and their directives come to the same payload, they agree on it. -/
theorem compile_threadedAlike {declaration : ContractDeclaration} {contract : CompiledContract}
    {block : ImplementationBlock} {compiled : CompiledBlock} {options : CompilationOptions}
    {directives : ContractDirectives} {blockDirectives : ImplementationDirectives}
    (contractCompiled : declaration.compile options = .compiled contract)
    (blockCompiled : block.compile options = .compiled compiled)
    (found : declaration.directives = .found directives)
    (blockFound : block.directives = .found blockDirectives)
    (fits : block.contract.arguments.length = declaration.generics.length)
    (same : Scalar.resolve (blockDirectives.scalar.map (·.value)) block.generics options =
      Scalar.resolve (directives.scalar.map (·.value)) declaration.generics options) :
    ThreadedAlike declaration contract block compiled
      (Scalar.resolve (directives.scalar.map (·.value)) declaration.generics options) := by
  obtain ⟨_, foundToo, -, rfl⟩ := ContractDeclaration.clean_of_compiled contractCompiled
  obtain rfl := Extraction.found.inj (found.symm.trans foundToo)
  obtain ⟨_, blockFoundToo, rfl⟩ := ImplementationBlock.compile_eq_compiled_iff.mp blockCompiled
  obtain rfl := Extraction.found.inj (blockFound.symm.trans blockFoundToo)
  exact threadedAlike_assembled rfl same fits

/-- Neither the sample contract nor this block of it names its payload. -/
theorem compile_threadedAlike_character :
    character.compile = .compiled characterContract ∧
      lifetimePayload.compile = .compiled (lifetimePayload.assembled {} {}) ∧
      lifetimePayload.contract.arguments.length = character.generics.length ∧
      ThreadedAlike character characterContract lifetimePayload (lifetimePayload.assembled {} {})
        (.implicit "__S" (.named "DefaultScalarValue")) := by
  have blockCompiled : lifetimePayload.compile = .compiled (lifetimePayload.assembled {} {}) :=
    ImplementationBlock.compile_of_found rfl {}
  exact ⟨compile_character, blockCompiled, rfl,
    compile_threadedAlike compile_character blockCompiled rfl rfl rfl rfl⟩

end InterfaceContract
