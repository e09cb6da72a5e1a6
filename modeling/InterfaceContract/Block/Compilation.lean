/-
This file compiles the blocks that implement contracts.
-/

import InterfaceContract.Contract.Compiled
import InterfaceContract.Pipeline.EditingHook
import InterfaceContract.TypeExpr.Rendering

namespace InterfaceContract

namespace ThreadedBlock

/-- The block gains a synthesized parameter, and its contract gains the payload as an argument. -/
def ofBlock (block : ImplementationBlock) (scalar : Scalar) : ThreadedBlock where
  scalar := scalar
  generics := block.generics ++ scalar.blockParameters
  bounds := scalar.blockBounds
  contract := { block.contract with arguments := block.contract.arguments ++ scalar.pathArguments }

end ThreadedBlock

namespace CompiledBlock

def ofParts (block : ThreadedBlock) (adaptation : Adaptation) : CompiledBlock where
  scalar := block.scalar
  generics := block.generics
  contract := block.contract
  bounds := block.bounds
  asynchronous := adaptation.asynchronous
  methods := adaptation.methods

end CompiledBlock

namespace ImplementationBlock

/-- The name by which reports call the contract of a block. -/
def contractName (block : ImplementationBlock) : String :=
  block.contract.render

def readDirectives (block : ImplementationBlock) : Stopping ImplementationDirectives :=
  match block.directives with
  | .failed failure => do
      Reporting.report (.directiveFailure failure)
      Stopping.stop
  | .found directives => pure directives

/-- The stages of a block compilation. -/
def pipeline (block : ImplementationBlock) (options : CompilationOptions) :
    Pipeline StageResult CompiledBlock := do
  let directives ← .single .options block.readDirectives .blockOptions
  let threaded ←
    .single .scalar
      (pure (ThreadedBlock.ofBlock block
        (Scalar.resolve (directives.scalar.map (·.value)) block.generics options)))
      .blockScalar
  let adaptation ←
    .single .async (pure (Adaptation.ofMethods directives.asynchronous.isSome block.methods)) .async
  .single .assemble (pure (CompiledBlock.ofParts threaded adaptation)) .assembleBlock

/-- Compiles an implementation block. -/
def compile (block : ImplementationBlock) (options : CompilationOptions := {}) :
    Compilation CompiledBlock :=
  .ofPipeline (block.pipeline options)

/-- Compiles an implementation block under hooks. -/
def compileWatched {ω : Type} (hooks : List (Hook StageResult ω)) (world : ω)
    (block : ImplementationBlock) (options : CompilationOptions := {}) :
    Except HookError (Compilation CompiledBlock) × Session ω :=
  Compilation.watch hooks block.contractName world (block.pipeline options)

/-- Compiles an implementation block under hooks that may write into its diagnostics. -/
def compileEdited {ω : Type} (hooks : List (EditingHook StageResult ω)) (world : ω)
    (block : ImplementationBlock) (options : CompilationOptions := {}) :
    Except HookError (Compilation CompiledBlock) × Session ω :=
  Compilation.watchEdited hooks block.contractName world (block.pipeline options)

/-- Compiles an implementation block or fails with its diagnostics. -/
def compile? (block : ImplementationBlock) (options : CompilationOptions := {}) :
    Except CompilationFailure CompiledBlock :=
  (block.compile options).toExcept block.contractName

end ImplementationBlock

end InterfaceContract
