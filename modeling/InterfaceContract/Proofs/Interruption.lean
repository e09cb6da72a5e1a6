/-
This file says that hooks which raise something cut a compilation short at the first such call.
-/

import InterfaceContract.Block.Compilation
import InterfaceContract.Proofs.Contract.Reports
import InterfaceContract.Proofs.Pipeline.Interruption

namespace InterfaceContract

variable {ω : Type}

namespace ContractDeclaration

/-- The calls of hooks in the compilation of a contract, as they are made while nothing is raised. -/
def hookMoments (declaration : ContractDeclaration) (hooks : List (RaisingHook StageResult ω))
    (options : CompilationOptions) : List (HookMoment StageResult) :=
  ((declaration.pipeline options).timedRuns {}).flatMap (RaisingHook.momentsAround hooks)

/-- The compilation of a contract is interrupted as it should be. -/
def InterruptedBy (hooks : List (RaisingHook StageResult ω)) (world : ω)
    (options : CompilationOptions) (declaration : ContractDeclaration) : Prop :=
  Compilation.Interrupted (declaration.hookMoments hooks options) (declaration.compile options)
    (declaration.compileWatched (Hook.recordAll (hooks.map RaisingHook.calm)) ([], world) options)
    (declaration.compileWatched ((hooks.map RaisingHook.recorded).map RaisingHook.acting)
      ([], world) options)
    (declaration.compileWatched (hooks.map RaisingHook.acting) world options)

end ContractDeclaration

namespace ImplementationBlock

/-- The calls of hooks in the compilation of a block, as they are made while nothing is raised. -/
def hookMoments (block : ImplementationBlock) (hooks : List (RaisingHook StageResult ω))
    (options : CompilationOptions) : List (HookMoment StageResult) :=
  ((block.pipeline options).timedRuns {}).flatMap (RaisingHook.momentsAround hooks)

/-- The compilation of a block is interrupted as it should be. -/
def InterruptedBy (hooks : List (RaisingHook StageResult ω)) (world : ω)
    (options : CompilationOptions) (block : ImplementationBlock) : Prop :=
  Compilation.Interrupted (block.hookMoments hooks options) (block.compile options)
    (block.compileWatched (Hook.recordAll (hooks.map RaisingHook.calm)) ([], world) options)
    (block.compileWatched ((hooks.map RaisingHook.recorded).map RaisingHook.acting)
      ([], world) options)
    (block.compileWatched (hooks.map RaisingHook.acting) world options)

end ImplementationBlock

namespace RaisingHook

/-- Whatever hooks raise at whichever calls, every compilation is cut at the first call that raises
something and comes to what is raised there, of contracts and of implementation blocks. -/
theorem interrupt_compilations (hooks : List (RaisingHook StageResult ω)) (world : ω)
    (options : CompilationOptions) :
    (∀ declaration : ContractDeclaration, declaration.InterruptedBy hooks world options) ∧
      ∀ block : ImplementationBlock, block.InterruptedBy hooks world options :=
  ⟨fun declaration => Compilation.interrupted hooks declaration.ident world _,
    fun block => Compilation.interrupted hooks block.contractName world _⟩

/-- Stops a compilation once the methods are classified. -/
def classifiedOnly : RaisingHook StageResult Nat where
  name := "classifiedOnly"
  hook := ContractDeclaration.countingHook
  quiet := ContractDeclaration.countingHook_quiet
  raises call := if call.stage = .classify ∧ call.ending.isSome then some .stop else none

/-- The downcasts of the contract are no longer looked at: six calls are made, the last one stops, and
by then two reports are recorded. -/
theorem interrupt_compilations_classifiedOnly :
    ((∀ declaration : ContractDeclaration, declaration.InterruptedBy [classifiedOnly] 0 {}) ∧
        ∀ block : ImplementationBlock, block.InterruptedBy [classifiedOnly] 0 {}) ∧
      (ContractDeclaration.faultyCharacter.compileWatched [classifiedOnly.acting] 0).2.world = 6 ∧
      ((ContractDeclaration.faultyCharacter.hookMoments [classifiedOnly] {}).find?
        (·.raised.isSome)).map (·.diagnostics) = some [
          { code := .invalidReceiverShape
            message := "contract method receiver can only be a shared reference `&self`"
            span := ⟨2, 1⟩ },
          { code := .duplicateSpecialArgument
            message := "contract method can accept at most one context argument"
            span := ⟨3, 9⟩
            related := some ⟨"first context argument declared here", ⟨3, 4⟩⟩ }] :=
  ⟨interrupt_compilations [classifiedOnly] 0 {}, by decide +kernel, by decide +kernel⟩

end RaisingHook

end InterfaceContract
