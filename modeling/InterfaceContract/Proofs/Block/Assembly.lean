/-
This file writes the compilation of an implementation block as one equation over its directives.
-/

import InterfaceContract.Block.Compilation

namespace InterfaceContract

namespace ImplementationBlock

variable {block : ImplementationBlock}

/-- The compiled block that the directives come to. -/
def assembled (block : ImplementationBlock) (directives : ImplementationDirectives)
    (options : CompilationOptions) : CompiledBlock :=
  .ofParts
    (.ofBlock block (.resolve (directives.scalar.map (·.value)) block.generics options))
    (.ofMethods directives.asynchronous.isSome block.methods)

theorem run_readDirectives_of_failed {failure : DirectiveFailure}
    (failed : block.directives = .failed failure) :
    block.readDirectives.run.run {} = (none, ⟨[(Problem.directiveFailure failure).toDiagnostic]⟩) := by
  rw [readDirectives, failed]
  rfl

theorem run_readDirectives_of_found {directives : ImplementationDirectives}
    (found : block.directives = .found directives) :
    block.readDirectives.run.run {} = (some directives, {}) := by
  rw [readDirectives, found]
  rfl

/-- A block whose directives cannot be read reports that and nothing else. -/
theorem compile_of_failed {failure : DirectiveFailure}
    (failed : block.directives = .failed failure) (options : CompilationOptions) :
    block.compile options = .rejected [(Problem.directiveFailure failure).toDiagnostic] :=
  congrArg Compilation.ofRun
    (Pipeline.run_single_bind_of_stop (run_readDirectives_of_failed failed) _)

/-- Behind its directives nothing in a block is checked. -/
theorem compile_of_found {directives : ImplementationDirectives}
    (found : block.directives = .found directives) (options : CompilationOptions) :
    block.compile options = .compiled (block.assembled directives options) :=
  congrArg Compilation.ofRun
    (Pipeline.run_single_bind_of_pass (run_readDirectives_of_found found) _)

/-- Exactly the blocks whose directives can be read are compiled. -/
theorem compile_eq_compiled_iff {options : CompilationOptions} {compiled : CompiledBlock} :
    block.compile options = .compiled compiled ↔
      ∃ directives, block.directives = .found directives ∧
        compiled = block.assembled directives options := by
  cases found : block.directives with
  | failed failure => simp [compile_of_failed found]
  | found directives => simp [compile_of_found found, eq_comm]

end ImplementationBlock

end InterfaceContract
