/-
This file shows that the model, the dispatch and the adaptation of a compiled contract agree with
each other.
-/

import InterfaceContract.Proofs.Contract.Dispatch
import InterfaceContract.Proofs.Contract.WellFormed

namespace InterfaceContract

namespace Adaptation

end Adaptation

namespace Dispatch

variable {declaration : ContractDeclaration} {request : Option DispatchRequest}
  {implementers : List Implementer} {scalar : Scalar} {context : Option TypeExpr}
  {methods : List Signature}

end Dispatch

namespace ContractDeclaration

variable {declaration : ContractDeclaration}

/-- Every method of a contract has a signature under its name. -/
theorem exists_signature_of_mem {options : CompilationOptions} {contract : CompiledContract}
    (compiled : declaration.compile options = .compiled contract) {method : Method}
    (member : method ∈ declaration.methods) :
    ∃ signature ∈ contract.adaptation.methods, signature.ident = method.ident := by
  rw [signatures_of_compiled compiled]
  exact ⟨_, List.mem_map_of_mem member, rfl⟩

end ContractDeclaration

end InterfaceContract
