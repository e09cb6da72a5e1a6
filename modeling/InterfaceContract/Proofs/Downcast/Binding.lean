/-
This file says which implementer a declared downcast is bound to, and how it comes to be bound.
-/

import InterfaceContract.Proofs.Downcast.Shape
import InterfaceContract.Proofs.Implementer.Merge

namespace InterfaceContract

/-- A downcast in the form in which a contract declares it. -/
inductive DeclaredDowncast where
  | external (downcast : NarrowingFunction)
  | method (method : Method)

namespace DeclaredDowncast

/-- The type that a downcast narrows to. -/
def target? : DeclaredDowncast → Option TypeExpr
  | .external downcast => some downcast.type
  | .method marked => marked.narrowedType?

/-- A downcast is bound to an implementer of its type that carries it as its route and takes the
context that its parameters ask for. -/
def BoundTo : DeclaredDowncast → Implementer → Prop
  | .external downcast, implementer => downcast.type = implementer.type ∧
      implementer.downcast = some (.external downcast.function.value) ∧
      implementer.contextType = none
  | .method marked, implementer => marked.Narrows implementer.type implementer.contextType ∧
      implementer.downcast = some (.method marked.ident implementer.contextType.isSome)

/-- The request that a declared downcast makes. -/
inductive Requests : DeclaredDowncast → DowncastRequest → Prop where
  | external (downcast : NarrowingFunction) : Requests (.external downcast) downcast.toRequest
  | method {marked : Method} {narrowing : NarrowingMethod}
      (accepted : marked.asNarrowing = .ok narrowing) :
      Requests (.method marked) narrowing.toRequest

end DeclaredDowncast

/-- An implementer serves the downcast that was requested into its type. -/
structure Implementer.Serves (implementer : Implementer) (request : DowncastRequest) : Prop where
  type : implementer.type = request.target
  downcast : implementer.downcast = some request.source.route
  contextType : implementer.contextType = request.contextType

/-- A declared implementer serves the first request into its type. -/
theorem RegistryEntry.serves_of_find?_eq_some {requests : List DowncastRequest}
    {declared : Located TypeExpr} {request : DowncastRequest}
    (found : requests.find? (·.target == declared.value) = some request) :
    ((ofDeclared declared).offer requests).toImplementer.Serves request where
  type := by
    have same : request.target = declared.value := by simpa using List.find?_some found
    exact same.symm
  downcast := by simp [toImplementer, offer, ofDeclared, found]
  contextType := by simp [toImplementer, offer, ofDeclared, found]

theorem RegistryEntry.bare_of_find?_eq_none {requests : List DowncastRequest}
    {declared : Located TypeExpr} (absent : requests.find? (·.target == declared.value) = none) :
    ((ofDeclared declared).offer requests).toImplementer.downcast = none ∧
      ((ofDeclared declared).offer requests).toImplementer.contextType = none := by
  simp [toImplementer, offer, ofDeclared, absent]

namespace DeclaredDowncast

variable {declared : DeclaredDowncast} {request : DowncastRequest} {implementer : Implementer}

theorem target?_of_boundTo (declared : DeclaredDowncast) (implementer : Implementer)
    (bound : declared.BoundTo implementer) : declared.target? = some implementer.type := by
  cases declared with
  | external downcast => exact congrArg some bound.1
  | method marked => exact Method.narrowedType?_eq_some_iff.mpr bound.1.output

theorem BoundTo.isSome_downcast (bound : declared.BoundTo implementer) :
    implementer.downcast.isSome := by
  cases declared with
  | external downcast =>
      rw [bound.2.1]
      rfl
  | method marked =>
      rw [bound.2]
      rfl

theorem Requests.target?_eq (requests : declared.Requests request) :
    declared.target? = some request.target := by
  cases requests with
  | external downcast => rfl
  | method accepted =>
      obtain ⟨target, contextType, narrows, rfl⟩ := Method.asNarrowing_eq_ok_iff.mp accepted
      exact Method.narrowedType?_eq_some_iff.mpr narrows.output

/-- A downcast is bound to whichever implementer serves its request. -/
theorem Requests.boundTo (requests : declared.Requests request)
    (served : implementer.Serves request) : declared.BoundTo implementer := by
  obtain ⟨typed, routed, taken⟩ := served
  cases requests with
  | external downcast => exact ⟨typed.symm, routed, taken⟩
  | method accepted =>
      obtain ⟨target, contextType, narrows, rfl⟩ := Method.asNarrowing_eq_ok_iff.mp accepted
      refine ⟨?_, ?_⟩
      · rw [typed, taken]
        exact narrows
      · rw [routed, taken]
        rfl

end DeclaredDowncast

end InterfaceContract
