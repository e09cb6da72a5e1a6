/-
This file merges the declared implementers with the downcasts into them.
-/

import InterfaceContract.Declaration.Basic
import InterfaceContract.Diagnostic.Sink
import InterfaceContract.Downcast.Method

namespace InterfaceContract

/-- An implementer of a compiled contract. -/
structure Implementer where
  type : TypeExpr
  downcast : Option DowncastRoute := none
  /-- The context that the downcast method takes. -/
  contextType : Option TypeExpr := none
  span : Span
  deriving DecidableEq

/-- A declared downcast, whichever way it was declared. -/
structure DowncastRequest where
  target : TypeExpr
  source : DeclaredRoute
  contextType : Option TypeExpr := none
  deriving DecidableEq

def NarrowingFunction.toRequest (downcast : NarrowingFunction) : DowncastRequest where
  target := downcast.type
  source := ⟨.external downcast.function.value, downcast.function.span⟩

def NarrowingMethod.toRequest (downcast : NarrowingMethod) : DowncastRequest where
  target := downcast.type
  source := ⟨.method downcast.method downcast.withContext, downcast.span⟩
  contextType := downcast.contextType

/-- An implementer under construction; the first downcast request is attached for good. -/
structure RegistryEntry where
  type : TypeExpr
  span : Span
  attached : Option DowncastRequest := none
  deriving DecidableEq

namespace RegistryEntry

def toImplementer (entry : RegistryEntry) : Implementer where
  type := entry.type
  downcast := entry.attached.map (·.source.route)
  contextType := entry.attached.bind (·.contextType)
  span := entry.span

end RegistryEntry

/-- Implementers by type, in the order of their declaration. -/
structure Registry where
  entries : List RegistryEntry
  deriving DecidableEq

namespace Registry

def find? (registry : Registry) (type : TypeExpr) : Option RegistryEntry :=
  registry.entries.find? (·.type == type)

/-- A type that was declared before adds nothing. -/
def declare (registry : Registry) (implementer : Located TypeExpr) : Registry :=
  match registry.find? implementer.value with
  | some _ => registry
  | none => ⟨registry.entries ++ [{ type := implementer.value, span := implementer.span }]⟩

/-- The registry of a list of declared implementers. -/
def ofDeclared (implementers : List (Located TypeExpr)) : Registry :=
  implementers.foldl declare ⟨[]⟩

def attachTo (request : DowncastRequest) (entry : RegistryEntry) : RegistryEntry :=
  if entry.type == request.target then { entry with attached := some request } else entry

/-- A request needs an implementer of its type that has no downcast yet. -/
def attach (registry : Registry) (request : DowncastRequest) : Except Problem Registry :=
  match registry.find? request.target with
  | none => .error (.unknownDowncastTarget request.source.span)
  | some entry =>
      match entry.attached with
      | some existing => .error (.duplicateDowncast request.source existing.source entry.type)
      | none => .ok ⟨registry.entries.map (attachTo request)⟩

/-- A request that does not fit is reported and changes nothing. -/
def accept (registry : Registry) (request : DowncastRequest) : Reporting Registry := do
  pure ((← Reporting.attempt (registry.attach request)).getD registry)

def acceptAll (registry : Registry) (requests : List DowncastRequest) : Reporting Registry :=
  requests.foldlM accept registry

def acceptExternal (registry : Registry) (downcasts : List NarrowingFunction) :
    Reporting Registry :=
  registry.acceptAll (downcasts.map NarrowingFunction.toRequest)

def acceptMethods (registry : Registry) (downcasts : List NarrowingMethod) :
    Reporting Registry :=
  registry.acceptAll (downcasts.map NarrowingMethod.toRequest)

/-- The implementers, in the order of their declaration. -/
def implementers (registry : Registry) : List Implementer :=
  registry.entries.map RegistryEntry.toImplementer

end Registry

end InterfaceContract
