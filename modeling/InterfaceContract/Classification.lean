/-
This file sorts the methods of a contract into fields, downcasts and ignored ones.
-/

import InterfaceContract.Downcast.Method
import InterfaceContract.Field.Basic

namespace InterfaceContract

inductive Classification where
  | ignored
  | field (field : Field)
  | downcast (downcast : NarrowingMethod)

namespace Classification

def field? : Classification → Option Field
  | .field accepted => some accepted
  | _ => none

def downcast? : Classification → Option NarrowingMethod
  | .downcast accepted => some accepted
  | _ => none

end Classification

/-- Classifies one method; a rejected one is reported. -/
def Method.classify (internal : Bool) (method : Method) : Reporting (Option Classification) := do
  match method.directives with
  | .failed failure => Reporting.attempt (.error (.directiveFailure failure))
  | .found directives =>
      if directives.ignore.isSome then pure (some .ignored)
      else if directives.downcast.isSome then
        Reporting.attempt (method.asNarrowing.map .downcast)
      else
        let field ← method.asField internal directives
        pure (field.map .field)

/-- What the methods of a contract came to. -/
structure ClassifiedMethods where
  fields : List Field
  downcasts : List NarrowingMethod

namespace ClassifiedMethods

def ofList (classifications : List Classification) : ClassifiedMethods where
  fields := classifications.filterMap Classification.field?
  downcasts := classifications.filterMap Classification.downcast?

end ClassifiedMethods

/-- Classifies all methods in their order. -/
def classifyMethods (internal : Bool) (methods : List Method) : Reporting ClassifiedMethods := do
  let classifications ← methods.mapM (Method.classify internal)
  pure (.ofList (classifications.filterMap id))

end InterfaceContract
