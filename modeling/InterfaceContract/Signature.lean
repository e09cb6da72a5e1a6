/-
This file adapts method signatures to asynchronous dispatch.
-/

import InterfaceContract.Declaration.Basic
import InterfaceContract.Scalar

namespace InterfaceContract

structure SignatureParameter where
  name : String
  type : TypeExpr
  deriving DecidableEq

structure Signature where
  ident : String
  parameters : List SignatureParameter
  output : TypeExpr
  isAsync : Bool
  hasDefault : Bool
  deriving DecidableEq

/-- The signatures of a contract or block once asynchrony is decided, and the bounds they need. -/
structure Adaptation where
  asynchronous : Bool
  bounds : List Requirement
  methods : List Signature
  deriving DecidableEq

namespace ParameterPattern

/-- A parameter that is taken apart is named by the text of its pattern. -/
def signatureName : ParameterPattern → String
  | .ident name => name
  | .destructured text => text

end ParameterPattern

namespace Method

def signature (asynchronous : Bool) (method : Method) : Signature where
  ident := method.ident
  parameters := method.parameters.map fun parameter =>
    ⟨parameter.pattern.signatureName, parameter.type⟩
  output := method.outputType
  isAsync := asynchronous || method.isAsync
  hasDefault := method.hasDefault

end Method

namespace Adaptation

/-- One asynchronous method makes all of them asynchronous. -/
def isAsynchronous (forced : Bool) (methods : List Method) : Bool :=
  forced || methods.any (·.isAsync)

/-- A default body that may be suspended has to be shareable. -/
def asyncBounds (methods : List Method) : List Requirement :=
  if methods.any fun method => method.isAsync && method.hasDefault then [.shareable none] else []

def ofMethods (forced : Bool) (methods : List Method) : Adaptation where
  asynchronous := isAsynchronous forced methods
  bounds := asyncBounds methods
  methods := methods.map (Method.signature (isAsynchronous forced methods))

end Adaptation

end InterfaceContract
