/-
This file builds declarations by hand, for tools that generate contracts.
-/

import InterfaceContract.Declaration.Basic

namespace InterfaceContract

/-- What a hand-built parameter may leave out. -/
structure ParameterOutline where
  span : Span := ⟨1, 1⟩
  directives : ParameterDirectives := {}
  failure : Option DirectiveFailure := none

namespace Parameter

def ofPattern (pattern : ParameterPattern) (type : TypeExpr) (outline : ParameterOutline) :
    Parameter where
  pattern := pattern
  type := type
  span := outline.span
  directives := .ofParts outline.directives outline.failure

/-- A parameter bound to one identifier. -/
def ofName (name : String) (type : TypeExpr) (outline : ParameterOutline) : Parameter :=
  .ofPattern (.ident name) type outline

/-- A parameter taken apart by a pattern. -/
def ofDestructuring (text : String) (type : TypeExpr) (outline : ParameterOutline) : Parameter :=
  .ofPattern (.destructured text) type outline

end Parameter

/-- The receiver type that a hand-built typed receiver has. -/
def boxedSelf : TypeExpr :=
  .path "Box" [.type (.named "Self")]

/-- What a hand-built method may leave out. -/
structure MethodOutline where
  receiver : Option ReceiverForm := some .shared
  parameters : List Parameter := []
  output : Option TypeExpr := none
  isAsync : Bool := false
  hasDefault : Bool := false
  span : Span := ⟨1, 1⟩
  directives : MethodDirectives := {}
  failure : Option DirectiveFailure := none

/-- The receiver stands where its method stands. -/
def Method.ofOutline (ident : String) (outline : MethodOutline) : Method where
  ident := ident
  span := outline.span
  receiver := outline.receiver.map fun form => ⟨form, outline.span⟩
  parameters := outline.parameters
  output := outline.output
  isAsync := outline.isAsync
  hasDefault := outline.hasDefault
  directives := .ofParts outline.directives outline.failure

/-- What a hand-built contract may leave out. -/
structure ContractOutline where
  items : List ContractItem := []
  generics : List GenericParameter := []
  visibility : Visibility := .unrestricted
  span : Span := ⟨1, 1⟩
  directives : ContractDirectives := {}
  failure : Option DirectiveFailure := none

def ContractDeclaration.ofOutline (ident : String) (outline : ContractOutline) :
    ContractDeclaration where
  ident := ident
  span := outline.span
  visibility := outline.visibility
  generics := outline.generics
  items := outline.items
  directives := .ofParts outline.directives outline.failure

/-- What a hand-built implementation block may leave out. -/
structure ImplementationOutline where
  methods : List Method := []
  generics : List GenericParameter := []
  span : Span := ⟨1, 1⟩
  directives : ImplementationDirectives := {}
  failure : Option DirectiveFailure := none

def ImplementationBlock.ofOutline (contract : NamedType) (implementer : TypeExpr)
    (outline : ImplementationOutline) : ImplementationBlock where
  contract := contract
  implementer := implementer
  span := outline.span
  generics := outline.generics
  methods := outline.methods
  directives := .ofParts outline.directives outline.failure

end InterfaceContract
