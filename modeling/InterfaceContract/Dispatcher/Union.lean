/-
This file dispatches through a tagged union.
-/

import InterfaceContract.Dispatcher.Call

namespace InterfaceContract

/-- A value of a tagged union. -/
structure TaggedValue where
  tag : String
  value : Value

/-- A dispatcher with one binding for each tag of its union, in the order of the variants. -/
structure UnionDispatcher where
  scope : CallScope
  dispatch : UnionDispatch
  variants : List (String × Binding)

namespace UnionDispatcher

/-- Every binding has to belong to a variant. -/
def checkBindings (scope : CallScope) (dispatch : UnionDispatch) (bindings : List Binding) :
    Except DispatchError Unit :=
  bindings.forM fun binding =>
    if dispatch.variants.any (·.type.render == binding.type) then .ok ()
    else .error (.unknownImplementer scope.contract binding.type)

/-- The first binding for a variant's type. -/
def bindVariant (scope : CallScope) (bindings : List Binding) (variant : Variant) :
    Except DispatchError (String × Binding) :=
  match bindings.find? (·.type == variant.type.render) with
  | some binding => .ok (variant.tag, binding)
  | none => .error (.unboundImplementer scope.contract variant.type.render)

/-- A tag that is bound already keeps its place and takes the later binding. -/
def bindTag (variants : List (String × Binding)) (variant : String × Binding) :
    List (String × Binding) :=
  if variants.any (·.1 == variant.1) then
    variants.map fun bound => if bound.1 == variant.1 then variant else bound
  else variants ++ [variant]

/-- A union needs exactly the bindings of its variants. -/
def create (scope : CallScope) (dispatch : UnionDispatch) (bindings : List Binding) :
    Except DispatchError UnionDispatcher := do
  checkBindings scope dispatch bindings
  let variants ← dispatch.variants.mapM (bindVariant scope bindings)
  pure { scope := scope, dispatch := dispatch, variants := variants.foldl bindTag [] }

def binding (dispatcher : UnionDispatcher) (tag : String) : Except DispatchError Binding :=
  match dispatcher.variants.lookup tag with
  | some binding => .ok binding
  | none => .error (.unknownImplementer dispatcher.scope.contract tag)

/-- Tags a value by the first variant that recognizes it. -/
def wrap (dispatcher : UnionDispatcher) (value : Value) : Except DispatchError TaggedValue :=
  match dispatcher.variants.find? (·.2.recognizes value) with
  | some (tag, _) => .ok ⟨tag, value⟩
  | none => .error (.ofUnrecognized dispatcher.scope.contract value)

/-- A value of a given variant. -/
def ofVariant (dispatcher : UnionDispatcher) (tag : String) (value : Value) :
    Except DispatchError TaggedValue := do
  let binding ← dispatcher.binding tag
  if binding.recognizes value then .ok ⟨tag, value⟩
  else .error (.invalidValue binding.type)

def implementerName (_ : UnionDispatcher) (tagged : TaggedValue) : String :=
  tagged.tag

def readField (dispatcher : UnionDispatcher) (tagged : TaggedValue) (name : String)
    (supplied : List (String × Value)) (environment : Environment) : Outcome :=
  .lookup (dispatcher.scope.field name) fun field =>
    .lookup (dispatcher.binding tagged.tag) fun binding =>
      dispatcher.scope.runField binding field tagged.value supplied environment

/-- Only methods of the contract can be called. -/
def call (dispatcher : UnionDispatcher) (tagged : TaggedValue) (method : String)
    (parameters : List Value) : Outcome :=
  if dispatcher.dispatch.methods.any (·.ident == method) then
    .lookup (dispatcher.binding tagged.tag) fun binding =>
      dispatcher.scope.runMethod binding method tagged.value parameters
  else .refuse (.unknownMethod dispatcher.dispatch.ident method)

def constant (dispatcher : UnionDispatcher) (tagged : TaggedValue) (name : String) :
    Except DispatchError Value := do
  pure ((← dispatcher.binding tagged.tag).constant name)

/-- Narrows a value to the variant of a type; a value of another variant becomes a null. -/
def downcast (dispatcher : UnionDispatcher) (tagged : TaggedValue) (type : String) :
    Except DispatchError Value :=
  match dispatcher.dispatch.variants.find? (·.type.render == type) with
  | some variant => .ok (if variant.tag = tagged.tag then tagged.value else .null)
  | none => .error (.unknownImplementer dispatcher.scope.contract type)

end UnionDispatcher

end InterfaceContract
