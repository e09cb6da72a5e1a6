/-
This file dispatches through dynamic handles.
-/

import InterfaceContract.Dispatcher.Call

namespace InterfaceContract

/-- A value behind a dynamic handle, with the binding that recognized it. -/
structure DynamicHandle where
  binding : Binding
  value : Value

/-- A dispatcher to which bindings can be added at any time. -/
structure HandleDispatcher where
  scope : CallScope
  dispatch : HandleDispatch
  externals : List (String × Body)
  bindings : List Binding

namespace HandleDispatcher

/-- A binding replaces an earlier one of its type and is tried last. -/
def addBinding (bindings : List Binding) (binding : Binding) : List Binding :=
  bindings.filter (·.type != binding.type) ++ [binding]

def create (scope : CallScope) (dispatch : HandleDispatch) (externals : List (String × Body))
    (bindings : List Binding) : HandleDispatcher where
  scope := scope
  dispatch := dispatch
  externals := externals
  bindings := bindings.foldl addBinding []

def add (dispatcher : HandleDispatcher) (binding : Binding) : HandleDispatcher :=
  { dispatcher with bindings := addBinding dispatcher.bindings binding }

/-- Wraps a value with the first binding that recognizes it. -/
def wrap (dispatcher : HandleDispatcher) (value : Value) : Except DispatchError DynamicHandle :=
  match dispatcher.bindings.find? (·.recognizes value) with
  | some binding => .ok ⟨binding, value⟩
  | none => .error (.ofUnrecognized dispatcher.scope.contract value)

def implementerName (_ : HandleDispatcher) (handle : DynamicHandle) : String :=
  handle.binding.type

def readField (dispatcher : HandleDispatcher) (handle : DynamicHandle) (name : String)
    (supplied : List (String × Value)) (environment : Environment) : Outcome :=
  .lookup (dispatcher.scope.field name) fun field =>
    dispatcher.scope.runField handle.binding field handle.value supplied environment

def call (dispatcher : HandleDispatcher) (handle : DynamicHandle) (method : String)
    (parameters : List Value) : Outcome :=
  dispatcher.scope.runMethod handle.binding method handle.value parameters

def constant (_ : HandleDispatcher) (handle : DynamicHandle) (name : String) : Value :=
  handle.binding.constant name

/-- Runs the downcast that the contract declares for an implementer. -/
def runDowncast (dispatcher : HandleDispatcher) (handle : DynamicHandle) (context : Value) :
    DowncastRoute → Outcome
  | .method name withContext =>
      dispatcher.scope.runBody handle.binding name handle.value
        (if withContext then [context] else [])
  | .external function =>
      match dispatcher.externals.lookup function with
      | some body => body handle.value [context]
      | none => .refuse (.missingExternal function)

/-- Narrows a handle by the declared downcast, or else by the type of its own binding. -/
def downcast (dispatcher : HandleDispatcher) (handle : DynamicHandle) (type : String)
    (context : Value) : Outcome :=
  match (dispatcher.scope.implementer? type).bind (·.downcast) with
  | some route => (dispatcher.runDowncast handle context route).orNull
  | none => .value (if handle.binding.type = type then handle.value else .null)

end HandleDispatcher

end InterfaceContract
