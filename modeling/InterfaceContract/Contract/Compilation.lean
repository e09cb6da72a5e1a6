/-
This file compiles contracts into interface models and their dispatch.
-/

import InterfaceContract.Contract.Compiled
import InterfaceContract.Pipeline.EditingHook

namespace InterfaceContract

namespace ContractDirectives

/-- The name under which a contract is exposed. -/
def exposedName (directives : ContractDirectives) (ident : String) : String :=
  match directives.name with
  | some name => name.value
  | none => Name.dropRawMark ident

/-- The place that is to blame for a contract's name. -/
def nameSpan (directives : ContractDirectives) (span : Span) : Span :=
  match directives.name with
  | some name => name.span
  | none => span

/-- The context directive decides, then the first context argument of a field, then the first
downcast method with a context. -/
def chosenContext (directives : ContractDirectives) (fields : List Field)
    (implementers : List Implementer) : Option TypeExpr :=
  directives.context.map (·.value) <|>
    fields.findSome? Field.contextType? <|> implementers.findSome? (·.contextType)

end ContractDirectives

namespace ContractSettings

def ofDirectives (declaration : ContractDeclaration) (directives : ContractDirectives) :
    ContractSettings where
  directives := directives
  name := directives.exposedName declaration.ident
  internal := directives.internal.isSome

/-- A reserved name is reported, and the report stops the compilation at a later stage. -/
def read (declaration : ContractDeclaration) : Stopping ContractSettings :=
  match declaration.directives with
  | .failed failure => do
      Reporting.report (.directiveFailure failure)
      Stopping.stop
  | .found directives => do
      let settings := ofDirectives declaration directives
      if !settings.internal && Name.isReserved settings.name then
        Reporting.report (.reservedName (directives.nameSpan declaration.span))
      pure settings

end ContractSettings

namespace Registry

/-- The declared implementers with the external downcasts into them. -/
def ofDirectives (directives : ContractDirectives) : Stopping Registry := do
  let seeded := Registry.ofDeclared (directives.implementers.getD [])
  let registry ← seeded.acceptExternal (directives.externalDowncasts.getD [])
  Stopping.stopIfDirty
  pure registry

/-- The implementers once the downcast methods are attached. -/
def finish (registry : Registry) (downcasts : List NarrowingMethod) :
    Stopping (List Implementer) := do
  let finished ← registry.acceptMethods downcasts
  Stopping.stopIfDirty
  pure finished.implementers

end Registry

namespace ThreadedContract

/-- The scalar directive decides how the payload is threaded. -/
def ofDirectives (declaration : ContractDeclaration) (directives : ContractDirectives)
    (options : CompilationOptions) : ThreadedContract :=
  let scalar := Scalar.resolve (directives.scalar.map (·.value)) declaration.generics options
  { scalar.threadContract declaration.generics options with scalar := scalar }

end ThreadedContract

namespace CompiledContract

/-- Puts the results of the stages together. -/
def ofParts (declaration : ContractDeclaration) (settings : ContractSettings)
    (fields : List Field) (implementers : List Implementer) (context : Option TypeExpr)
    (threaded : ThreadedContract) (adaptation : Adaptation) (dispatch : Dispatch) :
    CompiledContract where
  model := {
    name := settings.name
    ident := DispatchRequest.dispatchName declaration.ident settings.directives.dispatch
    visibility := declaration.visibility
    description := settings.directives.description.map (·.value)
    context := context
    scalar := threaded.scalar
    generics := threaded.generics
    fields := fields
    implementers := implementers }
  dispatch := dispatch
  adaptation := { adaptation with bounds := threaded.bounds ++ adaptation.bounds }

end CompiledContract

namespace ContractDeclaration

/-- The stages of a contract compilation. -/
def pipeline (declaration : ContractDeclaration) (options : CompilationOptions) :
    Pipeline StageResult CompiledContract := do
  let settings ← .single .options (ContractSettings.read declaration) .contractOptions
  let directives := settings.directives
  let registry ← .single .externalDowncasts (Registry.ofDirectives directives) .externalDowncasts
  let methods := declaration.methods
  let classified ← .single .classify (classifyMethods settings.internal methods) .classify
  let implementers ←
    .single .methodDowncasts (registry.finish classified.downcasts) .methodDowncasts
  let context ←
    .single .context (pure (directives.chosenContext classified.fields implementers)) .context
  let threaded ←
    .single .scalar (pure (ThreadedContract.ofDirectives declaration directives options))
      .contractScalar
  let adaptation ←
    .single .async (pure (Adaptation.ofMethods directives.asynchronous.isSome methods)) .async
  let dispatch ←
    .single .dispatch
      (pure (Dispatch.select declaration directives.dispatch implementers threaded.scalar
        context adaptation.methods))
      .dispatch
  .single .assemble
    (pure (CompiledContract.ofParts declaration settings classified.fields implementers context
      threaded adaptation dispatch))
    .assembleContract

/-- Compiles a contract. -/
def compile (declaration : ContractDeclaration) (options : CompilationOptions := {}) :
    Compilation CompiledContract :=
  .ofPipeline (declaration.pipeline options)

/-- Compiles a contract under hooks. -/
def compileWatched {ω : Type} (hooks : List (Hook StageResult ω)) (world : ω)
    (declaration : ContractDeclaration) (options : CompilationOptions := {}) :
    Except HookError (Compilation CompiledContract) × Session ω :=
  Compilation.watch hooks declaration.ident world (declaration.pipeline options)

/-- Compiles a contract under hooks that may write into its diagnostics. -/
def compileEdited {ω : Type} (hooks : List (EditingHook StageResult ω)) (world : ω)
    (declaration : ContractDeclaration) (options : CompilationOptions := {}) :
    Except HookError (Compilation CompiledContract) × Session ω :=
  Compilation.watchEdited hooks declaration.ident world (declaration.pipeline options)

/-- Compiles a contract or fails with its diagnostics. -/
def compile? (declaration : ContractDeclaration) (options : CompilationOptions := {}) :
    Except CompilationFailure CompiledContract :=
  (declaration.compile options).toExcept declaration.ident

end ContractDeclaration

end InterfaceContract
