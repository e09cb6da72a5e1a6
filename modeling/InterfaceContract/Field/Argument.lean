/-
This file decides what role each parameter of a field method plays.
-/

import InterfaceContract.Declaration.Basic
import InterfaceContract.Diagnostic.Sink
import InterfaceContract.Name
import InterfaceContract.TypeExpr.Query

namespace InterfaceContract

/-- An argument that a caller sees and supplies. -/
structure ExposedArgument where
  name : String
  type : TypeExpr
  description : Option String := none
  fallback : Option Value := none

inductive Argument where
  | context (type : TypeExpr)
  | executor
  | regular (argument : ExposedArgument)

namespace Argument

/-- The role that the execution engine fills, if any. -/
def engineRole? : Argument → Option EngineRole
  | .context _ => some .context
  | .executor => some .executor
  | .regular _ => none

def regular? : Argument → Option ExposedArgument
  | .regular argument => some argument
  | _ => none

end Argument

namespace EngineRole

/-- Some identifiers take a special role without any directive. -/
def ofIdent? (ident : String) : Option EngineRole :=
  if ident ∈ ["context", "ctx"] then some .context
  else if ident = "executor" then some .executor
  else none

/-- A context argument has the type behind the parameter's reference. -/
def toArgument (role : EngineRole) (type : TypeExpr) : Argument :=
  match role with
  | .context => .context type.stripReference
  | .executor => .executor

end EngineRole

namespace ParameterDirectives

/-- The first directive that names or describes an exposed argument, with its place. -/
def naming? (directives : ParameterDirectives) : Option (NamingDirective × Span) :=
  match directives.name, directives.description, directives.fallback with
  | some name, _, _ => some (.name, name.span)
  | none, some description, _ => some (.description, description.span)
  | none, none, some value => some (.defaultValue, value.span)
  | none, none, none => none

end ParameterDirectives

namespace Parameter

/-- A directive decides the role before the identifier does. -/
def engineRole? (parameter : Parameter) (directives : ParameterDirectives) :
    Option EngineRole :=
  if directives.context.isSome then some .context
  else if directives.executor.isSome then some .executor
  else
    match parameter.pattern with
    | .ident name => EngineRole.ofIdent? (Name.dropRawMark name)
    | .destructured _ => none

/-- A parameter that is taken apart has no name of its own. -/
def exposedName? (parameter : Parameter) (directives : ParameterDirectives) : Option String :=
  match directives.name, parameter.pattern with
  | some name, _ => some name.value
  | none, .ident name => some (Name.exposed name)
  | none, .destructured _ => none

/-- The place that is to blame for a parameter's name. -/
def nameSpan (parameter : Parameter) (directives : ParameterDirectives) : Span :=
  match directives.name with
  | some name => name.span
  | none => parameter.span

def resolveRegular (internal : Bool) (parameter : Parameter) (directives : ParameterDirectives) :
    Except Problem Argument :=
  match parameter.exposedName? directives with
  | none => .error (.malformedArgument parameter.span)
  | some name =>
      if !internal && Name.isReserved name then
        .error (.reservedName (parameter.nameSpan directives))
      else
        .ok (.regular {
          name := name
          type := parameter.type
          description := directives.description.map (·.value)
          fallback := directives.fallback.map (·.value) })

/-- The role of one parameter on its own. -/
def resolve (internal : Bool) (parameter : Parameter) : Except Problem Argument :=
  match parameter.directives with
  | .failed failure => .error (.directiveFailure failure)
  | .found directives =>
      match parameter.engineRole? directives, directives.naming? with
      | some _, some (directive, span) => .error (.disallowedDirective directive span)
      | some role, none => .ok (role.toArgument parameter.type)
      | none, _ => parameter.resolveRegular internal directives

end Parameter

/-- An argument and the place of its parameter. -/
structure KeptArgument where
  argument : Argument
  span : Span

namespace KeptArgument

/-- A method keeps the first argument of each special role. -/
def keep (kept : List KeptArgument) (candidate : KeptArgument) : Except Problem KeptArgument :=
  match candidate.argument.engineRole? with
  | none => .ok candidate
  | some role =>
      match kept.find? (·.argument.engineRole? == some role) with
      | none => .ok candidate
      | some first => .error (.duplicateSpecial role candidate.span first.span)

/-- The argument of a parameter beside those kept before it. -/
def ofParameter (internal : Bool) (kept : List KeptArgument) (parameter : Parameter) :
    Except Problem KeptArgument := do
  let argument ← parameter.resolve internal
  keep kept ⟨argument, parameter.span⟩

def extend (internal : Bool) (kept : List KeptArgument) (parameter : Parameter) :
    Reporting (List KeptArgument) := do
  match ← Reporting.attempt (ofParameter internal kept parameter) with
  | some argument => pure (kept ++ [argument])
  | none => pure kept

end KeptArgument

/-- Resolves all parameters of a method in their order; a rejected one is reported and left out. -/
def resolveParameters (internal : Bool) (parameters : List Parameter) :
    Reporting (List Argument) := do
  let kept ← parameters.foldlM (KeptArgument.extend internal) []
  pure (kept.map (·.argument))

end InterfaceContract
