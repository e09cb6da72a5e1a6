/-
This file says what the report of each problem looks like: its code, its text, its place and the other
place that it refers to.
-/

import InterfaceContract.Diagnostic.Problem

namespace InterfaceContract

namespace DowncastRoute

/-- How a report calls what performs a downcast. -/
inductive CalledAs : DowncastRoute → String → Prop where
  | method (name : String) (withContext : Bool) :
      CalledAs (.method name withContext) ("contract method `" ++ name ++ "`")
  | external (function : String) :
      CalledAs (.external function) ("external downcast function `" ++ function ++ "`")

theorem calledAs_label (route : DowncastRoute) : route.CalledAs route.label := by
  cases route with
  | method name withContext => exact .method name withContext
  | external function => exact .external function

end DowncastRoute

namespace Problem

/-- The report that tells of a problem. -/
inductive ReportedAs : Problem → Diagnostic → Prop where
  | directiveFailure (failure : DirectiveFailure) :
      ReportedAs (.directiveFailure failure) {
        code := .directiveFailure
        message := failure.message
        span := failure.span
        notes := []
        related := none }
  | reservedName (span : Span) :
      ReportedAs (.reservedName span) {
        code := .reservedName
        message := "names starting with `__` are reserved for the introspection system"
        span := span
        notes := ["rename it, or mark the contract as `internal`"]
        related := none }
  | invalidReceiver (span : Span) :
      ReportedAs (.invalidReceiver span) {
        code := .invalidReceiverShape
        message := "contract method receiver can only be a shared reference `&self`"
        span := span
        notes := []
        related := none }
  | missingReceiver (span : Span) :
      ReportedAs (.missingReceiver span) {
        code := .missingReceiver
        message := "contract method should have a shared reference receiver `&self`"
        span := span
        notes := []
        related := none }
  | disallowedName (span : Span) :
      ReportedAs (.disallowedDirective .name span) {
        code := .disallowedDirective
        message := "directive `name = ...` is not allowed here"
        span := span
        notes := ["context and executor arguments are not exposed, so they take no naming directives"]
        related := none }
  | disallowedDescription (span : Span) :
      ReportedAs (.disallowedDirective .description span) {
        code := .disallowedDirective
        message := "directive `description = ...` is not allowed here"
        span := span
        notes := ["context and executor arguments are not exposed, so they take no naming directives"]
        related := none }
  | disallowedDefault (span : Span) :
      ReportedAs (.disallowedDirective .defaultValue span) {
        code := .disallowedDirective
        message := "directive `default = ...` is not allowed here"
        span := span
        notes := ["context and executor arguments are not exposed, so they take no naming directives"]
        related := none }
  | malformedArgument (span : Span) :
      ReportedAs (.malformedArgument span) {
        code := .malformedArgument
        message := "contract method argument should be declared as a single identifier"
        span := span
        notes := ["use the `name = ...` directive to specify the argument's name without requiring it " ++
          "being a single identifier"]
        related := none }
  | secondContext (span first : Span) :
      ReportedAs (.duplicateSpecial .context span first) {
        code := .duplicateSpecialArgument
        message := "contract method can accept at most one context argument"
        span := span
        notes := []
        related := some ⟨"first context argument declared here", first⟩ }
  | secondExecutor (span first : Span) :
      ReportedAs (.duplicateSpecial .executor span first) {
        code := .duplicateSpecialArgument
        message := "contract method can accept at most one executor argument"
        span := span
        notes := []
        related := some ⟨"first executor argument declared here", first⟩ }
  | invalidDowncastOutput (span : Span) :
      ReportedAs (.invalidDowncastOutput span) {
        code := .invalidDowncastSignature
        message := "expects contract method return type to be `Option<&ImplementerType>` only"
        span := span
        notes := []
        related := none }
  | invalidDowncastParameters (span : Span) :
      ReportedAs (.invalidDowncastParameters span) {
        code := .invalidDowncastSignature
        message := "expects contract method to accept `&self` only and, optionally, `&Context`"
        span := span
        notes := []
        related := none }
  | asyncDowncast (span : Span) :
      ReportedAs (.asyncDowncast span) {
        code := .unsupportedAsyncDowncast
        message := "async downcast to interface implementer is not supported"
        span := span
        notes := []
        related := none }
  | unknownDowncastTarget (span : Span) :
      ReportedAs (.unknownDowncastTarget span) {
        code := .nonImplementerTarget
        message := "downcasting is possible only to interface implementers"
        span := span
        notes := []
        related := none }
  | duplicateDowncast {incoming existing : DeclaredRoute} {implementer : TypeExpr}
      {incomingName existingName : String} (incomingCalled : incoming.route.CalledAs incomingName)
      (existingCalled : existing.route.CalledAs existingName) :
      ReportedAs (.duplicateDowncast incoming existing implementer) {
        code := .duplicateDowncast
        message := incomingName ++ " conflicts with the " ++ existingName ++
          " declared on the contract to downcast into the implementer type `" ++
          implementer.render ++ "`"
        span := incoming.span
        notes := ["use the `ignore` directive to exclude this method from implementer downcasting"]
        related := some ⟨existingName ++ " declared here", existing.span⟩ }

theorem message_duplicateDowncast (incoming existing : DeclaredRoute) (implementer : TypeExpr) :
    (duplicateDowncast incoming existing implementer).message =
      incoming.route.label ++ " conflicts with the " ++ existing.route.label ++
        " declared on the contract to downcast into the implementer type `" ++
        implementer.render ++ "`" := by
  change incoming.route.label ++ " conflicts with the " ++ existing.route.label ++
    " declared on the " ++
      ("contract to downcast into the implementer type `" ++ implementer.render ++ "`") = _
  have joined : " declared on the contract to downcast into the implementer type `" =
      " declared on the " ++ "contract to downcast into the implementer type `" := by
    simp only [String.reduceAppend]
  rw [joined]
  simp only [String.append_assoc]

/-- Every problem is reported as it should be. -/
theorem reportedAs_toDiagnostic (problem : Problem) : problem.ReportedAs problem.toDiagnostic := by
  cases problem with
  | directiveFailure failure => exact .directiveFailure failure
  | reservedName span => exact .reservedName span
  | invalidReceiver span => exact .invalidReceiver span
  | missingReceiver span => exact .missingReceiver span
  | disallowedDirective directive span =>
      cases directive with
      | name => exact .disallowedName span
      | description => exact .disallowedDescription span
      | defaultValue => exact .disallowedDefault span
  | malformedArgument span => exact .malformedArgument span
  | duplicateSpecial role span first =>
      cases role with
      | context => exact .secondContext span first
      | executor => exact .secondExecutor span first
  | invalidDowncastOutput span => exact .invalidDowncastOutput span
  | invalidDowncastParameters span => exact .invalidDowncastParameters span
  | asyncDowncast span => exact .asyncDowncast span
  | unknownDowncastTarget span => exact .unknownDowncastTarget span
  | duplicateDowncast incoming existing implementer =>
      rw [toDiagnostic, message_duplicateDowncast]
      exact .duplicateDowncast incoming.route.calledAs_label existing.route.calledAs_label

end Problem

/-- A diagnostic tells of a problem as it should. -/
def Diagnostic.Worded (diagnostic : Diagnostic) : Prop :=
  ∃ problem : Problem, problem.ReportedAs diagnostic

end InterfaceContract
