/-
This file says which methods narrow to which implementer, and that these are the ones accepted.
-/

import InterfaceContract.Downcast.Method
import InterfaceContract.Proofs.TypeExpr.Segments
import Mathlib.Data.Option.Basic

namespace InterfaceContract

namespace TypeExpr

theorem sharedInner?_eq_some_iff {type inner : TypeExpr} :
    type.sharedInner? = some inner ↔ ∃ lifetime, type = .reference false lifetime inner := by
  fun_cases sharedInner? type <;> simp_all

theorem onlyArgument?_eq_some_iff {type argument : TypeExpr} :
    type.onlyArgument? = some argument ↔ ∃ path, type = .path path [.type argument] := by
  fun_cases onlyArgument? type <;> simp_all

end TypeExpr

namespace Method

/-- A method narrows to a type by its shape: it takes `&self` and at most one shared context, runs
at once and returns an optional shared reference to the type. -/
structure Narrows (method : Method) (target : TypeExpr) (contextType : Option TypeExpr) : Prop where
  immediate : method.isAsync = false
  receiver : ∃ span, method.receiver = some ⟨.shared, span⟩
  output : ∃ path lifetime earlier,
    method.output = some (.path path [.type (.reference false lifetime target)]) ∧
      Segmented path (earlier ++ ["Option"])
  parameters : method.parameters = [] ∧ contextType = none ∨
    ∃ parameter lifetime context, method.parameters = [parameter] ∧
      parameter.type = .reference false lifetime context ∧ contextType = some context

theorem hasSharedReceiver_iff {method : Method} :
    method.hasSharedReceiver = true ↔ ∃ span, method.receiver = some ⟨.shared, span⟩ := by
  rw [hasSharedReceiver]
  constructor
  · split
    · rename_i span received
      exact fun _ => ⟨span, received⟩
    · nofun
  · rintro ⟨span, received⟩
    rw [received]

theorem narrowedType?_eq_some_iff {method : Method} {target : TypeExpr} :
    method.narrowedType? = some target ↔ ∃ path lifetime earlier,
      method.output = some (.path path [.type (.reference false lifetime target)]) ∧
        Segmented path (earlier ++ ["Option"]) := by
  constructor
  · intro narrowed
    simp only [narrowedType?, Option.bind_eq_bind, Option.bind_eq_some_iff, Option.guard_eq_some']
      at narrowed
    obtain ⟨output, returned, -, optional, argument, only, shared⟩ := narrowed
    obtain ⟨path, rfl⟩ := TypeExpr.onlyArgument?_eq_some_iff.mp only
    obtain ⟨lifetime, rfl⟩ := TypeExpr.sharedInner?_eq_some_iff.mp shared
    have named : (segments path).getLast? = some "Option" := by
      simpa [TypeExpr.isOptional, TypeExpr.baseName?] using optional
    obtain ⟨earlier, last⟩ := getLast?_segments_eq_some_iff.mp named
    exact ⟨path, lifetime, earlier, returned, last⟩
  · rintro ⟨path, lifetime, earlier, returned, last⟩
    have named := getLast?_segments_eq_some_iff.mpr ⟨earlier, last⟩
    simp [narrowedType?, returned, TypeExpr.isOptional, TypeExpr.baseName?, named,
      TypeExpr.onlyArgument?, TypeExpr.sharedInner?, guard]

theorem narrowingContext?_eq_some_iff {method : Method} {contextType : Option TypeExpr} :
    method.narrowingContext? = some contextType ↔ method.hasSharedReceiver = true ∧
      (method.parameters = [] ∧ contextType = none ∨
        ∃ parameter lifetime context, method.parameters = [parameter] ∧
          parameter.type = .reference false lifetime context ∧ contextType = some context) := by
  rw [narrowingContext?]
  cases shared : method.hasSharedReceiver with
  | false => simp [guard, Option.failure_eq_none]
  | true =>
      rcases listed : method.parameters with _ | ⟨parameter, _ | ⟨other, parameters⟩⟩
      · simp [guard, eq_comm]
      · change parameter.type.sharedInner?.map some = some contextType ↔ _
        rw [Option.map_eq_some_iff]
        constructor
        · rintro ⟨context, inner, rfl⟩
          obtain ⟨lifetime, referenced⟩ := TypeExpr.sharedInner?_eq_some_iff.mp inner
          exact ⟨rfl, .inr ⟨parameter, lifetime, context, rfl, referenced, rfl⟩⟩
        · rintro ⟨-, ⟨⟨⟩, -⟩ | ⟨_, lifetime, context, ⟨⟩, referenced, rfl⟩⟩
          exact ⟨context, TypeExpr.sharedInner?_eq_some_iff.mpr ⟨lifetime, referenced⟩, rfl⟩
      · simp [guard]

/-- The accepted methods are those that narrow to a type by their shape. -/
theorem asNarrowing_eq_ok_iff {method : Method} {narrowing : NarrowingMethod} :
    method.asNarrowing = .ok narrowing ↔ ∃ target contextType, method.Narrows target contextType ∧
      narrowing = {
        type := target
        method := method.ident
        withContext := contextType.isSome
        contextType := contextType
        span := method.span } := by
  constructor
  · intro accepted
    cases narrowed : method.narrowedType? with
    | none => simp [asNarrowing, narrowed] at accepted
    | some target =>
        cases taken : method.narrowingContext? with
        | none => simp [asNarrowing, narrowed, taken] at accepted
        | some contextType =>
            cases suspended : method.isAsync with
            | true => simp [asNarrowing, narrowed, taken, suspended] at accepted
            | false =>
                obtain ⟨receiver, parameters⟩ := narrowingContext?_eq_some_iff.mp taken
                refine ⟨target, contextType, ⟨suspended, hasSharedReceiver_iff.mp receiver,
                  narrowedType?_eq_some_iff.mp narrowed, parameters⟩, ?_⟩
                simpa [asNarrowing, narrowed, taken, suspended, eq_comm] using accepted
  · rintro ⟨target, contextType, ⟨immediate, receiver, output, parameters⟩, rfl⟩
    have narrowed := narrowedType?_eq_some_iff.mpr output
    have taken := narrowingContext?_eq_some_iff.mpr
      ⟨hasSharedReceiver_iff.mpr receiver, parameters⟩
    simp [asNarrowing, narrowed, taken, immediate]

end Method

end InterfaceContract
