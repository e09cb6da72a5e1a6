/-
This file defines locations in a source text and what was read there.
-/

namespace InterfaceContract

/-- A location, counted from one. -/
structure Span where
  line : Int
  column : Int := 1
  deriving Repr, DecidableEq, Inhabited

/-- A value and the place where it was declared. -/
structure Located (α : Type) where
  value : α
  span : Span := ⟨1, 1⟩
  deriving Repr, DecidableEq

/-- The report of a directive that could not be read. -/
structure DirectiveFailure where
  message : String
  span : Span
  deriving Repr, DecidableEq

/-- The directives read at one place. A failure to read them is a value of its own. -/
inductive Extraction (α : Type) where
  | found (directives : α)
  | failed (failure : DirectiveFailure)
  deriving Repr, DecidableEq

namespace Extraction

/-- A failure outweighs the directives beside it. -/
def ofParts {α : Type} (directives : α) : Option DirectiveFailure → Extraction α
  | none => .found directives
  | some failure => .failed failure

end Extraction

end InterfaceContract
