/-
This file reads names and shapes off types.
-/

import InterfaceContract.TypeExpr.Basic

namespace InterfaceContract

/-- The parts of a path name between `::` separators, found from the left. -/
def segmentChars : List Char → List (List Char)
  | [] => [[]]
  | ':' :: ':' :: rest => [] :: segmentChars rest
  | character :: rest =>
      match segmentChars rest with
      | [] => [[character]]
      | segment :: segments => (character :: segment) :: segments

theorem segmentChars_ne_nil (characters : List Char) : segmentChars characters ≠ [] := by
  fun_cases segmentChars characters <;> simp

def segments (name : String) : List String :=
  (segmentChars name.toList).map String.ofList

namespace TypeExpr

def isUnit : TypeExpr → Bool
  | .tuple [] => true
  | _ => false

/-- The bare name at the end of a path. -/
def baseName? : TypeExpr → Option String
  | .path name _ => (segments name).getLast?
  | _ => none

/-- The name of a path with one segment and no arguments, which is how a generic parameter is
spelled. -/
def bareName? : TypeExpr → Option String
  | .path name [] => if (segments name).length = 1 then some name else none
  | _ => none

/-- A path whose bare name is `Option` may be left out by a caller. -/
def isOptional (type : TypeExpr) : Bool :=
  type.baseName? == some "Option"

/-- Strips one outer reference. -/
def stripReference : TypeExpr → TypeExpr
  | .reference _ _ inner => inner
  | type => type

/-- The type behind a shared reference. -/
def sharedInner? : TypeExpr → Option TypeExpr
  | .reference false _ inner => some inner
  | _ => none

/-- The only type argument of a path. -/
def onlyArgument? : TypeExpr → Option TypeExpr
  | .path _ [.type argument] => some argument
  | _ => none

end TypeExpr

end InterfaceContract
