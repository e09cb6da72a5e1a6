/-
This file names the variants of a tagged union.
-/

import InterfaceContract.TypeExpr.Query
import InterfaceContract.TypeExpr.Rendering

namespace InterfaceContract.Tag

def isWordCharacter (character : Char) : Bool :=
  character.isAlphanum || character == '_'

/-- Every run of other characters becomes one underscore; `inRun` tells whether it already did. -/
def squash (inRun : Bool) : List Char → List Char
  | [] => []
  | character :: rest =>
      if isWordCharacter character then character :: squash false rest
      else if inRun then squash true rest
      else '_' :: squash true rest

def trimUnderscores (characters : List Char) : List Char :=
  ((characters.dropWhile (· == '_')).reverse.dropWhile (· == '_')).reverse

/-- A tag made of word characters; a text without any is a plain `Variant`. -/
def wordTag (text : String) : String :=
  match trimUnderscores (squash false text.toList) with
  | [] => "Variant"
  | characters => String.ofList characters

/-- The tag that a type asks for. -/
def base (type : TypeExpr) : String :=
  type.baseName?.getD (wordTag type.render)

/-- The tags that a base may take when it is used already, the least number first. -/
def numbered (base : String) (count : Nat) : List String :=
  (List.range count).map fun index => base ++ toString (index + 2)

/-- A tag that is not used: the base itself, or else the base with the least number from two on. -/
def fresh (used : List String) (base : String) : String :=
  if base ∈ used then
    ((numbered base (used.length + 1)).find? (· ∉ used)).getD base
  else base

/-- Tags for a list of types, each different from the used ones and from those before it. -/
def allocate (used : List String) : List TypeExpr → List String
  | [] => []
  | type :: types =>
      let tag := fresh used (base type)
      tag :: allocate (tag :: used) types

@[simp] theorem allocate_nil (used : List String) : allocate used [] = [] := rfl

@[simp] theorem length_allocate (used : List String) (types : List TypeExpr) :
    (allocate used types).length = types.length := by
  induction types generalizing used with
  | nil => rfl
  | cons type types inductionHypothesis => simp [allocate, inductionHypothesis]

end InterfaceContract.Tag
