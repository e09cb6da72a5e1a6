/-
This file defines the dynamic values that flow through a dispatcher and through argument defaults.
-/

import InterfaceContract.Number.Decimal

namespace InterfaceContract

/-- Where a record comes from. -/
inductive RecordOrigin where
  | plain
  | ofClass (name : String)
  /-- A record without any class. -/
  | bare
  deriving Repr, DecidableEq, Inhabited

inductive Value where
  | missing
  | null
  | boolean (value : Bool)
  | number (value : Rat)
  | text (value : String)
  | list (items : List Value)
  | record (origin : RecordOrigin) (entries : List (String × Value))
  deriving Inhabited

namespace Value

/-- A record without a class name and with the given entries. -/
def ofEntries (entries : List (String × Value)) : Value :=
  .record .plain entries

/-- The entry that a record itself holds under a key. -/
def entry? (key : String) : Value → Option Value
  | .record _ entries => entries.lookup key
  | _ => none

/-- The broad kind of a value; a null counts as an object. -/
def kind : Value → String
  | .missing => "undefined"
  | .boolean _ => "boolean"
  | .number _ => "number"
  | .text _ => "string"
  | .null | .list _ | .record _ _ => "object"

def isInstanceOf (name : String) : Value → Bool
  | .record (.ofClass actual) _ => actual == name
  | _ => false

/-- A record is written without its entries; a bare one cannot be written, nor one whose own entry
hides how it is written. -/
def recordText? (origin : RecordOrigin) (entries : List (String × Value)) : Option String :=
  if origin = .bare ∨ (entries.lookup "toString").isSome then none else some "[object Object]"

mutual

/-- The text of a value inside a message. -/
def text? : Value → Option String
  | .missing => some "undefined"
  | .null => some "null"
  | .boolean value => some (if value then "true" else "false")
  | .number value => some (Decimal.shortest value).text
  | .text value => some value
  | .list items => (itemTexts? items).map fun texts => ",".intercalate texts
  | .record origin entries => recordText? origin entries

/-- The texts of the items of a list, where nothing stands for an item that is missing or null. -/
def itemTexts? : List Value → Option (List String)
  | [] => some []
  | .missing :: items | .null :: items => (itemTexts? items).map ("" :: ·)
  | item :: items => do
      let text ← item.text?
      let texts ← itemTexts? items
      pure (text :: texts)

end

/-- The class that a record names; an entry called `constructor` stands in for the class. -/
def className? (origin : RecordOrigin) (entries : List (String × Value)) : Option Value :=
  match entries.lookup "constructor" with
  | some description => description.entry? "name"
  | none =>
      match origin with
      | .plain => some (.text "Object")
      | .ofClass name => some (.text name)
      | .bare => none

/-- How a message names a value of no known implementer, unless the name of its class cannot be
written. -/
def displayName? : Value → Option String
  | .null => some "null"
  | .list _ => some "Array"
  | .record origin entries =>
      match className? origin entries with
      | none | some .missing | some .null => some "object"
      | some name => name.text?
  | value => some value.kind

/-- A missing answer becomes a null. -/
def orNull : Value → Value
  | .missing => .null
  | value => value

@[simp] theorem orNull_missing : orNull .missing = .null := rfl

@[simp] theorem orNull_null : orNull .null = .null := rfl

end Value

end InterfaceContract
