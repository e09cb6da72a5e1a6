/-
This file matches the name of a log channel against a list of debug patterns.
-/

import InterfaceContract.Text.Blank
import InterfaceContract.Text.CodeUnit

namespace InterfaceContract

open Text (CodeUnit)

/-- A pattern with a question mark that has nothing to make optional. -/
structure MalformedPattern where
  pattern : String
  deriving Repr, DecidableEq

/-- A piece of a pattern. -/
inductive PatternPiece where
  | exactly (unit : CodeUnit)
  | optionally (unit : CodeUnit)
  /-- Any run of code units within a line. -/
  | anyRun
  deriving Repr, DecidableEq

namespace PatternPiece

/-- A star stands for any run and a question mark makes the unit before it optional; a second
question mark changes nothing, and every other unit stands for itself. -/
def parse? : List CodeUnit → Option (List PatternPiece)
  | [] => some []
  | 0x3F :: _ => none
  | 0x2A :: 0x3F :: rest | 0x2A :: rest => (parse? rest).map (.anyRun :: ·)
  | unit :: 0x3F :: 0x3F :: rest | unit :: 0x3F :: rest =>
      (parse? rest).map (.optionally unit :: ·)
  | unit :: rest => (parse? rest).map (.exactly unit :: ·)

/-- For each suffix of a text, the longest first, tells whether a piece and what follows it match
the suffix, given the same answers for what follows it. -/
def extend (piece : PatternPiece) : List CodeUnit → List Bool → List Bool
  | [], following =>
      match piece with
      | .exactly _ => [false]
      | .optionally _ | .anyRun => [following.headD false]
  | unit :: rest, following =>
      let shorter := extend piece rest following.tail
      let skipped := following.headD false
      let consumed := following.tail.headD false
      let verdict :=
        match piece with
        | .exactly expected => unit == expected && consumed
        | .optionally expected => skipped || (unit == expected && consumed)
        | .anyRun => skipped || (!Text.endsLine unit && shorter.headD false)
      verdict :: shorter

/-- For each suffix of a text, the longest first, tells whether the pieces match the suffix. -/
def verdicts : List PatternPiece → List CodeUnit → List Bool
  | [], text => text.map (fun _ => false) ++ [true]
  | piece :: pieces, text => piece.extend text (verdicts pieces text)

/-- The pieces match the whole text. -/
def matchesText (pieces : List PatternPiece) (text : List CodeUnit) : Bool :=
  (verdicts pieces text).headD false

end PatternPiece

/-- One entry of a debug list. -/
structure DebugPattern where
  excludes : Bool
  body : List Char
  deriving Repr, DecidableEq

namespace DebugPattern

/-- A leading minus marks an exclusion. -/
def ofWord : List Char → DebugPattern
  | '-' :: body => ⟨true, body⟩
  | body => ⟨false, body⟩

/-- The entries of a debug list stand between blanks and commas. -/
def readList (debug : String) : List DebugPattern :=
  (Text.words (fun character => Text.isBlank character || character == ',') debug.toList).map
    ofWord

/-- A lone star matches everything, line ends included. -/
def matchesChannel (pattern : DebugPattern) (channel : String) : Except MalformedPattern Bool :=
  if pattern.body = ['*'] then .ok true
  else
    match PatternPiece.parse? (Text.unitsOf pattern.body) with
    | some pieces => .ok (PatternPiece.matchesText pieces (Text.unitsOf channel.toList))
    | none => .error ⟨String.ofList pattern.body⟩

/-- A matching pattern outweighs those before it. -/
def update (channel : String) (enabled : Bool) (pattern : DebugPattern) :
    Except MalformedPattern Bool := do
  if ← pattern.matchesChannel channel then pure (!pattern.excludes) else pure enabled

end DebugPattern

/-- A channel is enabled when the last pattern that matches it is no exclusion. -/
def channelEnabled (channel : String) (debug : Option String) : Except MalformedPattern Bool :=
  (DebugPattern.readList (debug.getD "")).foldlM (DebugPattern.update channel) false

end InterfaceContract
