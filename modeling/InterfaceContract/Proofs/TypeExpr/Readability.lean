/-
This file shows that the text of a type can be read in one way only, so that types are told apart by
their text as well as by themselves.
-/

import InterfaceContract.TypeExpr.Rendering

namespace InterfaceContract

/-- The characters that the text of a type sets around its names. -/
def typeMarks : List Char :=
  [' ', '<', '>', '(', ')', '[', ']', ',', '&', '\'']

/-- A name that is not empty and holds none of these characters. -/
def PlainName (name : String) : Prop :=
  name ≠ "" ∧ ∀ character ∈ name.toList, character ∉ typeMarks

instance (name : String) : Decidable (PlainName name) :=
  @instDecidableAnd _ _ inferInstance (List.decidableBAll _ _)

mutual

/-- The names of all paths and lifetimes in a type, at any depth, from left to right. -/
def TypeExpr.names : TypeExpr → List String
  | .path name arguments => name :: TypeArgument.namesAll arguments
  | .reference _ lifetime inner => lifetime.toList ++ inner.names
  | .tuple elements => TypeExpr.namesAll elements
  | .slice element => element.names

def TypeExpr.namesAll : List TypeExpr → List String
  | [] => []
  | type :: types => type.names ++ TypeExpr.namesAll types

def TypeArgument.names : TypeArgument → List String
  | .type type => type.names
  | .lifetime name => [name]

def TypeArgument.namesAll : List TypeArgument → List String
  | [] => []
  | argument :: arguments => argument.names ++ TypeArgument.namesAll arguments

end

theorem TypeExpr.namesAll_eq_flatMap (types : List TypeExpr) :
    TypeExpr.namesAll types = types.flatMap TypeExpr.names := by
  induction types with
  | nil => rfl
  | cons type types inductionHypothesis =>
      rw [namesAll, inductionHypothesis, List.flatMap_cons]

theorem TypeArgument.namesAll_eq_flatMap (arguments : List TypeArgument) :
    TypeArgument.namesAll arguments = arguments.flatMap TypeArgument.names := by
  induction arguments with
  | nil => rfl
  | cons argument arguments inductionHypothesis =>
      rw [namesAll, inductionHypothesis, List.flatMap_cons]

/-- All names in a type are plain. -/
def TypeExpr.Plain (type : TypeExpr) : Prop :=
  ∀ name ∈ type.names, PlainName name

def TypeArgument.Plain (argument : TypeArgument) : Prop :=
  ∀ name ∈ argument.names, PlainName name

namespace TypeExpr

theorem plain_path_iff (name : String) (arguments : List TypeArgument) :
    (path name arguments).Plain ↔
      PlainName name ∧ ∀ argument ∈ arguments, argument.Plain := by
  simp only [Plain, names, TypeArgument.namesAll_eq_flatMap, List.forall_mem_cons,
    List.forall_mem_flatMap]
  rfl

theorem plain_reference_iff (mutable : Bool) (lifetime : Option String) (inner : TypeExpr) :
    (reference mutable lifetime inner).Plain ↔
      (∀ name ∈ lifetime, PlainName name) ∧ inner.Plain := by
  simp only [Plain, names, List.forall_mem_append, Option.mem_toList, Option.mem_def]

theorem plain_tuple_iff (elements : List TypeExpr) :
    (tuple elements).Plain ↔ ∀ element ∈ elements, element.Plain := by
  simp only [Plain, names, namesAll_eq_flatMap, List.forall_mem_flatMap]

end TypeExpr

namespace TypeText

/-- The text of the items of an enumeration behind its first one. -/
def laterItems (items : List (List Char)) : List Char :=
  items.flatMap fun item => ',' :: ' ' :: item

theorem intercalate_cons (first : List Char) (items : List (List Char)) :
    [',', ' '].intercalate (first :: items) = first ++ laterItems items := by
  induction items generalizing first with
  | nil => simp [laterItems, List.intercalate]
  | cons second items inductionHypothesis =>
      rw [List.intercalate_cons_cons, inductionHypothesis]
      simp [laterItems]

/-- Behind a type its text ends, or a comma or a closing bracket follows. -/
def Ends (rest : List Char) : Prop :=
  ∀ character ∈ rest.head?, character ∈ [',', '>', ')', ']']

/-- Read from the left, the text of an item cannot be that of another one. What follows counts: behind
a name, an opening bracket would go on with the path. -/
def ReadsAs {α : Type} (text : α → List Char) (Plain : α → Prop) (item : α) : Prop :=
  ∀ ⦃other rest otherRest⦄, Plain other → Ends rest → Ends otherRest →
    text item ++ rest = text other ++ otherRest → item = other ∧ rest = otherRest

theorem ends_laterItems (items : List (List Char)) {closing : Char}
    (closes : closing ∈ ['>', ')', ']']) (rest : List Char) :
    Ends (laterItems items ++ closing :: rest) := by
  cases items with
  | nil =>
      rintro _ ⟨⟩
      exact List.mem_cons_of_mem _ closes
  | cons item items =>
      rintro _ ⟨⟩
      exact List.mem_cons_self

/-- An enumeration of readable items is readable, up to the bracket that closes it. -/
theorem laterItems_append_inj {α : Type} {text : α → List Char} {Plain : α → Prop}
    {items others : List α} {closing : Char} (closes : closing ∈ ['>', ')', ']'])
    (reads : ∀ item ∈ items, ReadsAs text Plain item) (plain : ∀ other ∈ others, Plain other)
    {rest otherRest : List Char}
    (same : laterItems (items.map text) ++ closing :: rest =
      laterItems (others.map text) ++ closing :: otherRest) :
    items = others ∧ rest = otherRest := by
  have noComma : closing ≠ ',' := by
    rintro rfl
    simp at closes
  induction items generalizing others with
  | nil =>
      cases others with
      | nil => exact ⟨rfl, (List.cons.inj same).2⟩
      | cons other others => exact absurd (List.cons.inj same).1 noComma
  | cons item items inductionHypothesis =>
      cases others with
      | nil => exact absurd (List.cons.inj same).1.symm noComma
      | cons other others =>
          obtain ⟨first, later⟩ := List.forall_mem_cons.mp reads
          obtain ⟨otherPlain, laterPlain⟩ := List.forall_mem_cons.mp plain
          have behindComma : text item ++ (laterItems (items.map text) ++ closing :: rest) =
              text other ++ (laterItems (others.map text) ++ closing :: otherRest) := by
            simpa [laterItems] using same
          obtain ⟨rfl, rest⟩ := first otherPlain (ends_laterItems _ closes _)
            (ends_laterItems _ closes _) behindComma
          obtain ⟨rfl, rfl⟩ := inductionHypothesis later laterPlain rest
          exact ⟨rfl, rfl⟩

/-- A plain name ends where a mark follows. -/
theorem name_append_inj {name other : List Char} {rest otherRest : List Char}
    (plain : ∀ character ∈ name, character ∉ typeMarks)
    (otherPlain : ∀ character ∈ other, character ∉ typeMarks)
    (marked : ∀ character ∈ rest.head?, character ∈ typeMarks)
    (otherMarked : ∀ character ∈ otherRest.head?, character ∈ typeMarks)
    (same : name ++ rest = other ++ otherRest) : name = other ∧ rest = otherRest := by
  induction name generalizing other with
  | nil =>
      cases other with
      | nil => exact ⟨rfl, same⟩
      | cons character other =>
          rw [List.nil_append] at same
          have mark : character ∈ typeMarks := marked character (by rw [same]; rfl)
          exact absurd mark (otherPlain character List.mem_cons_self)
  | cons character name inductionHypothesis =>
      obtain ⟨here, behind⟩ := List.forall_mem_cons.mp plain
      cases other with
      | nil =>
          rw [List.nil_append] at same
          have mark : character ∈ typeMarks := otherMarked character (by rw [← same]; rfl)
          exact absurd mark here
      | cons otherCharacter other =>
          obtain ⟨rfl, tails⟩ := List.cons.inj same
          obtain ⟨rfl, rests⟩ :=
            inductionHypothesis behind (List.forall_mem_cons.mp otherPlain).2 tails
          exact ⟨rfl, rests⟩

end TypeText

/-- The text of a type, character by character. -/
def TypeExpr.text (type : TypeExpr) : List Char :=
  type.render.toList

def TypeArgument.text (argument : TypeArgument) : List Char :=
  argument.render.toList

namespace TypeText

/-- The text of a lifetime in front of what a reference refers to. -/
def lifetimePrefix : Option String → List Char
  | none => []
  | some name => '\'' :: (name.toList ++ [' '])

def mutabilityPrefix (mutable : Bool) : List Char :=
  if mutable then ['m', 'u', 't', ' '] else []

/-- The text of a path behind its name, up to what follows the path. -/
def pathTail (arguments : List (List Char)) (rest : List Char) : List Char :=
  match arguments with
  | [] => rest
  | first :: later => '<' :: (first ++ (laterItems later ++ '>' :: rest))

/-- The text of a tuple behind its first element, up to what follows the tuple. -/
def tupleTail (later : List (List Char)) (rest : List Char) : List Char :=
  match later with
  | [] => ',' :: ')' :: rest
  | _ :: _ => laterItems later ++ ')' :: rest

end TypeText

open TypeText

namespace TypeExpr

theorem text_path_append (name : String) (arguments : List TypeArgument) (rest : List Char) :
    (path name arguments).text ++ rest =
      name.toList ++ pathTail (arguments.map TypeArgument.text) rest := by
  cases arguments with
  | nil => rfl
  | cons first later =>
      have texts : (TypeArgument.renderAll later).map String.toList =
          later.map TypeArgument.text := by
        rw [TypeArgument.renderAll_eq_map, List.map_map]
        rfl
      simp only [text, render, TypeArgument.renderAll, pathText, pathTail, String.toList_append,
        String.toList_intercalate, List.map_cons, texts]
      change name.toList ++ ['<'] ++ [',', ' '].intercalate _ ++ ['>'] ++ rest = _
      rw [intercalate_cons]
      simp [TypeArgument.text]

theorem text_reference_append (mutable : Bool) (lifetime : Option String) (inner : TypeExpr)
    (rest : List Char) :
    (reference mutable lifetime inner).text ++ rest = '&' ::
      (lifetimePrefix lifetime ++ (mutabilityPrefix mutable ++ (inner.text ++ rest))) := by
  cases lifetime <;> cases mutable <;>
    simp [text, render, referenceText, lifetimeText, lifetimePrefix, mutabilityPrefix]

theorem text_tuple_nil_append (rest : List Char) : (tuple []).text ++ rest = '(' :: ')' :: rest := by
  simp [text, render, renderAll, tupleText]

theorem text_tuple_cons_append (first : TypeExpr) (later : List TypeExpr) (rest : List Char) :
    (tuple (first :: later)).text ++ rest =
      '(' :: (first.text ++ tupleTail (later.map text) rest) := by
  cases later with
  | nil => simp [text, render, renderAll, tupleText, tupleTail]
  | cons second later =>
      have texts : (renderAll later).map String.toList = later.map text := by
        rw [renderAll_eq_map, List.map_map]
        rfl
      simp only [text, render, renderAll, tupleText, tupleTail, String.toList_append,
        String.toList_intercalate, List.map_cons, texts]
      change ['('] ++ [',', ' '].intercalate _ ++ [')'] ++ rest = _
      rw [intercalate_cons]
      simp

theorem text_slice_append (element : TypeExpr) (rest : List Char) :
    (slice element).text ++ rest = '[' :: (element.text ++ ']' :: rest) := by
  simp [text, render]

end TypeExpr

/-- The mark that a type starts with. A path starts with its name. -/
def TypeExpr.opening? : TypeExpr → Option Char
  | .path .. => none
  | .reference .. => some '&'
  | .tuple _ => some '('
  | .slice _ => some '['

namespace TypeText

/-- The mark at the start of a text. -/
def openingOf (characters : List Char) : Option Char :=
  characters.head?.filter (· ∈ typeMarks)

theorem Ends.marked {rest : List Char} (ends : Ends rest) :
    ∀ character ∈ rest.head?, character ∈ typeMarks := by
  have marks : ∀ character ∈ [',', '>', ')', ']'], character ∈ typeMarks := by simp [typeMarks]
  exact fun character first => marks character (ends character first)

theorem lifetimePrefix_append_inj {lifetime otherLifetime : Option String}
    {rest otherRest : List Char} (plain : ∀ name ∈ lifetime, PlainName name)
    (otherPlain : ∀ name ∈ otherLifetime, PlainName name)
    (unquoted : openingOf rest ≠ some '\'') (otherUnquoted : openingOf otherRest ≠ some '\'')
    (same : lifetimePrefix lifetime ++ rest = lifetimePrefix otherLifetime ++ otherRest) :
    lifetime = otherLifetime ∧ rest = otherRest := by
  cases lifetime with
  | none =>
      cases otherLifetime with
      | none => exact ⟨rfl, same⟩
      | some otherName =>
          rw [lifetimePrefix, List.nil_append] at same
          rw [same] at unquoted
          exact absurd rfl unquoted
  | some name =>
      cases otherLifetime with
      | none =>
          rw [lifetimePrefix, lifetimePrefix, List.nil_append] at same
          rw [← same] at otherUnquoted
          exact absurd rfl otherUnquoted
      | some otherName =>
          have behindQuote : name.toList ++ ' ' :: rest = otherName.toList ++ ' ' :: otherRest := by
            simpa [lifetimePrefix] using same
          have blank {rest : List Char} : ∀ character ∈ (' ' :: rest).head?,
              character ∈ typeMarks := by
            rintro _ ⟨⟩
            decide
          obtain ⟨sameName, rests⟩ := name_append_inj (plain name rfl).2 (otherPlain otherName rfl).2
            blank blank behindQuote
          exact ⟨congrArg some (String.toList_inj.mp sameName), (List.cons.inj rests).2⟩

section

variable {α : Type} {text : α → List Char} {Plain : α → Prop} {items others : List α}
  {rest otherRest : List Char}

theorem marked_pathTail (ends : Ends rest) (arguments : List (List Char)) :
    ∀ character ∈ (pathTail arguments rest).head?, character ∈ typeMarks := by
  cases arguments with
  | nil => exact ends.marked
  | cons first later =>
      rintro _ ⟨⟩
      decide

theorem pathTail_inj (reads : ∀ item ∈ items, ReadsAs text Plain item)
    (plain : ∀ other ∈ others, Plain other) (ends : Ends rest) (otherEnds : Ends otherRest)
    (same : pathTail (items.map text) rest = pathTail (others.map text) otherRest) :
    items = others ∧ rest = otherRest := by
  have noBracket {rest tail : List Char} (ends : Ends rest) : rest ≠ '<' :: tail := by
    rintro rfl
    exact absurd (ends '<' rfl) (by decide)
  cases items with
  | nil =>
      cases others with
      | nil => exact ⟨rfl, same⟩
      | cons other others => exact absurd same (noBracket ends)
  | cons item items =>
      cases others with
      | nil => exact absurd same.symm (noBracket otherEnds)
      | cons other others =>
          obtain ⟨first, later⟩ := List.forall_mem_cons.mp reads
          obtain ⟨otherPlain, laterPlain⟩ := List.forall_mem_cons.mp plain
          have closes : '>' ∈ ['>', ')', ']'] := List.mem_cons_self
          obtain ⟨rfl, behind⟩ := first otherPlain (ends_laterItems _ closes rest)
            (ends_laterItems _ closes otherRest) (List.cons.inj same).2
          obtain ⟨rfl, rfl⟩ := laterItems_append_inj closes later laterPlain behind
          exact ⟨rfl, rfl⟩

theorem ends_tupleTail (later : List (List Char)) (rest : List Char) : Ends (tupleTail later rest) := by
  cases later with
  | nil =>
      rintro _ ⟨⟩
      exact List.mem_cons_self
  | cons second later => exact ends_laterItems (second :: later) (by decide) rest

/-- The comma of a single element is followed by a bracket, and every other one by a blank. -/
theorem tupleTail_inj (reads : ∀ item ∈ items, ReadsAs text Plain item)
    (plain : ∀ other ∈ others, Plain other)
    (same : tupleTail (items.map text) rest = tupleTail (others.map text) otherRest) :
    items = others ∧ rest = otherRest := by
  cases items with
  | nil =>
      cases others with
      | nil => exact ⟨rfl, (List.cons.inj (List.cons.inj same).2).2⟩
      | cons other others => exact absurd (List.cons.inj (List.cons.inj same).2).1 (by decide)
  | cons item items =>
      cases others with
      | nil => exact absurd (List.cons.inj (List.cons.inj same).2).1 (by decide)
      | cons other others => exact laterItems_append_inj (by decide) reads plain same

end

end TypeText

namespace TypeExpr

theorem opening?_ne_of_notMem {mark : Char} (other : mark ∉ ['&', '(', '[']) (type : TypeExpr) :
    type.opening? ≠ some mark := by
  rintro opened
  cases type <;> cases opened <;> simp at other

/-- A plain type starts with its mark, or else with a character that is no mark. -/
theorem openingOf_text_append {type : TypeExpr} (plain : type.Plain) (rest : List Char) :
    openingOf (type.text ++ rest) = type.opening? := by
  cases type with
  | path name arguments =>
      obtain ⟨⟨nonempty, unmarked⟩, -⟩ := (plain_path_iff name arguments).mp plain
      obtain ⟨character, characters, spelled⟩ :=
        List.exists_cons_of_ne_nil (mt String.toList_eq_nil_iff.mp nonempty)
      have unmarkedFirst : character ∉ typeMarks :=
        unmarked character (spelled ▸ List.mem_cons_self)
      rw [text_path_append, spelled]
      simp [openingOf, opening?, unmarkedFirst]
  | reference mutable lifetime inner =>
      rw [text_reference_append]
      rfl
  | tuple elements =>
      cases elements with
      | nil =>
          rw [text_tuple_nil_append]
          rfl
      | cons first later =>
          rw [text_tuple_cons_append]
          rfl
  | slice element =>
      rw [text_slice_append]
      rfl

/-- Types of different kinds start differently. -/
theorem opening?_eq {type other : TypeExpr} {rest otherRest : List Char} (plain : type.Plain)
    (otherPlain : other.Plain) (same : type.text ++ rest = other.text ++ otherRest) :
    type.opening? = other.opening? := by
  rw [← openingOf_text_append plain rest, same, openingOf_text_append otherPlain]

/-- A mutable reference to a type is not a reference to a type named `mut`. -/
theorem mut_append_ne_text {type : TypeExpr} (plain : type.Plain) {rest otherRest : List Char}
    (ends : Ends rest) : ['m', 'u', 't', ' '] ++ otherRest ≠ type.text ++ rest := by
  intro same
  have opened : type.opening? = none := by
    rw [← openingOf_text_append plain rest, ← same]
    rfl
  cases type with
  | path name arguments =>
      obtain ⟨namePlain, -⟩ := (plain_path_iff name arguments).mp plain
      rw [text_path_append] at same
      have blank : ∀ character ∈ (' ' :: otherRest).head?, character ∈ typeMarks := by
        rintro _ ⟨⟩
        decide
      have unmarked : ∀ character ∈ ['m', 'u', 't'], character ∉ typeMarks := by simp [typeMarks]
      obtain ⟨-, tails⟩ := name_append_inj unmarked namePlain.2 blank
        (marked_pathTail ends _) same
      cases arguments with
      | nil =>
          obtain rfl : ' ' :: otherRest = rest := tails
          exact absurd (ends ' ' rfl) (by decide)
      | cons argument arguments => exact absurd (List.cons.inj tails).1 (by decide)
  | reference | tuple | slice => cases opened

theorem mutabilityPrefix_append_inj {mutable otherMutable : Bool} {inner other : TypeExpr}
    {rest otherRest : List Char} (plain : inner.Plain) (otherPlain : other.Plain)
    (ends : Ends rest) (otherEnds : Ends otherRest)
    (same : mutabilityPrefix mutable ++ (inner.text ++ rest) =
      mutabilityPrefix otherMutable ++ (other.text ++ otherRest)) :
    mutable = otherMutable ∧ inner.text ++ rest = other.text ++ otherRest := by
  cases mutable <;> cases otherMutable
  · exact ⟨rfl, same⟩
  · exact absurd same.symm (mut_append_ne_text plain ends)
  · exact absurd same (mut_append_ne_text otherPlain otherEnds)
  · exact ⟨rfl, List.append_cancel_left same⟩

/-- Only a lifetime starts with a quote. -/
theorem openingOf_mutabilityPrefix_ne (mutable : Bool) {inner : TypeExpr} (plain : inner.Plain)
    (rest : List Char) :
    openingOf (mutabilityPrefix mutable ++ (inner.text ++ rest)) ≠ some '\'' := by
  cases mutable with
  | false =>
      change openingOf (inner.text ++ rest) ≠ _
      rw [openingOf_text_append plain]
      exact opening?_ne_of_notMem (by decide) inner
  | true => exact nofun

theorem readsAs_path {name : String} {arguments : List TypeArgument}
    (plain : (path name arguments).Plain)
    (reads : ∀ argument ∈ arguments, ReadsAs TypeArgument.text TypeArgument.Plain argument) :
    ReadsAs text Plain (path name arguments) := by
  intro other rest otherRest otherPlain ends otherEnds same
  have opened := opening?_eq plain otherPlain same
  cases other with
  | path otherName otherArguments =>
      obtain ⟨namePlain, -⟩ := (plain_path_iff name arguments).mp plain
      obtain ⟨otherNamePlain, argumentsPlain⟩ :=
        (plain_path_iff otherName otherArguments).mp otherPlain
      rw [text_path_append, text_path_append] at same
      obtain ⟨sameName, tails⟩ := name_append_inj namePlain.2 otherNamePlain.2
        (marked_pathTail ends _) (marked_pathTail otherEnds _) same
      obtain rfl := String.toList_inj.mp sameName
      obtain ⟨rfl, rfl⟩ := pathTail_inj reads argumentsPlain ends otherEnds tails
      exact ⟨rfl, rfl⟩
  | reference | tuple | slice => cases opened

theorem readsAs_reference {mutable : Bool} {lifetime : Option String} {inner : TypeExpr}
    (plain : (reference mutable lifetime inner).Plain) (reads : ReadsAs text Plain inner) :
    ReadsAs text Plain (reference mutable lifetime inner) := by
  intro other rest otherRest otherPlain ends otherEnds same
  have opened := opening?_eq plain otherPlain same
  cases other with
  | reference otherMutable otherLifetime otherInner =>
      obtain ⟨lifetimePlain, innerPlain⟩ := (plain_reference_iff ..).mp plain
      obtain ⟨otherLifetimePlain, otherInnerPlain⟩ := (plain_reference_iff ..).mp otherPlain
      rw [text_reference_append, text_reference_append] at same
      obtain ⟨rfl, behindLifetime⟩ := lifetimePrefix_append_inj lifetimePlain otherLifetimePlain
        (openingOf_mutabilityPrefix_ne mutable innerPlain rest)
        (openingOf_mutabilityPrefix_ne otherMutable otherInnerPlain otherRest)
        (List.cons.inj same).2
      obtain ⟨rfl, sameInner⟩ :=
        mutabilityPrefix_append_inj innerPlain otherInnerPlain ends otherEnds behindLifetime
      obtain ⟨rfl, rfl⟩ := reads otherInnerPlain ends otherEnds sameInner
      exact ⟨rfl, rfl⟩
  | path | tuple | slice => cases opened

/-- No element starts with the bracket that closes an empty tuple. -/
theorem text_append_ne_close {type : TypeExpr} (plain : type.Plain) (rest otherRest : List Char) :
    type.text ++ rest ≠ ')' :: otherRest := by
  intro same
  have opened := openingOf_text_append plain rest
  rw [same] at opened
  exact opening?_ne_of_notMem (by decide) type opened.symm

theorem readsAs_tuple {elements : List TypeExpr} (plain : (tuple elements).Plain)
    (reads : ∀ element ∈ elements, ReadsAs text Plain element) :
    ReadsAs text Plain (tuple elements) := by
  intro other rest otherRest otherPlain ends otherEnds same
  have opened := opening?_eq plain otherPlain same
  cases other with
  | tuple others =>
      have elementsPlain := (plain_tuple_iff elements).mp plain
      have othersPlain := (plain_tuple_iff others).mp otherPlain
      cases elements with
      | nil =>
          rw [text_tuple_nil_append] at same
          cases others with
          | nil =>
              rw [text_tuple_nil_append] at same
              exact ⟨rfl, (List.cons.inj (List.cons.inj same).2).2⟩
          | cons other others =>
              rw [text_tuple_cons_append] at same
              have firstPlain := othersPlain other List.mem_cons_self
              exact absurd (List.cons.inj same).2.symm (text_append_ne_close firstPlain _ _)
      | cons first later =>
          rw [text_tuple_cons_append] at same
          cases others with
          | nil =>
              rw [text_tuple_nil_append] at same
              have firstPlain := elementsPlain first List.mem_cons_self
              exact absurd (List.cons.inj same).2 (text_append_ne_close firstPlain _ _)
          | cons other others =>
              rw [text_tuple_cons_append] at same
              obtain ⟨firstReads, laterReads⟩ := List.forall_mem_cons.mp reads
              obtain ⟨firstPlain, laterPlain⟩ := List.forall_mem_cons.mp othersPlain
              obtain ⟨rfl, tails⟩ := firstReads firstPlain (ends_tupleTail _ rest)
                (ends_tupleTail _ otherRest) (List.cons.inj same).2
              obtain ⟨rfl, rfl⟩ := tupleTail_inj laterReads laterPlain tails
              exact ⟨rfl, rfl⟩
  | path | reference | slice => cases opened

theorem readsAs_slice {element : TypeExpr} (plain : (slice element).Plain)
    (reads : ReadsAs text Plain element) : ReadsAs text Plain (slice element) := by
  intro other rest otherRest otherPlain ends otherEnds same
  have opened := opening?_eq plain otherPlain same
  cases other with
  | slice otherElement =>
      rw [text_slice_append, text_slice_append] at same
      have closed {rest : List Char} : Ends (']' :: rest) := by
        rintro _ ⟨⟩
        decide
      have elementPlain : otherElement.Plain := otherPlain
      obtain ⟨rfl, rests⟩ := reads elementPlain closed closed (List.cons.inj same).2
      exact ⟨rfl, (List.cons.inj rests).2⟩
  | path | reference | tuple => cases opened

end TypeExpr

namespace TypeArgument

theorem text_lifetime_append (name : String) (rest : List Char) :
    (lifetime name).text ++ rest = '\'' :: (name.toList ++ rest) := by
  simp [text, render, lifetimeText]

/-- No type starts with a quote. -/
theorem text_type_append_ne {named : TypeExpr} (plain : named.Plain) (rest otherRest : List Char) :
    (type named).text ++ rest ≠ '\'' :: otherRest := by
  intro same
  have opened : openingOf ('\'' :: otherRest) = named.opening? := by
    rw [← same]
    exact TypeExpr.openingOf_text_append plain rest
  exact TypeExpr.opening?_ne_of_notMem (by decide) named opened.symm

theorem readsAs_type {named : TypeExpr} (plain : named.Plain)
    (reads : ReadsAs TypeExpr.text TypeExpr.Plain named) : ReadsAs text Plain (type named) := by
  intro other rest otherRest otherPlain ends otherEnds same
  cases other with
  | type otherNamed =>
      obtain ⟨rfl, rfl⟩ := reads otherPlain ends otherEnds same
      exact ⟨rfl, rfl⟩
  | lifetime name =>
      rw [text_lifetime_append] at same
      exact absurd same (text_type_append_ne plain rest _)

theorem readsAs_lifetime {name : String} (plain : PlainName name) :
    ReadsAs text Plain (lifetime name) := by
  intro other rest otherRest otherPlain ends otherEnds same
  rw [text_lifetime_append] at same
  cases other with
  | type named => exact absurd same.symm (text_type_append_ne otherPlain otherRest _)
  | lifetime otherName =>
      rw [text_lifetime_append] at same
      have otherNamePlain : PlainName otherName := otherPlain otherName List.mem_cons_self
      obtain ⟨sameName, rests⟩ := name_append_inj plain.2 otherNamePlain.2 ends.marked
        otherEnds.marked (List.cons.inj same).2
      exact ⟨congrArg lifetime (String.toList_inj.mp sameName), rests⟩

end TypeArgument

mutual

/-- From the left, the text of a type can be read in one way only. -/
theorem TypeExpr.readsAs : ∀ type : TypeExpr, type.Plain →
    ReadsAs TypeExpr.text TypeExpr.Plain type
  | .path name arguments, plain =>
      TypeExpr.readsAs_path plain
        (TypeArgument.readsAs_all arguments ((TypeExpr.plain_path_iff name arguments).mp plain).2)
  | .reference _ _ inner, plain =>
      TypeExpr.readsAs_reference plain
        (TypeExpr.readsAs inner ((TypeExpr.plain_reference_iff _ _ inner).mp plain).2)
  | .tuple elements, plain =>
      TypeExpr.readsAs_tuple plain
        (TypeExpr.readsAs_all elements ((TypeExpr.plain_tuple_iff elements).mp plain))
  | .slice element, plain => TypeExpr.readsAs_slice plain (TypeExpr.readsAs element plain)

theorem TypeExpr.readsAs_all : ∀ types : List TypeExpr, (∀ type ∈ types, type.Plain) →
    ∀ type ∈ types, ReadsAs TypeExpr.text TypeExpr.Plain type
  | [], _ => List.forall_mem_nil _
  | type :: types, plain => by
      obtain ⟨first, later⟩ := List.forall_mem_cons.mp plain
      exact List.forall_mem_cons.mpr
        ⟨TypeExpr.readsAs type first, TypeExpr.readsAs_all types later⟩

theorem TypeArgument.readsAs : ∀ argument : TypeArgument, argument.Plain →
    ReadsAs TypeArgument.text TypeArgument.Plain argument
  | .type type, plain => TypeArgument.readsAs_type plain (TypeExpr.readsAs type plain)
  | .lifetime name, plain => TypeArgument.readsAs_lifetime (plain name List.mem_cons_self)

theorem TypeArgument.readsAs_all :
    ∀ arguments : List TypeArgument, (∀ argument ∈ arguments, argument.Plain) →
      ∀ argument ∈ arguments, ReadsAs TypeArgument.text TypeArgument.Plain argument
  | [], _ => List.forall_mem_nil _
  | argument :: arguments, plain => by
      obtain ⟨first, later⟩ := List.forall_mem_cons.mp plain
      exact List.forall_mem_cons.mpr
        ⟨TypeArgument.readsAs argument first, TypeArgument.readsAs_all arguments later⟩

end

/-- Two types are the same for a comparison exactly if they are the same tree, and exactly if they have
the same text, as long as no name in them holds a mark. -/
theorem TypeArgument.render_identifies (left right : TypeArgument) :
    ((left == right) = true ↔ left = right) ∧
      (left.Plain → right.Plain → (left.render = right.render ↔ (left == right) = true)) := by
  refine ⟨beq_iff_eq, ?_⟩
  intro leftPlain rightPlain
  rw [beq_iff_eq]
  constructor
  · intro sameText
    have ends : Ends [] := nofun
    exact (readsAs left leftPlain rightPlain ends ends
      (congrArg (·.toList ++ []) sameText)).1
  · rintro rfl
    rfl

/-- The type `&mut (mut<'a>,)`. -/
def mutableReference : TypeArgument :=
  .type (.reference true none (.tuple [.path "mut" [.lifetime "a"]]))

/-- The type `&'a mut`, a shared reference to a path of that name. -/
def sharedReference : TypeArgument :=
  .type (.reference false (some "a") (.path "mut" []))

theorem TypeArgument.render_identifies_mut :
    mutableReference.Plain ∧ sharedReference.Plain ∧
      ((mutableReference == sharedReference) = true ↔ mutableReference = sharedReference) ∧
      (mutableReference.render = sharedReference.render ↔
        (mutableReference == sharedReference) = true) := by
  have leftPlain : mutableReference.Plain := by
    have names : mutableReference.names = ["mut", "a"] := rfl
    rw [TypeArgument.Plain, names]
    decide +kernel
  have rightPlain : sharedReference.Plain := by
    have names : sharedReference.names = ["a", "mut"] := rfl
    rw [TypeArgument.Plain, names]
    decide +kernel
  obtain ⟨sameTree, sameText⟩ := TypeArgument.render_identifies mutableReference sharedReference
  exact ⟨leftPlain, rightPlain, sameTree, sameText leftPlain rightPlain⟩

/-- A name with a comma in it may be mistaken for two names. -/
example : (TypeExpr.tuple [.named "A, B", .named "C"]).render =
    (TypeExpr.tuple [.named "A", .named "B, C"]).render := by
  decide +kernel

end InterfaceContract
