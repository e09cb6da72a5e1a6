/-
This file says what camel casing makes of an identifier, and shows that it neither makes a name reserved
nor hides that it is.
-/

import InterfaceContract.Declaration.Builder
import InterfaceContract.Proofs.Field.Rules
import InterfaceContract.Proofs.Text.Words

namespace InterfaceContract

namespace Name

/-- A word behind another one starts in upper case. -/
def raiseFirst : List Char → List Char
  | [] => []
  | first :: rest => Text.uppercase first ++ rest

/-- The first word keeps its case. -/
def joined : List (List Char) → List Char
  | [] => []
  | first :: later => first ++ later.flatMap raiseFirst

/-- The words between underscores are joined; the mark of a reserved identifier stays in front of
them. -/
inductive CamelCased : List Char → List Char → Prop
  | reserved {rest : List Char} {words : List (List Char)}
      (has : Text.HasWords (· == '_') rest words) :
      CamelCased ('_' :: '_' :: rest) ('_' :: '_' :: joined words)
  | free {characters : List Char} {words : List (List Char)}
      (unmarked : ¬ ['_', '_'] <+: characters) (has : Text.HasWords (· == '_') characters words) :
      CamelCased characters (joined words)

/-- A name in camel case has the mark of its identifier and no underscore besides, and casing it again
changes nothing. -/
structure KeepsOnlyMark (ident name : String) : Prop where
  cased : CamelCased ident.toList name.toList
  mark : ['_', '_'] <+: name.toList ↔ ['_', '_'] <+: ident.toList
  underscores : '_' ∉ name.toList ∨ ∃ rest, name.toList = '_' :: '_' :: rest ∧ '_' ∉ rest
  settled : camelCase name = name

section

variable {word characters : List Char} {words : List (List Char)}

theorem notMem_of_whole (whole : ∀ character ∈ word, (character == '_') = false) : '_' ∉ word :=
  fun member => absurd (whole '_' member) (by decide)

/-- A word ends at an underscore, and the next one is raised. -/
theorem joinWords_append_underscore (absent : '_' ∉ word) (rest : List Char) :
    joinWords false (word ++ '_' :: rest) = word ++ joinWords true rest := by
  induction word with
  | nil => rw [List.nil_append, joinWords_underscore, List.nil_append]
  | cons character word inductionHypothesis =>
      have other : character ≠ '_' := Ne.symm (List.ne_of_not_mem_cons absent)
      rw [List.cons_append, joinWords_cons other,
        inductionHypothesis (List.not_mem_of_not_mem_cons absent)]
      rfl

theorem joinWords_true_of_whole (nonempty : word ≠ []) (absent : '_' ∉ word) :
    joinWords true word = raiseFirst word := by
  cases word with
  | nil => exact absurd rfl nonempty
  | cons first word =>
      have other : first ≠ '_' := Ne.symm (List.ne_of_not_mem_cons absent)
      rw [joinWords_cons other, joinWords_eq_self (List.not_mem_of_not_mem_cons absent)]
      rfl

theorem joinWords_true_append_underscore (nonempty : word ≠ []) (absent : '_' ∉ word)
    (rest : List Char) :
    joinWords true (word ++ '_' :: rest) = raiseFirst word ++ joinWords true rest := by
  cases word with
  | nil => exact absurd rfl nonempty
  | cons first word =>
      have other : first ≠ '_' := Ne.symm (List.ne_of_not_mem_cons absent)
      rw [List.cons_append, joinWords_cons other,
        joinWords_append_underscore (List.not_mem_of_not_mem_cons absent), raiseFirst,
        List.append_assoc]
      rfl

/-- Behind an underscore every word is raised. -/
theorem joinWords_true_eq (has : Text.HasWords (· == '_') characters words) :
    joinWords true characters = words.flatMap raiseFirst := by
  induction has with
  | nil => rfl
  | skip ends remaining inductionHypothesis =>
      obtain rfl := eq_of_beq ends
      rw [joinWords_underscore, inductionHypothesis]
  | last nonempty whole =>
      rw [joinWords_true_of_whole nonempty (notMem_of_whole whole), List.flatMap_singleton]
  | next nonempty whole ends remaining inductionHypothesis =>
      obtain rfl := eq_of_beq ends
      rw [joinWords_true_append_underscore nonempty (notMem_of_whole whole), inductionHypothesis,
        List.flatMap_cons]

theorem camelChars_underscore (rest : List Char) : camelChars ('_' :: rest) = camelChars rest := rfl

theorem camelChars_cons {character : Char} (other : character ≠ '_') (rest : List Char) :
    camelChars (character :: rest) = joinWords false (character :: rest) := by
  rw [camelChars, List.dropWhile_cons_of_neg (by simpa using other)]

/-- Characters without an underscore are in camel case already. -/
theorem camelChars_eq_self (absent : '_' ∉ characters) : camelChars characters = characters := by
  cases characters with
  | nil => rfl
  | cons character rest =>
      have other : character ≠ '_' := Ne.symm (List.ne_of_not_mem_cons absent)
      rw [camelChars_cons other, joinWords_eq_self absent]

theorem camelChars_append_underscore (nonempty : word ≠ []) (absent : '_' ∉ word)
    (rest : List Char) : camelChars (word ++ '_' :: rest) = word ++ joinWords true rest := by
  cases word with
  | nil => exact absurd rfl nonempty
  | cons first word =>
      have other : first ≠ '_' := Ne.symm (List.ne_of_not_mem_cons absent)
      rw [List.cons_append, camelChars_cons other, ← List.cons_append,
        joinWords_append_underscore absent]

theorem underscore_notMem_camelChars (characters : List Char) : '_' ∉ camelChars characters :=
  underscore_notMem_joinWords false _

/-- Underscores in front vanish, and the first word behind them is the one that keeps its case. -/
theorem camelChars_eq_joined (has : Text.HasWords (· == '_') characters words) :
    camelChars characters = joined words := by
  induction has with
  | nil => rfl
  | skip ends remaining inductionHypothesis =>
      obtain rfl := eq_of_beq ends
      rw [camelChars_underscore, inductionHypothesis]
  | last nonempty whole =>
      rw [camelChars_eq_self (notMem_of_whole whole), joined, List.flatMap_nil, List.append_nil]
  | next nonempty whole ends remaining _ =>
      obtain rfl := eq_of_beq ends
      rw [camelChars_append_underscore nonempty (notMem_of_whole whole),
        joinWords_true_eq remaining, joined]

end

section

variable {ident name : String} {rest : List Char}

theorem toList_camelCase_of_marked (marked : ident.toList = '_' :: '_' :: rest) :
    (camelCase ident).toList = '_' :: '_' :: camelChars rest := by
  rw [camelCase, marked]
  exact String.toList_ofList

theorem toList_camelCase_of_unmarked (unmarked : ¬ ['_', '_'] <+: ident.toList) :
    (camelCase ident).toList = camelChars ident.toList := by
  rw [camelCase]
  split
  case h_1 rest marked => exact absurd ⟨rest, marked.symm⟩ unmarked
  case h_2 => exact String.toList_ofList

theorem marked_or_unmarked (ident : String) :
    (∃ rest, ident.toList = '_' :: '_' :: rest) ∨ ¬ ['_', '_'] <+: ident.toList := by
  by_cases marked : ['_', '_'] <+: ident.toList
  · obtain ⟨rest, split⟩ := marked
    exact .inl ⟨rest, split.symm⟩
  · exact .inr marked

theorem unmarked_of_notMem {characters : List Char} (absent : '_' ∉ characters) :
    ¬ ['_', '_'] <+: characters := by
  intro marked
  exact absent (marked.subset List.mem_cons_self)

/-- A name without underscores behind its mark is in camel case already. -/
theorem camelCase_eq_self
    (underscores : '_' ∉ name.toList ∨ ∃ rest, name.toList = '_' :: '_' :: rest ∧ '_' ∉ rest) :
    camelCase name = name := by
  apply String.toList_injective
  rcases underscores with absent | ⟨rest, marked, absent⟩
  · rw [toList_camelCase_of_unmarked (unmarked_of_notMem absent), camelChars_eq_self absent]
  · rw [toList_camelCase_of_marked marked, camelChars_eq_self absent, marked]

theorem keepsOnlyMark (ident : String) : KeepsOnlyMark ident (camelCase ident) := by
  rcases marked_or_unmarked ident with ⟨rest, marked⟩ | unmarked
  · have cased := toList_camelCase_of_marked marked
    have underscores : '_' ∉ (camelCase ident).toList ∨
        ∃ rest, (camelCase ident).toList = '_' :: '_' :: rest ∧ '_' ∉ rest :=
      .inr ⟨_, cased, underscore_notMem_camelChars rest⟩
    have has := Text.hasWords_words (· == '_') rest
    refine ⟨?_, ?_, underscores, camelCase_eq_self underscores⟩
    · rw [cased, marked, camelChars_eq_joined has]
      exact .reserved has
    · rw [cased, marked]
      exact iff_of_true ⟨_, rfl⟩ ⟨_, rfl⟩
  · have cased := toList_camelCase_of_unmarked unmarked
    have absent : '_' ∉ (camelCase ident).toList := by
      rw [cased]
      exact underscore_notMem_camelChars ident.toList
    have has := Text.hasWords_words (· == '_') ident.toList
    refine ⟨?_, iff_of_false (unmarked_of_notMem absent) unmarked, .inl absent,
      camelCase_eq_self (.inl absent)⟩
    rw [cased, camelChars_eq_joined has]
    exact .free unmarked has

theorem isReserved_eq_true_iff : isReserved name = true ↔ ['_', '_'] <+: name.toList :=
  List.isPrefixOf_iff_prefix

/-- An identifier is exposed under a reserved name exactly if it is reserved itself. -/
theorem isReserved_exposed (ident : String) :
    isReserved (exposed ident) = isReserved (dropRawMark ident) := by
  rw [Bool.eq_iff_iff, isReserved_eq_true_iff, isReserved_eq_true_iff]
  exact (keepsOnlyMark (dropRawMark ident)).mark

end

end Name

/-- No engine role is read off a reserved identifier. -/
theorem EngineRole.ofIdent?_of_marked {ident : String} (marked : ['_', '_'] <+: ident.toList) :
    EngineRole.ofIdent? ident = none := by
  have unmarked : ∀ name ∈ ["context", "ctx", "executor"], ¬ ['_', '_'] <+: name.toList := by
    decide +kernel
  have other : ident ∉ ["context", "ctx", "executor"] := fun member => unmarked ident member marked
  simp only [List.mem_cons, List.not_mem_nil, not_or] at other
  simp [ofIdent?, other]

/-- Whether the name of a method is refused as reserved is decided by its identifier, without the raw
mark. -/
structure Method.CheckedByIdent (internal : Bool) (method : Method) (directives : MethodDirectives) :
    Prop where
  name : Name.isReserved (method.exposedName directives) =
    Name.isReserved (Name.dropRawMark method.ident)
  refused : ∀ span, method.checkField internal directives = .error (.reservedName span) ↔
    internal = false ∧ ['_', '_'] <+: (Name.dropRawMark method.ident).toList ∧ span = method.span

theorem Method.checkedByIdent {method : Method} {directives : MethodDirectives}
    (unnamed : directives.name = none) (internal : Bool) :
    method.CheckedByIdent internal directives := by
  have exposed : method.exposedName directives = Name.exposed method.ident := by
    rw [exposedName, unnamed]
  have blamed : method.nameSpan directives = method.span := by rw [nameSpan, unnamed]
  have name := Name.isReserved_exposed method.ident
  refine ⟨exposed ▸ name, ?_⟩
  intro span
  rw [checkField_eq_reservedName_iff, exposed, blamed, name, Name.isReserved_eq_true_iff]

/-- Whether the name of a parameter is refused as reserved is decided by its identifier, without the
raw mark, unless a directive leaves the parameter to the execution engine. -/
structure Parameter.CheckedByIdent (internal : Bool) (parameter : Parameter)
    (directives : ParameterDirectives) (ident : String) : Prop where
  name : ∃ name, parameter.exposedName? directives = some name ∧
    Name.isReserved name = Name.isReserved (Name.dropRawMark ident)
  refused : ∀ span, parameter.resolve internal = .error (.reservedName span) ↔
    (directives.context = none ∧ directives.executor = none) ∧ internal = false ∧
      ['_', '_'] <+: (Name.dropRawMark ident).toList ∧ span = parameter.span

theorem Parameter.engineRole?_eq_none_iff {parameter : Parameter} {ident : String}
    (bound : parameter.pattern = .ident ident) {directives : ParameterDirectives} :
    parameter.engineRole? directives = none ↔ directives.context = none ∧
      directives.executor = none ∧ EngineRole.ofIdent? (Name.dropRawMark ident) = none := by
  rw [engineRole?, bound]
  cases directives.context <;> cases directives.executor <;> simp

theorem Parameter.checkedByIdent {parameter : Parameter} {directives : ParameterDirectives}
    {ident : String} (found : parameter.directives = .found directives)
    (unnamed : directives.name = none) (bound : parameter.pattern = .ident ident) (internal : Bool) :
    parameter.CheckedByIdent internal directives ident := by
  have exposed : parameter.exposedName? directives = some (Name.exposed ident) := by
    rw [exposedName?, unnamed, bound]
  have blamed : parameter.nameSpan directives = parameter.span := by rw [nameSpan, unnamed]
  have name := Name.isReserved_exposed ident
  refine ⟨⟨_, exposed, name⟩, ?_⟩
  intro span
  rw [resolve_eq_reservedName_iff found, engineRole?_eq_none_iff bound, exposed, blamed]
  simp only [Option.some.injEq, exists_eq_left']
  rw [name, Name.isReserved_eq_true_iff]
  constructor
  · rintro ⟨⟨context, executor, -⟩, common, place, marked⟩
    exact ⟨⟨context, executor⟩, common, marked, place⟩
  · rintro ⟨⟨context, executor⟩, common, marked, place⟩
    exact ⟨⟨context, executor, EngineRole.ofIdent?_of_marked marked⟩, common, place, marked⟩

/-- Camel casing keeps the mark of a reserved identifier and drops all other underscores. So where no
directive gives a name, a method or a parameter is refused as reserved for its identifier alone. -/
theorem Name.camelCase_keepsOnlyMark :
    (∀ ident : String, KeepsOnlyMark ident (camelCase ident)) ∧
      (∀ (internal : Bool) (method : Method) (directives : MethodDirectives),
        directives.name = none → method.CheckedByIdent internal directives) ∧
      ∀ (internal : Bool) (parameter : Parameter) (directives : ParameterDirectives) (ident : String),
        parameter.directives = .found directives → directives.name = none →
          parameter.pattern = .ident ident → parameter.CheckedByIdent internal directives ident := by
  refine ⟨keepsOnlyMark, ?_, ?_⟩
  · intro internal method directives unnamed
    exact Method.checkedByIdent unnamed internal
  · intro internal parameter directives ident found unnamed bound
    exact Parameter.checkedByIdent found unnamed bound internal

def kindMethod : Method :=
  .ofOutline "r#__kind" {}

def depthParameter : Parameter :=
  .ofName "___max__depth_" (.named "u8") {}

/-- A raw mark does not hide a reserved name, and neither does a third underscore. -/
theorem Name.camelCase_keepsOnlyMark_kind :
    KeepsOnlyMark "___straße__ßa_" (camelCase "___straße__ßa_") ∧
      camelCase "___straße__ßa_" = "__straßeSSa" ∧
      (({} : MethodDirectives).name = none ∧ kindMethod.CheckedByIdent false {}) ∧
      depthParameter.directives = .found {} ∧ ({} : ParameterDirectives).name = none ∧
      depthParameter.pattern = .ident "___max__depth_" ∧
      depthParameter.CheckedByIdent false {} "___max__depth_" := by
  obtain ⟨names, methods, parameters⟩ := camelCase_keepsOnlyMark
  exact ⟨names _, by decide +kernel, ⟨rfl, methods false kindMethod {} rfl⟩, rfl, rfl, rfl,
    parameters false depthParameter {} "___max__depth_" rfl rfl rfl⟩

end InterfaceContract
