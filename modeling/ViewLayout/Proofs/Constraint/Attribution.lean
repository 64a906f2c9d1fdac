import ViewLayout.Constraint
import ViewLayout.Proofs.Chain.Blame
import ViewLayout.Proofs.Equation.Grammar
import ViewLayout.Proofs.Equation.Lowering

/-!
# What an error of compiling is about

The error of a constraint text names that text and the format it was read as. When a word of the
text is at fault, the error carries the word and the place of the word in the text. Two things can
never be at fault: a number, since every number that can be written is read, and the groups
captured from an equation. Compiling is ready for a wrong number of groups and for a required one
that was not captured, but an equation is only read when it has all of them.
-/

namespace ViewLayout

open ViewLayout.Number ViewLayout.Text ViewLayout.Grammar ViewLayout.Outcome

/-- The fault of a word that an error is about, if it is about one. -/
def ConstraintError.fault? : ConstraintError → Option Fault
  | bare fault => some fault
  | within _ _ fault => some fault
  | malformed _ _ _ _ => none
  | rejected _ (.unresolved fault) _ => some fault
  | rejected _ _ _ => none

/-- The syntax fault that an error is about, if it is about one. -/
def ConstraintError.syntaxFault? : ConstraintError → Option SyntaxFault
  | malformed _ fault _ _ => some fault
  | rejected _ (.malformed fault) _ => some fault
  | _ => none

/-- A syntax fault is about captured groups: their number is wrong, or a required one is missing. -/
def SyntaxFault.OfGroups : SyntaxFault → Prop
  | groupCount _ | missingGroup _ => True
  | _ => False

/-- No fault of reading a text is about captured groups. -/
theorem not_ofGroups_of_read {α : Type} {raw : String} {reader : Tokens → Except Stop α}
    {error : SyntaxError} (refused : Grammar.read raw reader = .error error) :
    ¬error.fault.OfGroups := by
  unfold Grammar.read at refused
  split at refused
  · obtain rfl := Except.error.inj refused
    exact not_false
  · split at refused
    · rename_i stop _
      obtain rfl := Except.error.inj refused
      cases stop <;> exact not_false
    · contradiction

namespace Equation

/-- The word that an equation is refused for, and what is wrong with it. -/
inductive Blames (registry : Registry) (metrics : Metrics) (e : Equation) :
    Spanned String → Fault → Prop where
  | key {word : Spanned String} {fault : Fault}
      (written : word = e.first.key ∨ word = e.second.key)
      (wrong : registry.fault? word.value = some fault) : Blames registry metrics e word fault
  | edge {word : Spanned String} {fault : Fault}
      (written : word = e.first.edge ∨ word = e.second.edge)
      (wrong : Attribute.fault? word.value = some fault) : Blames registry metrics e word fault
  | relation {fault : Fault} (wrong : Relation.fault? e.relation.value = some fault) :
      Blames registry metrics e e.relation fault
  | metric {word : Spanned String} {fault : Fault}
      (written : e.factor.map (·.value) = some word ∨ e.term.map (·.value) = some word)
      (wrong : metrics.fault? word.value = some fault) : Blames registry metrics e word fault

/-- The value of a clause is written as one of its tokens. -/
theorem exists_value_of_clause {Operator : Type} {mark : Operator → Mark}
    {clause : Option (Clause Operator)} {part : Tokens} {word : Spanned String}
    (spelled : ClauseSpelled mark clause part) (written : clause.map (·.value) = some word) :
    ∃ token ∈ part, ValueSpelled word token := by
  cases spelled with
  | absent => contradiction
  | written operator value =>
    obtain rfl := Option.some.inj written
    exact ⟨_, by simp, value⟩

/-- The value of the factor or of the term is written as one of the tokens of an equation. -/
theorem Spelled.exists_value {e : Equation} {tokens : Tokens} (spelled : e.Spelled tokens)
    {word : Spanned String}
    (written : e.factor.map (·.value) = some word ∨ e.term.map (·.value) = some word) :
    ∃ token ∈ tokens, ValueSpelled word token := by
  cases spelled with
  | parts tag leftSide rightSide factored added =>
    rcases written with scales | shifts
    · obtain ⟨token, among, value⟩ := exists_value_of_clause factored scales
      exact ⟨token, by simp [among], value⟩
    · obtain ⟨token, among, value⟩ := exists_value_of_clause added shifts
      exact ⟨token, by simp [among], value⟩

/-- The word that an equation is refused for is one of its parts. -/
theorem Blames.mem_parts {registry : Registry} {metrics : Metrics} {e : Equation}
    {word : Spanned String} {fault : Fault} (blamed : e.Blames registry metrics word fault) :
    some word ∈ e.parts := by
  unfold parts
  cases blamed with
  | key written wrong => rcases written with rfl | rfl <;> simp
  | edge written wrong => rcases written with rfl | rfl <;> simp
  | relation wrong => simp
  | metric written wrong => rcases written with value | value <;> simp [value]

/-- The word that an equation is refused for stands in the text at its place, and the fault carries
the word. -/
theorem Blames.located {raw : String} {registry : Registry} {metrics : Metrics} {e : Equation}
    {word : Spanned String} {fault : Fault} (blamed : e.Blames registry metrics word fault)
    (parsed : parse raw = .ok e) :
    word.span.Cuts raw word.value ∧ fault.word? = some word.value := by
  obtain ⟨⟨tokens, scanned, spelled⟩, -⟩ := parse_eq_ok_iff.1 parsed
  have among : word ∈ presentParts (e.captures raw) := by
    rw [presentParts_captures]
    exact List.mem_filterMap.2 ⟨_, blamed.mem_parts, rfl⟩
  refine ⟨(faithful_captures scanned spelled).cuts word among, ?_⟩
  cases blamed with
  | key written wrong => exact Registry.word?_of_fault? wrong
  | edge written wrong => exact Attribute.word?_of_fault? wrong
  | relation wrong => exact Relation.word?_of_fault? wrong
  | metric written wrong =>
    obtain ⟨token, among, value⟩ := spelled.exists_value written
    have kind := (Token.scanFrom_eq_ok_iff.1 scanned).wellSpelled token among
    cases value with
    | name name span => exact Metrics.word?_of_fault? (Token.isName_of_ident kind) wrong
    | number literal span =>
      exact absurd ((metrics.fault?_of_number kind).1.symm.trans wrong) nofun

/-- The error of a word is placed in the text at the word. -/
theorem exists_fault_of_wordError? {raw : String} {word : Spanned String} {fault : Option Fault}
    {error : ConstraintError} (found : wordError? raw word fault = some error) :
    ∃ wrong, fault = some wrong ∧ error = .within raw (some word.span) wrong := by
  obtain ⟨wrong, present, rfl⟩ := Option.map_eq_some_iff.1 found
  exact ⟨wrong, present, rfl⟩

/-- The error of the value of a clause is placed in the text at the value. -/
theorem exists_fault_of_valueError? {Operator : Type} {raw : String} {metrics : Metrics}
    {clause : Option (Clause Operator)} {error : ConstraintError}
    (found : valueError? raw metrics clause = some error) :
    ∃ word, clause.map (·.value) = some word ∧ ∃ wrong, metrics.fault? word.value = some wrong ∧
      error = .within raw (some word.span) wrong := by
  obtain ⟨written, present, wrong⟩ := Option.bind_eq_some_iff.1 found
  exact ⟨written.value, Option.map_eq_some_iff.2 ⟨written, present, rfl⟩,
    exists_fault_of_wordError? wrong⟩

/-- A factor that divides by zero is an error of the whole text. -/
theorem eq_of_divisorError? {raw : String} {metrics : Metrics} {e : Equation}
    {error : ConstraintError} (found : e.divisorError? raw metrics = some error) :
    error = .malformed raw .divisionByZero none (e.captures raw) := by
  unfold divisorError? at found
  split at found
  · split at found
    · exact (Option.some.inj found).symm
    · contradiction
  · contradiction

/-- An equation that is refused divides by zero or is refused for one of its words. -/
theorem blames_of_lower {raw : String} {registry : Registry} {metrics : Metrics} {e : Equation}
    {error : ConstraintError} (failed : e.lower raw registry metrics = .error error) :
    error = .malformed raw .divisionByZero none (e.captures raw) ∨
      ∃ word fault, e.Blames registry metrics word fault ∧
        error = .within raw (some word.span) fault := by
  obtain ⟨check, listed, found⟩ :=
    List.exists_of_findSome?_eq_some ((lower_reports raw registry metrics e error).1 failed)
  obtain rfl : check = some error := found
  simp only [errors, List.mem_cons, List.not_mem_nil, or_false] at listed
  rcases listed with first | second | left | right | relation | factor | divisor | term
  · obtain ⟨fault, wrong, same⟩ := exists_fault_of_wordError? first.symm
    exact .inr ⟨_, fault, .key (.inl rfl) wrong, same⟩
  · obtain ⟨fault, wrong, same⟩ := exists_fault_of_wordError? second.symm
    exact .inr ⟨_, fault, .key (.inr rfl) wrong, same⟩
  · obtain ⟨fault, wrong, same⟩ := exists_fault_of_wordError? left.symm
    exact .inr ⟨_, fault, .edge (.inl rfl) wrong, same⟩
  · obtain ⟨fault, wrong, same⟩ := exists_fault_of_wordError? right.symm
    exact .inr ⟨_, fault, .edge (.inr rfl) wrong, same⟩
  · obtain ⟨fault, wrong, same⟩ := exists_fault_of_wordError? relation.symm
    exact .inr ⟨_, fault, .relation wrong, same⟩
  · obtain ⟨word, written, fault, wrong, same⟩ := exists_fault_of_valueError? factor.symm
    exact .inr ⟨word, fault, .metric (.inl written) wrong, same⟩
  · exact .inl (eq_of_divisorError? divisor.symm)
  · obtain ⟨word, written, fault, wrong, same⟩ := exists_fault_of_valueError? term.symm
    exact .inr ⟨word, fault, .metric (.inr written) wrong, same⟩

/-- A group that was captured is found when it is required. -/
theorem Present.exists_required {captures : List Capture} {index : Nat}
    (present : Present captures index) (raw : String) :
    ∃ part, required raw captures index = .ok part := by
  obtain ⟨part, captured⟩ := present
  refine ⟨part, ?_⟩
  rw [required, Capture.at?, captured]
  rfl

/-- No fault of a text that is not read as an equation is about captured groups. -/
theorem not_ofGroups_of_parse {raw : String} {rejection : Rejection}
    (refused : parse raw = .error rejection) : ¬rejection.error.fault.OfGroups := by
  unfold parse at refused
  split at refused
  · rename_i unread
    obtain rfl := Except.error.inj refused
    exact not_ofGroups_of_read unread
  · dsimp only at refused
    split at refused
    · obtain rfl := Except.error.inj refused
      exact not_false
    · contradiction

/-- A text that is refused as an equation is malformed, but not for its captured groups, or is
refused for one of its words, which stands in the text at the place of the error. -/
theorem malformed_or_blames_of_compile {raw : String} {registry : Registry} {metrics : Metrics}
    {error : ConstraintError} (failed : compile raw registry metrics = .error error) :
    (∃ fault span captures, error = .malformed raw fault span captures ∧ ¬fault.OfGroups) ∨
      ∃ e word fault, parse raw = .ok e ∧ e.Blames registry metrics word fault ∧
        error = .within raw (some word.span) fault ∧ fault.word? = some word.value ∧
        word.span.Cuts raw word.value := by
  cases parsed : parse raw with
  | error rejection =>
    rw [compile_of_rejected parsed] at failed
    exact .inl ⟨_, _, _, (Except.error.inj failed).symm, not_ofGroups_of_parse parsed⟩
  | ok e =>
    rw [compile_of_parse parsed] at failed
    rcases blames_of_lower failed with divisor | ⟨word, fault, blamed, same⟩
    · exact .inl ⟨_, _, _, divisor, not_false⟩
    · obtain ⟨cuts, carried⟩ := blamed.located parsed
      exact .inr ⟨e, word, fault, rfl, blamed, same, carried, cuts⟩

end Equation

/-- A chain that is refused for an item is no malformed text. -/
theorem Chain.Blames.syntaxFault?_eq_none {raw item : String} {chain : Chain} {registry : Registry}
    {metrics : Metrics} {rejection : Rejection}
    (blamed : chain.Blames registry metrics item rejection) :
    (ConstraintError.rejected raw rejection.fault rejection.span).syntaxFault? = none := by
  cases blamed with
  | view => rfl
  | predicate _ inside => cases inside <;> rfl

namespace Constraint

/-- The wordings of an equation whose groups were not captured as its grammar promises: a wrong
number of groups, or a required group that is missing. -/
def Unmatched (reason : String) : Prop :=
  (∃ count : Nat, reason = "expected 10 groups, matched " ++ toString count) ∨
    ∃ index : Nat, reason = "group " ++ toString index ++ " did not match"

/-- A text begins with the first character of what it is put together from. -/
theorem head?_append {first later : String} {c : Char} (begins : first.toList.head? = some c) :
    (first ++ later).toList.head? = some c := by
  rw [String.toList_append, List.head?_append, begins, Option.some_or]

/-- No fault but those of captured groups is worded like them: the first character tells them
apart. -/
theorem head?_reason {error : ConstraintError}
    (other : ∀ fault ∈ error.syntaxFault?, ¬fault.OfGroups) :
    ∃ c, error.reason.toList.head? = some c ∧ c ≠ 'e' ∧ c ≠ 'g' := by
  have word (fault : Fault) : ∃ c, fault.message.toList.head? = some c ∧ c ≠ 'e' ∧ c ≠ 'g' := by
    cases fault with
    | unknownMetric => exact ⟨'m', head?_append (head?_append (by decide)), by decide⟩
    | malformedNumber => exact ⟨'`', head?_append (head?_append (by decide)), by decide⟩
    | unknownAttribute =>
      exact ⟨'a', head?_append (head?_append (head?_append (by decide))), by decide⟩
    | unknownRelation =>
      exact ⟨'r', head?_append (head?_append (head?_append (by decide))), by decide⟩
    | unknownKey => exact ⟨'n', head?_append (head?_append (by decide)), by decide⟩
    | parentUnresolved => exact ⟨'p', head?_append (head?_append (by decide)), by decide⟩
    | reservedKey => exact ⟨'k', head?_append (head?_append (by decide)), by decide⟩
    | emptySequence => exact ⟨'s', by decide, by decide⟩
    | host => exact ⟨'h', head?_append (by decide), by decide⟩
  have text (fault : SyntaxFault) (other : ¬fault.OfGroups) :
      ∃ c, fault.message.toList.head? = some c ∧ c ≠ 'e' ∧ c ≠ 'g' := by
    cases fault with
    | unexpectedCharacter => exact ⟨'u', head?_append (head?_append (by decide)), by decide⟩
    | unexpectedToken => exact ⟨'u', head?_append (by decide), by decide⟩
    | unexpectedEnd => exact ⟨'u', by decide, by decide⟩
    | spacedDot => exact ⟨'n', by decide, by decide⟩
    | longIdentifier =>
      exact ⟨'i', head?_append (head?_append (head?_append (head?_append (by decide)))), by decide⟩
    | groupCount => exact absurd trivial other
    | missingGroup => exact absurd trivial other
    | divisionByZero => exact ⟨'d', by decide, by decide⟩
  cases error with
  | bare fault => exact word fault
  | within _ _ fault => exact word fault
  | malformed _ fault _ _ => exact text fault (other fault rfl)
  | rejected _ fault _ =>
    cases fault with
    | malformed fault => exact text fault (other fault rfl)
    | unresolved fault => exact word fault
    | priorityOutOfRange => exact ⟨'p', head?_append (head?_append (by decide)), by decide⟩

/-- No error but one of captured groups is worded like an equation whose groups were not
captured. -/
theorem not_unmatched_reason {error : ConstraintError}
    (other : ∀ fault ∈ error.syntaxFault?, ¬fault.OfGroups) : ¬Unmatched error.reason := by
  obtain ⟨c, begins, notE, notG⟩ := head?_reason other
  rintro (⟨count, worded⟩ | ⟨index, worded⟩)
  · have expected : error.reason.toList.head? = some 'e' := by
      rw [worded]
      exact head?_append (by decide)
    exact notE (Option.some.inj (begins.symm.trans expected))
  · have group : error.reason.toList.head? = some 'g' := by
      rw [worded]
      exact head?_append (head?_append (by decide))
    exact notG (Option.some.inj (begins.symm.trans group))

/-- The error of a text that begins with no `X` is that of a chain. -/
theorem eq_rejected_of_compile {raw : String} {spacing : Spacing} {registry : Registry}
    {metrics : Metrics} {priority : Option Priority} {error : ConstraintError}
    (kind : isEquation raw = false)
    (failed : compile raw spacing registry metrics priority = .error error) :
    ∃ rejection, Chain.compile raw spacing registry metrics = .error rejection ∧
      error = .rejected raw rejection.fault rejection.span := by
  have lowered := map_eq_error_iff.1 failed
  rw [descriptors, if_neg (Bool.eq_false_iff.1 kind)] at lowered
  obtain ⟨rejection, refused, rfl⟩ := mapError_eq_error_iff.1 lowered
  exact ⟨rejection, refused, rfl⟩

/-- The error of a text that begins with an `X` is that of an equation. -/
theorem equation_error_of_compile {raw : String} {spacing : Spacing} {registry : Registry}
    {metrics : Metrics} {priority : Option Priority} {error : ConstraintError}
    (kind : isEquation raw = true)
    (failed : compile raw spacing registry metrics priority = .error error) :
    Equation.compile raw registry metrics = .error error := by
  have lowered := map_eq_error_iff.1 failed
  rw [descriptors, if_pos kind] at lowered
  exact map_eq_error_iff.1 lowered

/-- No error of compiling is about captured groups. -/
theorem not_ofGroups_of_compile {raw : String} {spacing : Spacing} {registry : Registry}
    {metrics : Metrics} {priority : Option Priority} {error : ConstraintError}
    (failed : compile raw spacing registry metrics priority = .error error) :
    ∀ fault ∈ error.syntaxFault?, ¬fault.OfGroups := by
  intro about present
  cases kind : isEquation raw with
  | false =>
    obtain ⟨rejection, refused, rfl⟩ := eq_rejected_of_compile kind failed
    rcases Chain.malformed_or_blames_of_compile refused with
      ⟨fault, unread, malformed⟩ | ⟨chain, item, -, blamed, -⟩
    · rw [malformed] at present
      obtain rfl := Option.some.inj present
      exact not_ofGroups_of_read unread
    · rw [blamed.syntaxFault?_eq_none] at present
      contradiction
  | true =>
    rcases Equation.malformed_or_blames_of_compile (equation_error_of_compile kind failed) with
      ⟨fault, _, _, rfl, other⟩ | ⟨_, _, _, -, -, rfl, -⟩
    · obtain rfl := Option.some.inj present
      exact other
    · contradiction

/-- Every error of compiling names the text, the format it was read as, and the word at fault with
its place. A text that does not begin with an `X` is refused as a chain: it is none, or one of its
views, relations, metrics or priorities is at fault, and stands in the text at the place of the
error. A text that begins with an `X` is malformed, or one of its keys, attributes, metrics or its
relation is at fault, and stands in the text at the place of the error.

No number is at fault, because every number token is read, with a minus in front of it or without;
and no missing group, because an equation that was read has ten groups and all required ones, so the
checks of their number and of the required ones go through. -/
theorem compile_attributes_errors (raw : String) (spacing : Spacing) (registry : Registry)
    (metrics : Metrics) (priority : Option Priority) :
    (∀ error, compile raw spacing registry metrics priority = .error error →
      error.raw? = some raw ∧
      (isEquation raw = false → ∃ rejection, error = .rejected raw rejection.fault rejection.span ∧
        ((∃ fault, Chain.parse raw = .error ⟨fault, rejection.span⟩ ∧
            rejection.fault = .malformed fault) ∨
          ∃ chain item, Chain.parse raw = .ok chain ∧
            chain.Blames registry metrics item rejection ∧ rejection.span.Cuts raw item ∧
            ∀ fault, rejection.fault = .unresolved fault → fault.word? = some item)) ∧
      (isEquation raw = true →
        (∃ fault span captures, error = .malformed raw fault span captures) ∨
          ∃ e word fault, Equation.parse raw = .ok e ∧ e.Blames registry metrics word fault ∧
            error = .within raw (some word.span) fault ∧ fault.word? = some word.value ∧
            word.span.Cuts raw word.value) ∧
      (∀ literal, error.fault? ≠ some (.malformedNumber literal)) ∧
      (∀ fault ∈ error.syntaxFault?, ¬fault.OfGroups) ∧ ¬Unmatched error.reason) ∧
    (∀ tokens, Token.scan raw = .ok tokens → ∀ token ∈ tokens, ∀ literal,
      token.value = .number literal → ∀ sign ∈ ["", "-"],
        ∃ number : Binary64, Binary.read? (sign ++ literal) = some number) ∧
    ∀ e, Equation.parse raw = .ok e →
      ((e.captures raw).length = 10 ∧
        ∀ index, 1 ≤ index → index ≤ 5 → Equation.Present (e.captures raw) index) ∧
      Equation.checkCount raw (e.captures raw) = .ok () ∧
      ∀ index, 1 ≤ index → index ≤ 5 →
        ∃ part, Equation.required raw (e.captures raw) index = .ok part := by
  refine ⟨fun error failed => ?_, fun tokens scanned token among literal number => ?_,
    fun e parsed => ?_⟩
  · have chain (kind : isEquation raw = false) := eq_rejected_of_compile kind failed
    have equation (kind : isEquation raw = true) :=
      Equation.malformed_or_blames_of_compile (equation_error_of_compile kind failed)
    have grouped := not_ofGroups_of_compile failed
    have worded := not_unmatched_reason grouped
    -- A fault that carries a word of the text is not that of a number.
    have noNumber {fault : Fault} {word : String} (carried : fault.word? = some word)
        (literal : String) : some fault ≠ some (.malformedNumber literal) := by
      intro same
      rw [Option.some.inj same] at carried
      contradiction
    cases kind : isEquation raw with
    | false =>
      obtain ⟨rejection, refused, rfl⟩ := chain kind
      have cause := Chain.malformed_or_blames_of_compile refused
      refine ⟨rfl, fun _ => ⟨rejection, rfl, cause⟩, nofun, ?_, grouped, worded⟩
      rcases cause with ⟨fault, -, malformed⟩ | ⟨_, item, -, -, -, carried⟩
      · rw [malformed]
        exact nofun
      · cases wrong : rejection.fault with
        | malformed fault => exact nofun
        | unresolved fault => exact noNumber (carried fault wrong)
        | priorityOutOfRange value => exact nofun
    | true =>
      rcases equation kind with
        ⟨_, _, _, rfl, -⟩ | ⟨e, word, fault, parsed, blamed, rfl, carried, cuts⟩
      · exact ⟨rfl, nofun, fun _ => .inl ⟨_, _, _, rfl⟩, nofun, grouped, worded⟩
      · exact ⟨rfl, nofun, fun _ => .inr ⟨e, word, fault, parsed, blamed, rfl, carried, cuts⟩,
          noNumber carried, grouped, worded⟩
  · have kind := (Token.scanFrom_eq_ok_iff.1 scanned).wellSpelled token among
    rw [number] at kind
    obtain ⟨plain, negative⟩ := Binary.exists_read?_of_number (f := Format.double) kind
    intro sign listed
    simp only [List.mem_cons, List.not_mem_nil, or_false] at listed
    rcases listed with rfl | rfl
    · rw [String.empty_append]
      exact plain
    · exact negative
  · obtain ⟨tokens, scanned, spelled, -⟩ := Equation.parse_eq_ok_iff_fits.1 parsed
    have present := (Equation.faithful_captures scanned spelled).required
    exact ⟨⟨rfl, present⟩, e.checkCount_captures raw, fun index positive bounded =>
      (present index positive bounded).exists_required raw⟩

/-- A metric that is not active is named by the error of its equation, at its place, and the number
before it is read. -/
theorem compile_attributes_errors_of_missing_metric :
    let raw := "X: a.left == b.left * 2 + gone"
    let registry : Registry := ⟨"parent", none, .ofList [("a", .view ⟨1⟩), ("b", .view ⟨2⟩)]⟩
    let error : ConstraintError := .within raw (some ⟨26, 30⟩) (.unknownMetric "gone")
    compile raw ⟨8, 20⟩ registry .empty none = .error error ∧
      (∀ literal, error.fault? ≠ some (.malformedNumber literal)) ∧
      (∃ e word fault, Equation.parse raw = .ok e ∧ e.Blames registry .empty word fault ∧
        error = .within raw (some word.span) fault ∧ word.span.Cuts raw word.value ∧
        (e.captures raw).length = 10 ∧ Equation.Present (e.captures raw) 3) ∧
      ∃ number : Binary64, Binary.read? ("-" ++ "2") = some number := by
  intro raw registry error
  have failed : compile raw ⟨8, 20⟩ registry .empty none = .error error := by decide +kernel
  have scanned : ∃ tokens ∈ (Token.scan raw).toOption,
      ⟨.number "2", ⟨22, 23⟩⟩ ∈ tokens := by decide +kernel
  obtain ⟨attributed, numbers, groups⟩ :=
    compile_attributes_errors raw ⟨8, 20⟩ registry .empty none
  obtain ⟨-, -, equation, noNumber, -, -⟩ := attributed error failed
  obtain ⟨_, _, _, malformed⟩ | ⟨e, word, fault, parsed, blamed, same, -, cuts⟩ :=
    equation (by decide)
  · contradiction
  · obtain ⟨⟨count, required⟩, -⟩ := groups e parsed
    obtain ⟨tokens, found, among⟩ := scanned
    have read := numbers tokens (eq_ok_of_toOption found) _ among "2" rfl "-" (by decide)
    exact ⟨failed, noNumber, ⟨e, word, fault, parsed, blamed, same, cuts, count,
      required 3 (by decide) (by decide)⟩, read⟩

end Constraint

end ViewLayout
