import ViewLayout.Equation.Compile

/-!
# An equation and its captured groups

Compiling an equation looks its parts up among the captured groups by their numbers, and is ready for
groups that are too few, too many or not captured. The groups of an equation are none of these: each
lookup gives the part that the number stands for (`descriptorOf_captures`), so the text compiles to
what the equation is lowered to part by part.
-/

namespace ViewLayout.Equation

open ViewLayout.Number ViewLayout.Text

/-! ## Lowering part by part -/

/-- The multiplier of a factor: its value, or one divided by its value. -/
def multiplier (raw : String) (metrics : Metrics) (e : Equation) :
    Except ConstraintError Binary64 :=
  match e.factor with
  | none => .ok 1
  | some clause => do
    let value ← placed raw clause.value (metrics.resolve clause.value.value)
    match clause.operator.value with
    | .times => .ok value
    | .divided =>
      if value.equal 0 then .error (.malformed raw .divisionByZero none (e.captures raw))
      else .ok value.reciprocal

/-- The constant of a term: its value, or its value with the sign turned round. -/
def constant (raw : String) (metrics : Metrics) (e : Equation) :
    Except ConstraintError Binary64 :=
  match e.term with
  | none => .ok 0
  | some clause => do
    let value ← placed raw clause.value (metrics.resolve clause.value.value)
    match clause.operator.value with
    | .plus => .ok value
    | .minus => .ok (-value)

/-- The descriptor of an equation whose words all resolve. -/
def lower (raw : String) (registry : Registry) (metrics : Metrics) (e : Equation) :
    Except ConstraintError Descriptor := do
  let _ ← placed raw e.first.key (registry.resolve e.first.key.value)
  let _ ← placed raw e.second.key (registry.resolve e.second.key.value)
  let firstEdge ← placed raw e.first.edge (Attribute.lookup e.first.edge.value)
  let secondEdge ← placed raw e.second.edge (Attribute.lookup e.second.edge.value)
  let relation ← placed raw e.relation (Relation.lookup e.relation.value)
  let multiplier ← e.multiplier raw metrics
  let constant ← e.constant raw metrics
  .ok {
    first := ⟨e.first.key.value, firstEdge⟩
    relation
    second := some ⟨e.second.key.value, secondEdge⟩
    multiplier
    constant }

/-! ## Looking parts up -/

section Lowering

variable (raw : String) (registry : Registry) (metrics : Metrics) (e : Equation)

/-- As many groups are captured from an equation as are expected. -/
theorem checkCount_captures : checkCount raw (e.captures raw) = .ok () := by
  have counted : (e.captures raw).length = Grammar.groupCount := rfl
  rw [checkCount, if_pos counted]

-- Any other number of groups would be refused.
example : checkCount "X:" [] = .error (.malformed "X:" (.groupCount 0) none []) := rfl

/-- What is captured in a group after that of the whole text is the part of its number. -/
theorem at?_captures (index : Nat) :
    Capture.at? (e.captures raw) (index + 1) = e.parts[index]?.join := by
  rw [Capture.at?, captures, List.getElem?_mapIdx, List.getElem?_cons_succ, Option.bind_map]
  exact Option.bind_id_eq_join

/-- A part that is written is found by its number. -/
theorem required_captures {index : Nat} {part : Spanned String}
    (written : e.parts[index]? = some (some part)) :
    required raw (e.captures raw) (index + 1) = .ok part := by
  rw [required, at?_captures, written, Option.join_some]

/-- The multiplier that is captured is that of the factor. -/
theorem multiplierOf_captures :
    multiplierOf raw metrics (e.captures raw) = e.multiplier raw metrics := by
  have operator : Capture.at? (e.captures raw) Group.factorOperator =
      operatorCapture FactorOperator.mark e.factor := e.at?_captures raw 5
  have value : Capture.at? (e.captures raw) Group.factorValue = e.factor.map (·.value) :=
    e.at?_captures raw 6
  rw [multiplierOf, operator, value, multiplier]
  rcases e.factor with _ | ⟨⟨_ | _, sign⟩, written⟩ <;> rfl

/-- The constant that is captured is that of the term. -/
theorem constantOf_captures :
    constantOf raw metrics (e.captures raw) = e.constant raw metrics := by
  have operator : Capture.at? (e.captures raw) Group.termOperator =
      operatorCapture TermOperator.mark e.term := e.at?_captures raw 7
  have value : Capture.at? (e.captures raw) Group.termValue = e.term.map (·.value) :=
    e.at?_captures raw 8
  rw [constantOf, operator, value, constant]
  rcases e.term with _ | ⟨⟨_ | _, sign⟩, written⟩ <;> rfl

/-- What is captured from an equation is lowered like the equation: the number of groups is the
expected one, and no group that has to be captured is missing. -/
theorem descriptorOf_captures :
    descriptorOf raw registry metrics (e.captures raw) = e.lower raw registry metrics := by
  have firstKey : required raw (e.captures raw) Group.firstKey = .ok e.first.key :=
    e.required_captures raw rfl
  have firstEdge : required raw (e.captures raw) Group.firstEdge = .ok e.first.edge :=
    e.required_captures raw rfl
  have relation : required raw (e.captures raw) Group.relation = .ok e.relation :=
    e.required_captures raw rfl
  have secondKey : required raw (e.captures raw) Group.secondKey = .ok e.second.key :=
    e.required_captures raw rfl
  have secondEdge : required raw (e.captures raw) Group.secondEdge = .ok e.second.edge :=
    e.required_captures raw rfl
  rw [descriptorOf, checkCount_captures, firstKey, firstEdge, relation, secondKey, secondEdge,
    multiplierOf_captures, constantOf_captures]
  rfl

end Lowering

/-! ## Compiling -/

section Compiling

variable {raw : String} {registry : Registry} {metrics : Metrics}

/-- A text that is read as an equation compiles to what the equation is lowered to. -/
theorem compile_of_parse {e : Equation} (parsed : parse raw = .ok e) :
    compile raw registry metrics = e.lower raw registry metrics := by
  rw [compile, parsed]
  exact descriptorOf_captures raw registry metrics e

/-- A text that is not read as an equation is malformed. -/
theorem compile_of_rejected {rejection : Rejection} (refused : parse raw = .error rejection) :
    compile raw registry metrics = .error
      (.malformed raw rejection.error.fault (some rejection.error.span) rejection.captures) := by
  rw [compile, refused]

end Compiling

end ViewLayout.Equation
