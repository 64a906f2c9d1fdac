import ViewLayout.Linear.System
import ViewLayout.Vocabulary

/-!
# Weighted linear constraints

A program collects constraints on numbered quantities. Required constraints are taken in order,
and each has to hold together with those before it, up to the tolerance. Preferred constraints never
fail; missing one costs its weight for every unit by which it is missed.

The solution of a program meets every required constraint and has the least cost of preferred
ones. Among the solutions with that cost it is the one with the least sum of absolute values, so a
quantity that nothing constrains is zero.

Where required constraints miss each other by less than the tolerance, the solution meets them no
closer than that: of two equalities the earlier one holds, and an equality takes precedence over
the inequalities before it.

A quantity may be negative, the variables of a system may not: each quantity is the difference of
two variables.
-/

namespace ViewLayout.Linear

/-- A collection of constraints on quantities. -/
structure Program where
  /-- The number of quantities. -/
  quantities : Nat
  /-- The first variable that is not in use. -/
  fresh : Nat
  /-- The required constraints in solved form. -/
  rows : System
  /-- Variables that measure by how much preferred constraints are missed, with their weights. -/
  penalties : List (Nat × Rat)
deriving DecidableEq, Repr

namespace Program

/-- The program of some quantities before any constraint. -/
def ofQuantities (count : Nat) : Program := ⟨count, 2 * count, [], []⟩

/-- A form in quantities as a form in variables. -/
def split (f : Form) : Form :=
  ⟨(f.terms.map fun term => [(2 * term.1, term.2), (2 * term.1 + 1, -term.2)]).flatten,
    f.constant⟩

/-- A bound on the number of corners of a system, and so on the steps from one to another. -/
def stepBound (p : Program) : Nat := Nat.pow 2 (p.fresh + 1)

/-- Requires a form in variables that are not basic to be zero. The form is taken as a new
variable, which is brought down as far as it goes and then removed. A negligible amount that is left
falls to a variable that bounds an earlier constraint or, where there is none, to this one; if more
is left, the constraint cannot hold together with those before it. -/
def impose (p : Program) (f : Form) : Option Program :=
  let f := if f.constant < 0 then f.negate else f
  let missing := p.fresh
  let rows := System.descend p.stepBound (⟨missing, f⟩ :: p.rows) ⟨f, .ofConstant 0⟩
  let p := { p with fresh := p.fresh + 1 }
  match rows.find? missing with
  | none => some { p with rows := rows.dropVariable missing }
  | some form =>
    if negligible form.constant then
      match form.terms with
      | [] => some { p with rows := rows.dropRow missing }
      | (v, _) :: _ =>
        some { p with rows := (rows.pivot missing v).dropVariable missing }
    else none

/-- Requires a form in variables to be at least zero. -/
def bound (p : Program) (f : Form) : Option Program :=
  let f := p.rows.reduce f
  let slack := p.fresh
  let p := { p with fresh := p.fresh + 1 }
  if 0 ≤ f.constant then some { p with rows := ⟨slack, f⟩ :: p.rows }
  else p.impose (f.combine (.ofTerm slack (-1)))

/-- Requires a form in quantities to relate to zero. -/
def require (p : Program) (relation : Relation) (f : Form) : Option Program :=
  match relation with
  | .equal => p.impose (p.rows.reduce (split f))
  | .greaterOrEqual => p.bound (split f)
  | .lessOrEqual => p.bound (split f).negate

/-- Adds the row that gives one of two variables whose difference is a form: the first variable if
it can be the form itself, otherwise the second. -/
def difference (rows : System) (f : Form) (above below : Nat) : System :=
  if 0 ≤ f.constant then ⟨above, f.combine (.ofTerm below 1)⟩ :: rows
  else ⟨below, f.negate.combine (.ofTerm above 1)⟩ :: rows

/-- Prefers a form in quantities to relate to zero, with a weight. The form is the amount over
zero less the amount under zero, and each amount that the relation does not allow has a cost. -/
def prefer (p : Program) (weight : Rat) (relation : Relation) (f : Form) : Program :=
  let above := p.fresh
  let below := p.fresh + 1
  let penalties :=
    match relation with
    | .equal => [(above, weight), (below, weight)]
    | .greaterOrEqual => [(below, weight)]
    | .lessOrEqual => [(above, weight)]
  { p with
    fresh := p.fresh + 2
    rows := difference p.rows (p.rows.reduce (split f)) above below
    penalties := p.penalties ++ penalties }

/-- The cost of a program: the weighted amounts by which preferred constraints are missed, then the
sum of the absolute values of all quantities. -/
def cost (p : Program) : System.Cost where
  primary := p.rows.reduce ⟨p.penalties, 0⟩
  secondary := p.rows.reduce ⟨(List.range (2 * p.quantities)).map fun v => (v, 1), 0⟩

/-- The system at whose corner the cost of a program is least. -/
def optimum (p : Program) : System :=
  System.descend p.stepBound p.rows p.cost

end Program

/-- The value of a quantity at the corner of a system. -/
def System.quantityValue (rows : System) (quantity : Nat) : Rat :=
  rows.corner (2 * quantity) - rows.corner (2 * quantity + 1)

end ViewLayout.Linear
