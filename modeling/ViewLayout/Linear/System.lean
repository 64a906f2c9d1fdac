import ViewLayout.Linear.Form

/-!
# Systems of linear equations in solved form

A system holds one row for each of its basic variables and gives it as a form in the other
variables. All variables stand for numbers that are not negative. Setting every variable that is
not basic to zero gives a solution, the corner of the system, as long as no row has a negative
constant.

`pivot` moves to another corner by exchanging a basic variable for another one and leaves the
solutions of the system as they are, but for negligible terms. `descend` goes from corner to corner
as long as a cost can be lowered.
-/

namespace ViewLayout.Linear

/-- One basic variable, given by the variables that are not basic. -/
structure Row where
  /-- The basic variable. -/
  basic : Nat
  /-- Its value. -/
  form : Form
deriving DecidableEq, Repr

/-- A system of equations, one row for each basic variable. -/
abbrev System := List Row

namespace System

/-- An assignment solves a system when it agrees with every row. -/
def Solves (values : Nat → Rat) (rows : System) : Prop :=
  ∀ row ∈ rows, values row.basic = row.form.eval values

/-- The form of a basic variable. -/
def find? (rows : System) (v : Nat) : Option Form :=
  (List.find? (fun row : Row => row.basic = v) rows).map (·.form)

/-- The value of a variable at the corner of a system. -/
def corner (rows : System) (v : Nat) : Rat :=
  ((rows.find? v).map (·.constant)).getD 0

/-- A form with every basic variable replaced by its row. Negligible terms are left out. -/
def reduce (rows : System) (f : Form) : Form :=
  (f.terms.filter (!negligible ·.2)).foldl
    (fun sum term =>
      let value := (rows.find? term.1).getD (Form.ofTerm term.1 1)
      sum.combine (value.scale term.2))
    (Form.ofConstant f.constant)

/-- The row of `basic` solved for another variable in it. -/
def solvedFor (entering basic : Nat) (form : Form) : Form :=
  ((form.without entering).combine (.ofTerm basic (-1))).scale (-1 / form.coefficient entering)

/-- Exchanges the basic variable of one row for another variable, given as a form. -/
def exchange (rows : System) (leaving entering : Nat) (value : Form) : System :=
  rows.map fun row =>
    if row.basic = leaving then ⟨entering, value⟩
    else ⟨row.basic, row.form.substitute entering value⟩

/-- Exchanges a basic variable for another variable. -/
def pivot (rows : System) (leaving entering : Nat) : System :=
  match rows.find? leaving with
  | some form => rows.exchange leaving entering (solvedFor entering leaving form)
  | none => rows

/-- A cost with two parts; the second decides between solutions with the same first part. -/
structure Cost where
  /-- What is lowered before all else. -/
  primary : Form
  /-- What is lowered where it leaves the primary cost as it is. -/
  secondary : Form
deriving DecidableEq, Repr

/-- The first variable by which the cost can be lowered. -/
def entering? (cost : Cost) : Option Nat :=
  let first := cost.primary.terms.filter fun term => term.2 < 0
  let second := cost.secondary.terms.filter fun term =>
    term.2 < 0 && cost.primary.coefficient term.1 = 0
  ((first ++ second).map (·.1)).min?

/-- Of two rows that bound a variable, the one that bounds it more tightly; of two equally tight
rows, the one of the smaller variable. -/
def tighter (entering : Nat) (a b : Row) : Row :=
  let boundA := a.form.constant / -a.form.coefficient entering
  let boundB := b.form.constant / -b.form.coefficient entering
  if boundB < boundA ∨ (boundB = boundA ∧ b.basic < a.basic) then b else a

/-- The row that bounds a variable most tightly. -/
def leaving? (rows : System) (entering : Nat) : Option Row :=
  match rows.filter fun row => row.form.coefficient entering < 0 with
  | [] => none
  | row :: bounding => some (bounding.foldl (tighter entering) row)

/-- Goes from corner to corner, at most `steps` times, as long as the cost can be lowered. -/
def descend : Nat → System → Cost → System
  | 0, rows, _ => rows
  | steps + 1, rows, cost =>
    match entering? cost with
    | none => rows
    | some entering =>
      match rows.leaving? entering with
      | none => rows
      | some row =>
        let value := solvedFor entering row.basic row.form
        descend steps (rows.exchange row.basic entering value)
          ⟨cost.primary.substitute entering value, cost.secondary.substitute entering value⟩

/-- Removes a variable that is not basic by setting it to zero. -/
def dropVariable (rows : System) (v : Nat) : System :=
  rows.map fun row => ⟨row.basic, row.form.without v⟩

/-- Removes the row of a basic variable. -/
def dropRow (rows : System) (v : Nat) : System :=
  rows.filter (·.basic ≠ v)

end System

end ViewLayout.Linear
