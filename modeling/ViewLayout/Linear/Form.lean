/-!
# Affine forms

A form is a sum of scaled variables and a constant, with exact rational numbers. Variables are
numbered, and the terms of a form are kept in the order of their variables, each variable once.

The numbers that constraints start from have been rounded to binary fractions: three thirds of a
width need not add up to the width. A number smaller than `tolerance` is therefore negligible. There
are two sums of forms: `add` is exact, and `combine` leaves out negligible terms, so that terms
cancel which would cancel without the rounding.

`Form.eval` says what a form means.
-/

namespace ViewLayout.Linear

/-- Differences smaller than this are taken for the effect of rounding. -/
def tolerance : Rat := 1 / 100000000

/-- Whether a number is too small to count. -/
def negligible (q : Rat) : Bool := -tolerance < q && q < tolerance

/-- A sum of scaled variables and a constant. -/
structure Form where
  /-- Variables with their coefficients, in increasing order of variables. -/
  terms : List (Nat × Rat)
  /-- The constant. -/
  constant : Rat
deriving DecidableEq, Repr

namespace Form

/-- The value of a list of terms under an assignment. -/
def evalTerms (values : Nat → Rat) (terms : List (Nat × Rat)) : Rat :=
  terms.foldr (fun term total => term.2 * values term.1 + total) 0

/-- The value of a form under an assignment. -/
def eval (values : Nat → Rat) (f : Form) : Rat :=
  evalTerms values f.terms + f.constant

/-- The form of a number. -/
def ofConstant (c : Rat) : Form := ⟨[], c⟩

/-- The form of one scaled variable. -/
def ofTerm (v : Nat) (coefficient : Rat) : Form :=
  if coefficient = 0 then ⟨[], 0⟩ else ⟨[(v, coefficient)], 0⟩

/-- The terms of a sum. A term that is added to the left side or changed on it is left out if its
coefficient has to be dropped. -/
def addTerms (drop : Rat → Bool) : List (Nat × Rat) → List (Nat × Rat) → List (Nat × Rat)
  | left, [] => left
  | [], (w, b) :: right =>
    if drop b then addTerms drop [] right else (w, b) :: addTerms drop [] right
  | (v, a) :: left, (w, b) :: right =>
    if v < w then (v, a) :: addTerms drop left ((w, b) :: right)
    else if w < v then
      if drop b then addTerms drop ((v, a) :: left) right
      else (w, b) :: addTerms drop ((v, a) :: left) right
    else if drop (a + b) then addTerms drop left right
    else (v, a + b) :: addTerms drop left right
termination_by left right => left.length + right.length

/-- The sum of two forms. Terms that cancel are left out. -/
def add (f g : Form) : Form :=
  ⟨addTerms (· == 0) f.terms g.terms, f.constant + g.constant⟩

/-- The sum of two forms up to rounding. Terms that cancel but for a negligible rest are left out,
and negligible terms are not added. -/
def combine (f g : Form) : Form :=
  ⟨addTerms negligible f.terms g.terms, f.constant + g.constant⟩

/-- A form scaled by a number. -/
def scale (c : Rat) (f : Form) : Form :=
  if c = 0 then ⟨[], 0⟩
  else ⟨f.terms.map fun term => (term.1, c * term.2), c * f.constant⟩

/-- A form with every sign turned round. -/
def negate (f : Form) : Form := f.scale (-1)

/-- The coefficient of a variable. -/
def coefficient (f : Form) (v : Nat) : Rat :=
  ((f.terms.find? (·.1 = v)).map (·.2)).getD 0

/-- A form without the term of a variable. -/
def without (f : Form) (v : Nat) : Form :=
  ⟨f.terms.filter (·.1 ≠ v), f.constant⟩

/-- A form with another form in place of a variable. -/
def substitute (f : Form) (v : Nat) (value : Form) : Form :=
  let c := f.coefficient v
  if c = 0 then f else (f.without v).combine (value.scale c)

end Form

end ViewLayout.Linear
