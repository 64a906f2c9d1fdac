import Mathlib.Tactic.Linarith
import Mathlib.Tactic.Ring
import ViewLayout.Host.Layout

/-!
# What a constraint says of frames

A constraint compares an attribute of one frame with an attribute of another, scaled and shifted, or
with a number. A layout says the same with linear forms over the quantities of the nodes:
`holds_iff_of_constraintDemand?` ties what a layout asks for to what the constraint says.
-/

namespace ViewLayout

open ViewLayout.Number

/-- The coordinate or extent that an attribute of a frame is. -/
def Frame.edge (frame : Frame Rat) : Attribute → Rat
  | .left | .leading => frame.x
  | .right | .trailing => frame.x + frame.width
  | .top => frame.y
  | .bottom | .baseline => frame.y + frame.height
  | .width => frame.width
  | .height => frame.height
  | .centerX => frame.x + frame.width / 2
  | .centerY => frame.y + frame.height / 2

/-- Along an axis, a frame ends its size after it begins. -/
theorem Frame.edge_trailingEdge (frame : Frame Rat) (axis : Axis) :
    frame.edge axis.trailingEdge = frame.edge axis.leadingEdge + frame.edge axis.size := by
  cases axis <;> rfl

/-- How a relation compares two numbers. -/
def Relation.Compares : Relation → Rat → Rat → Prop
  | .equal, left, right => left = right
  | .greaterOrEqual, left, right => left ≥ right
  | .lessOrEqual, left, right => left ≤ right

instance : (relation : Relation) → (left right : Rat) → Decidable (relation.Compares left right)
  | .equal, left, right => inferInstanceAs (Decidable (left = right))
  | .greaterOrEqual, left, right => inferInstanceAs (Decidable (left ≥ right))
  | .lessOrEqual, left, right => inferInstanceAs (Decidable (left ≤ right))

/-- Frames satisfy an applied constraint, its numbers being finite and read exactly. -/
def Applied.Holds (frames : Node → Frame Rat) (applied : Applied) : Prop :=
  let d := applied.descriptor
  let left := (frames applied.first).edge d.first.edge
  match applied.second, d.second with
  | some node, some anchor =>
    ∃ factor ∈ d.multiplier.toRat?, ∃ shift ∈ d.constant.toRat?,
      d.relation.Compares left ((frames node).edge anchor.edge * factor + shift)
  | _, _ => ∃ shift ∈ d.constant.toRat?, d.relation.Compares left shift

instance (frames : Node → Frame Rat) : (applied : Applied) → Decidable (applied.Holds frames)
  | ⟨⟨first, relation, some anchor, multiplier, constant, _⟩, node, some other⟩ =>
    inferInstanceAs <| Decidable <|
      ∃ factor ∈ multiplier.toRat?, ∃ shift ∈ constant.toRat?,
        relation.Compares ((frames node).edge first.edge)
          ((frames other).edge anchor.edge * factor + shift)
  | ⟨⟨first, relation, some _, _, constant, _⟩, node, none⟩
  | ⟨⟨first, relation, none, _, constant, _⟩, node, none⟩
  | ⟨⟨first, relation, none, _, constant, _⟩, node, some _⟩ =>
    inferInstanceAs <| Decidable <|
      ∃ shift ∈ constant.toRat?, relation.Compares ((frames node).edge first.edge) shift

/-- What a constraint says is decided by the frames of its nodes. -/
theorem Applied.holds_congr {applied : Applied} {frames others : Node → Frame Rat}
    (first : frames applied.first = others applied.first)
    (second : ∀ node ∈ applied.second, frames node = others node) :
    applied.Holds frames ↔ applied.Holds others := by
  obtain ⟨⟨left, relation, right, multiplier, constant, priority⟩, node, other⟩ := applied
  simp only [Applied.Holds, first]
  cases other with
  | none => rfl
  | some node =>
    cases right with
    | none => rfl
    | some anchor =>
      have same : frames node = others node := second node rfl
      simp only [same]

/-! ## The same with linear forms -/

namespace Linear.Form

variable (values : Nat → Rat)

/-- A list of terms has the value of its first term added to that of the others. -/
theorem evalTerms_cons (v : Nat) (a : Rat) (terms : List (Nat × Rat)) :
    evalTerms values ((v, a) :: terms) = a * values v + evalTerms values terms := rfl

/-- Terms that are added without a tolerance have the sum of their values. -/
theorem evalTerms_addTerms (left right : List (Nat × Rat)) :
    evalTerms values (addTerms (· == 0) left right) =
      evalTerms values left + evalTerms values right := by
  fun_induction addTerms (· == 0) left right with
  | case1 left => simp [evalTerms]
  | case2 w b right dropped ih =>
    rw [ih, evalTerms_cons, eq_of_beq dropped]
    ring
  | case3 w b right kept ih =>
    rw [evalTerms_cons, ih, evalTerms_cons]
    ring
  | case4 v a left w b right below ih =>
    rw [evalTerms_cons, ih, evalTerms_cons, evalTerms_cons]
    ring
  | case5 v a left w b right notBelow above dropped ih =>
    rw [ih, evalTerms_cons, evalTerms_cons, eq_of_beq dropped]
    ring
  | case6 v a left w b right notBelow above kept ih =>
    rw [evalTerms_cons, ih, evalTerms_cons, evalTerms_cons]
    ring
  | case7 v a left w b right notBelow notAbove dropped ih =>
    obtain rfl : v = w := by omega
    have cancels : b = -a := by linarith [eq_of_beq dropped]
    rw [ih, evalTerms_cons, evalTerms_cons, cancels]
    ring
  | case8 v a left w b right notBelow notAbove kept ih =>
    obtain rfl : v = w := by omega
    rw [evalTerms_cons, ih, evalTerms_cons, evalTerms_cons]
    ring

/-- A sum has the sum of the values. -/
theorem eval_add (f g : Form) : (f.add g).eval values = f.eval values + g.eval values := by
  simp only [eval, add, evalTerms_addTerms]
  ring

/-- A number is its own value. -/
theorem eval_ofConstant (c : Rat) : (ofConstant c).eval values = c := by
  simp [eval, ofConstant, evalTerms]

/-- A scaled variable has its scaled value. -/
theorem eval_ofTerm (v : Nat) (a : Rat) : (ofTerm v a).eval values = a * values v := by
  unfold ofTerm
  split
  · rename_i zero
    simp [eval, evalTerms, zero]
  · simp [eval, evalTerms]

/-- Scaled terms have the scaled value. -/
theorem evalTerms_scaled (c : Rat) (terms : List (Nat × Rat)) :
    evalTerms values (terms.map fun term => (term.1, c * term.2)) = c * evalTerms values terms := by
  induction terms with
  | nil => simp [evalTerms]
  | cons term terms ih =>
    obtain ⟨v, a⟩ := term
    rw [List.map_cons, evalTerms_cons, evalTerms_cons, ih]
    ring

/-- A scaled form has the scaled value. -/
theorem eval_scale (c : Rat) (f : Form) : (f.scale c).eval values = c * f.eval values := by
  unfold scale
  split
  · rename_i zero
    simp [eval, evalTerms, zero]
  · simp only [eval, evalTerms_scaled]
    ring

end Linear.Form

namespace Host

open ViewLayout.Linear

variable (host : Host) (values : Nat → Rat)

/-- The form of an attribute has the value of the attribute in the frame. -/
theorem eval_edgeForm (node : Node) (edge : Attribute) :
    (host.edgeForm node edge).eval values = (host.frame values node).edge edge := by
  cases edge <;>
    simp only [edgeForm, sideForm, frame, Frame.edge, Form.eval_add, Form.eval_scale,
      Form.eval_ofTerm] <;>
    ring

/-- Frames meet a demand: its form is there and relates to zero as the demand says. -/
def Demand.Met (demand : Demand) : Prop :=
  ∃ form, demand.form = some form ∧ demand.relation.Compares (form.eval values) 0

end Host

/-- A difference relates to zero as its terms relate to each other. -/
theorem Relation.compares_sub (relation : Relation) (left right : Rat) :
    relation.Compares (left - right) 0 ↔ relation.Compares left right := by
  cases relation with
  | equal => exact sub_eq_zero
  | greaterOrEqual => exact sub_nonneg
  | lessOrEqual => exact sub_nonpos

namespace Host

open ViewLayout.Linear

variable {host : Host} {values : Nat → Rat}

/-- The difference of a form and a number relates to zero as the value of the form relates to the
number. -/
theorem exists_minus?_iff {form : Form} {number : Binary64} {relation : Relation} :
    (∃ difference, minus? form number = some difference ∧
        relation.Compares (difference.eval values) 0) ↔
      ∃ constant, number.toRat? = some constant ∧ relation.Compares (form.eval values) constant := by
  unfold minus?
  simp only [Option.map_eq_some_iff]
  constructor
  · rintro ⟨_, ⟨constant, finite, rfl⟩, compares⟩
    rw [Form.eval_add, Form.eval_ofConstant, ← sub_eq_add_neg, Relation.compares_sub] at compares
    exact ⟨constant, finite, compares⟩
  · rintro ⟨constant, finite, compares⟩
    refine ⟨_, ⟨constant, finite, rfl⟩, ?_⟩
    rw [Form.eval_add, Form.eval_ofConstant, ← sub_eq_add_neg, Relation.compares_sub]
    exact compares

/-- Frames meet a demand without a scaled form when its left side compares with the number. -/
theorem met_single_iff {left : Form} {relation : Relation} {number : Binary64}
    {strength : Strength} {name : String} :
    Demand.Met values ⟨left, relation, none, number, strength, name⟩ ↔
      ∃ constant, number.toRat? = some constant ∧ relation.Compares (left.eval values) constant :=
  exists_minus?_iff

/-- Frames meet a demand with a scaled form when its left side compares with that and the number. -/
theorem met_scaled_iff {left right : Form} {relation : Relation} {multiplier number : Binary64}
    {strength : Strength} {name : String} :
    Demand.Met values ⟨left, relation, some (multiplier, right), number, strength, name⟩ ↔
      ∃ factor, multiplier.toRat? = some factor ∧ ∃ shift, number.toRat? = some shift ∧
        relation.Compares (left.eval values) (right.eval values * factor + shift) := by
  simp only [Demand.Met, Demand.form]
  cases scaled : multiplier.toRat? with
  | none => simp
  | some factor =>
    simp only [Option.bind_some, exists_minus?_iff, Form.eval_add, Form.eval_scale,
      Option.some.injEq, exists_eq_left']
    refine exists_congr fun shift => and_congr_right fun _ => ?_
    have regrouped (left right : Rat) :
        left - (right * factor + shift) = left + -factor * right - shift := by ring
    rw [← Relation.compares_sub, ← Relation.compares_sub _ _ (_ * factor + shift), regrouped]

/-- The frames of quantities satisfy an applied constraint exactly when the quantities meet what it
asks of a layout. -/
theorem holds_iff_of_constraintDemand? {root : ViewId} {applied : Applied} {demand : Demand}
    (asked : host.constraintDemand? root applied = some demand) :
    applied.Holds (host.frame values) ↔ demand.Met values := by
  unfold constraintDemand? at asked
  simp only [Option.ite_none_right_eq_some, Option.some.injEq] at asked
  obtain ⟨-, rfl⟩ := asked
  unfold Applied.Holds
  split
  · rename_i node anchor second anchored
    simp only [second, anchored, met_scaled_iff, eval_edgeForm, Option.mem_def]
  · rename_i single
    simp only [met_single_iff, eval_edgeForm, Option.mem_def]

end Host

end ViewLayout
