import ViewLayout.Proofs.Builder.Turned
import ViewLayout.Proofs.Equation.Sides
import ViewLayout.Proofs.Sequence.Operations
import ViewLayout.Proofs.Sequence.Texts

/-!
# The two axes

The horizontal and the vertical axis are duals of each other. A chain compiles along both to
descriptors that correspond one to one, and so does every text that a sequence writes: its chains
are the same behind another tag, and the text that centers a view names the other center. What a
sequence does along one axis it therefore does along the other, operation by operation, up to the
one that fails.
-/

namespace ViewLayout

open ViewLayout.Outcome

/-! ## Turned texts -/

/-- Two texts compile to descriptors that are turned into each other, or neither compiles. -/
def Constraint.Turned (raw other : String) : Prop :=
  ∀ spacing registry metrics, Together
    (fun descriptors others => others = descriptors.map (Descriptor.onEdges Attribute.turned))
    (compile raw spacing registry metrics none) (compile other spacing registry metrics none)

/-- A chain is turned by the tag of the other axis. -/
theorem Constraint.turned_along (axis : Axis) (body : String) :
    Turned (Chain.along axis body) (Chain.along axis.cross body) := by
  intro spacing registry metrics
  rcases compile_along axis.carries_turned body spacing registry metrics none with
    ⟨fault, span, failed⟩ | ⟨descriptors, here, there⟩
  · rw [failed axis (by simp), failed axis.cross (by simp)]
    exact .error _ _
  · rw [here, there]
    exact .ok rfl

/-- The text that centers an item is turned by the name of the other center. -/
theorem Constraint.turned_equated (axis : Axis) (front : String) {key : String}
    (spelled : Token.WellSpelled (.ident key)) :
    Turned (Equation.equated front key axis.center)
      (Equation.equated front key axis.cross.center) := by
  intro spacing registry metrics
  have equation (edge : Attribute) : isEquation (Equation.equated front key edge) = true := by
    simp [isEquation, Equation.equated]
  simp only [compile, descriptors, equation, if_true]
  cases compiled : Equation.compile (Equation.equated front key axis.center) registry metrics with
  | ok descriptor =>
    obtain ⟨item, ties⟩ := Equation.exists_tie_of_compile spelled compiled
    obtain rfl := Except.ok.inj (compiled.symm.trans (ties axis.center))
    rw [ties axis.cross.center, ← axis.turned_center]
    exact .ok rfl
  | error fault =>
    cases other :
        Equation.compile (Equation.equated front key axis.cross.center) registry metrics with
    | error fault => exact .error _ _
    | ok descriptor =>
      obtain ⟨item, ties⟩ := Equation.exists_tie_of_compile spelled other
      rw [ties axis.center] at compiled
      contradiction

namespace Sequence

/-! ## Turned sequences -/

/-- Since a common start, two sequences have stacked the same views along the two axes. -/
structure Turned (start : Builder) (first second : Sequence) : Prop where
  /-- The axes are perpendicular. -/
  axis : second.axis = first.axis.cross
  /-- What was applied along one axis is turned along the other. -/
  builder : Builder.Turned start first.builder second.builder
  /-- The margins are the same. -/
  margins : second.margins = first.margins
  /-- There are as many views. -/
  count : second.count = first.count
  /-- Both are tied to the trailing edge, or neither is. -/
  closed : second.closed = first.closed

namespace Turned

variable {start : Builder} {first second : Sequence} (turned : Turned start first second)

include turned

/-- The texts across the axes are turned. -/
theorem crossText {key : String} (spelled : Token.WellSpelled (.ident key)) (centered : Bool) :
    Constraint.Turned (first.crossText key centered) (second.crossText key centered) := by
  unfold Sequence.crossText
  rw [turned.axis, turned.builder.registry_eq]
  cases centered with
  | true => exact Constraint.turned_equated first.axis.cross _ spelled
  | false =>
    have text (axis : Axis) : axis.letter ++ ":|-(" ++ Margins.sidesKey ++ ")-[" ++ key ++ "]-("
        ++ Margins.sidesKey ++ ")-|" = Chain.along axis ("|-(" ++ Margins.sidesKey ++ ")-["
          ++ key ++ "]-(" ++ Margins.sidesKey ++ ")-|") := by
      apply String.toList_inj.1
      simp [Chain.along]
    simp only [Bool.false_eq_true, if_false, text]
    exact Constraint.turned_along first.axis.cross _

/-- Turned texts are applied in both sequences or in neither. -/
theorem emit {raw other : String} (texts : Constraint.Turned raw other) :
    Together (Turned start) (first.emit raw) (second.emit other) := by
  unfold Sequence.emit
  rw [turned.margins]
  refine ((turned.builder.withMetrics _).addConstraint (texts _ _ _)).bind fun next found held => ?_
  exact .ok ⟨turned.axis, held, rfl, turned.count, turned.closed⟩

/-- A view is appended to both sequences or to neither. -/
theorem addNext (view : ViewId) :
    Together (Turned start) (first.addNext view) (second.addNext view) := by
  unfold Sequence.addNext
  rw [turned.count]
  refine (turned.builder.addView _ view).bind fun next found held => ?_
  exact .ok ⟨turned.axis, held, turned.margins, rfl, turned.closed⟩

/-- The chains of new views are turned. -/
theorem chainText (count : Nat) (keys : List String) :
    Constraint.Turned (Sequence.chainText first.axis count keys)
      (Sequence.chainText second.axis count keys) := by
  have text (axis : Axis) : Sequence.chainText axis count keys =
      Chain.along axis (chainStart count ++ "["
        ++ ("]-(" ++ Margins.betweenKey ++ ")-[").intercalate keys ++ "]") := by
    simp only [Sequence.chainText, Chain.along, String.append_assoc]
  rw [text, text, turned.axis]
  exact Constraint.turned_along first.axis _

/-- The closing chains are turned. -/
theorem closingText (count : Nat) :
    Constraint.Turned (Sequence.closingText first.axis count)
      (Sequence.closingText second.axis count) := by
  have text (axis : Axis) : Sequence.closingText axis count =
      Chain.along axis ("[" ++ viewKey count ++ "]-(" ++ Margins.endsKey ++ ")-|") := by
    apply String.toList_inj.1
    simp [Sequence.closingText, Chain.along]
  rw [text, text, turned.axis]
  exact Constraint.turned_along first.axis _

/-- A batch is appended to both sequences or to neither. -/
theorem addViews (views : List ViewId) (centered : Bool) :
    Together (Turned start) (first.addViews views centered) (second.addViews views centered) := by
  unfold Sequence.addViews
  by_cases empty : views.isEmpty = true
  · rw [if_pos empty, if_pos empty]
    exact .ok turned
  · rw [if_neg empty, if_neg empty]
    dsimp only
    rw [turned.count]
    have added : Together (Turned start) (views.foldlM Sequence.addNext first)
        (views.foldlM Sequence.addNext second) :=
      Together.foldlM (fun _ _ held view _ => held.addNext view) turned
    refine added.bind fun here there held => ?_
    have placed : Together (Turned start)
        (((List.range views.length).map fun i => viewKey (first.count + i + 1)).foldlM
          (fun s key => s.emit (s.crossText key centered)) here)
        (((List.range views.length).map fun i => viewKey (first.count + i + 1)).foldlM
          (fun s key => s.emit (s.crossText key centered)) there) := by
      refine Together.foldlM (fun _ _ held key listed => ?_) held
      obtain ⟨number, -, rfl⟩ := List.mem_map.1 listed
      exact held.emit (held.crossText (wellSpelled_viewKey _) centered)
    refine placed.bind fun here there held => ?_
    refine (held.emit (turned.chainText _ _)).bind fun next found held => ?_
    exact .ok ⟨held.axis, held.builder, held.margins, held.count, rfl⟩

/-- The last view is tied to the trailing edge in both sequences or in neither. -/
theorem close : Together (Turned start) first.close second.close := by
  unfold Sequence.close
  rw [turned.count, turned.closed]
  split
  · exact .error _ _
  · split
    · exact .ok turned
    · refine (turned.emit (turned.closingText _)).bind fun next found held => ?_
      exact .ok ⟨held.axis, held.builder, held.margins, held.count, rfl⟩

/-- An operation is performed on both sequences or on neither. -/
theorem perform (operation : Operation) :
    Together (Turned start) (first.perform operation) (second.perform operation) := by
  cases operation with
  | withMargins margins =>
    exact .ok ⟨turned.axis, turned.builder, rfl, turned.count, turned.closed⟩
  | addViews views centered => exact turned.addViews views centered
  | close => exact turned.close

end Turned

/-- Along the two axes the same text is refused with the same fault at the same place, or it
compiles to as many descriptors, which turn into each other. The same operations on sequences along the two
axes go through and apply what turns into each other, or they fail at the same operation, after
applying what turns into each other. -/
theorem axes_are_dual :
    (∀ (body : String) (spacing : Spacing) (registry : Registry) (metrics : Metrics)
        (priority : Option Priority),
      (∃ fault span,
        Constraint.compile ("H:" ++ body) spacing registry metrics priority =
          .error (.rejected ("H:" ++ body) fault span) ∧
        Constraint.compile ("V:" ++ body) spacing registry metrics priority =
          .error (.rejected ("V:" ++ body) fault span)) ∨
      ∃ descriptors,
        Constraint.compile ("H:" ++ body) spacing registry metrics priority = .ok descriptors ∧
        Constraint.compile ("V:" ++ body) spacing registry metrics priority =
          .ok (descriptors.map (Descriptor.onEdges Attribute.flipped))) ∧
    ∀ (start : Builder) (margins : Margins) (operations : List Operation),
      let across : Sequence := { axis := .horizontal, builder := start, margins }
      let down : Sequence := { axis := .vertical, builder := start, margins }
      (∃ first second, across.run operations = .ok first ∧ down.run operations = .ok second ∧
        Turned start first second) ∨
      ∃ before operation after, operations = before ++ operation :: after ∧ ∃ first second,
        across.run before = .ok first ∧ down.run before = .ok second ∧
        Turned start first second ∧
        (∃ error, first.perform operation = .error error) ∧
        ∃ error, second.perform operation = .error error := by
  constructor
  · intro body spacing registry metrics priority
    rcases Constraint.compile_along Axis.horizontal.carries_flipped body spacing registry metrics
      priority with ⟨fault, span, failed⟩ | compiled
    · have down := failed .vertical (by simp [Axis.cross])
      exact .inl ⟨fault, span, failed .horizontal (by simp), down⟩
    · exact .inr compiled
  · intro start margins operations across down
    have begins : Turned start across down := ⟨rfl, .refl start, rfl, rfl, rfl⟩
    exact foldlM_together (fun _ _ turned operation _ => turned.perform operation) begins

-- One centered view, tied to both ends: what is applied for it exists, and is turned.
example :
    let host : Host := { spacing := ⟨8, 20⟩, views := List.replicate 2 {} }
    let stacked (axis : Axis) : Option (List (List Descriptor)) := do
      let start : Sequence := { axis, builder := Builder.ofHost host ⟨0⟩ {}, margins := {} }
      let final ← (start.run [.addViews [⟨1⟩] true, .close]).toOption
      pure (final.builder.applied.map (·.descriptors))
    (stacked .horizontal).isSome ∧
      stacked .vertical =
        (stacked .horizontal).map (List.map (List.map (Descriptor.onEdges Attribute.turned))) := by
  decide +kernel

end Sequence

end ViewLayout
