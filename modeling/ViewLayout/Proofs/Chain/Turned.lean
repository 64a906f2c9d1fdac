import ViewLayout.Constraint
import ViewLayout.Proofs.Chain.Plain

/-!
# Chains along the other axis

A chain looks at its axis in one place: what its edges and sizes are called. The same text behind
the tag of the other axis is read as the same chain, and it compiles to the same descriptors with
the edges and sizes of that axis, or it is refused with the same fault at the same place.

A change of attributes that carries the edges and the size along one axis to those along another is
all that this takes. Turning the edges and sizes alone is such a change, and so is turning the
centers as well.
-/

namespace ViewLayout

open ViewLayout.Number ViewLayout.Text ViewLayout.Grammar ViewLayout.Outcome

/-! ## Turned attributes -/

namespace Attribute

/-- The edge or the size that plays the same part along the other axis. -/
def flipped : Attribute → Attribute
  | leading => top
  | top => leading
  | trailing => bottom
  | bottom => trailing
  | width => height
  | height => width
  | edge => edge

/-- The edge, the size or the center that plays the same part along the other axis. -/
def turned : Attribute → Attribute
  | centerX => centerY
  | centerY => centerX
  | edge => edge.flipped

/-- Turning twice leads back to the attribute. -/
@[simp]
theorem turned_turned (edge : Attribute) : edge.turned.turned = edge := by cases edge <;> rfl

end Attribute

/-- The anchor with its attribute changed. -/
def Anchor.onEdge (change : Attribute → Attribute) (anchor : Anchor) : Anchor :=
  { anchor with edge := change anchor.edge }

/-- The descriptor with its attributes changed, and all else as it is. -/
def Descriptor.onEdges (change : Attribute → Attribute) (descriptor : Descriptor) : Descriptor :=
  { descriptor with
    first := descriptor.first.onEdge change
    second := descriptor.second.map (Anchor.onEdge change) }

namespace Axis

/-- A change of attributes leads from the edges and the size along one axis to those along
another. -/
structure Carries (change : Attribute → Attribute) (first second : Axis) : Prop where
  /-- The edge at which a chain begins. -/
  leading : change first.leadingEdge = second.leadingEdge
  /-- The edge at which a chain ends. -/
  trailing : change first.trailingEdge = second.trailingEdge
  /-- The size. -/
  size : change first.size = second.size

/-- Turning edges and sizes leads from an axis to the perpendicular one. -/
theorem carries_flipped (axis : Axis) : Carries Attribute.flipped axis axis.cross := by
  cases axis <;> exact ⟨rfl, rfl, rfl⟩

/-- Turning centers as well leads from an axis to the perpendicular one. -/
theorem carries_turned (axis : Axis) : Carries Attribute.turned axis axis.cross := by
  cases axis <;> exact ⟨rfl, rfl, rfl⟩

/-- The center along an axis is turned into the center along the perpendicular one. -/
theorem turned_center (axis : Axis) : axis.center.turned = axis.cross.center := by
  cases axis <;> rfl

end Axis

namespace Chain

/-! ## Lowering -/

/-- The views of a chain are the same along every axis. -/
theorem links_withAxis (chain : Chain) (axis : Option Axis) :
    { chain with axis }.links = chain.links :=
  rfl

/-- The last view of a chain is the same along every axis. -/
theorem last_withAxis (chain : Chain) (axis : Option Axis) :
    { chain with axis }.last = chain.last :=
  rfl

section Lowering

variable (change : Attribute → Attribute) (first second : Axis) (registry : Registry)
  (metrics : Metrics) (spacing : Spacing)

/-- A connection between changed edges has the changed descriptors, whatever the axis. -/
theorem connect_onEdge (connection : Connection) (standard : Binary64) (before after : Anchor) :
    Context.connect ⟨second, registry, metrics⟩ connection standard (before.onEdge change)
        (after.onEdge change) =
      (Context.connect ⟨first, registry, metrics⟩ connection standard before after).map
        (List.map (Descriptor.onEdges change)) := by
  cases connection with
  | flush => rfl
  | standard => rfl
  | explicit predicates =>
    simp only [Context.connect, ← mapM_map, map_of_bind]
    rfl

/-- A connection to the container's edge between changed edges has the changed descriptors. -/
theorem toEdge_onEdge (connection : Option Connection) (before after : Anchor) :
    Context.toEdge ⟨second, registry, metrics⟩ spacing connection (before.onEdge change)
        (after.onEdge change) =
      (Context.toEdge ⟨first, registry, metrics⟩ spacing connection before after).map
        (List.map (Descriptor.onEdges change)) := by
  cases connection with
  | none => rfl
  | some connection =>
    exact connect_onEdge change first second registry metrics connection _ before after

variable {change first second} (carries : Axis.Carries change first second)

include carries

/-- A size predicate along the other axis has the changed descriptor. -/
theorem sizeOf_carried (link : Link) (predicate : Predicate) :
    Context.sizeOf ⟨second, registry, metrics⟩ link predicate =
      (Context.sizeOf ⟨first, registry, metrics⟩ link predicate).map
        (Descriptor.onEdges change) := by
  simp only [Context.sizeOf, ← carries.size, map_of_bind]
  congr 1
  funext relation
  cases predicate.object.value with
  | number negative literal =>
    simp only [map_of_bind]
    rfl
  | name other =>
    by_cases used : registry.contains other = true
    · simp only [if_pos used, map_of_bind]
      rfl
    · simp only [if_neg used, map_of_bind]
      rfl

/-- The sizes of a view along the other axis have the changed descriptors. -/
theorem sizes_carried (link : Link) :
    Context.sizes ⟨second, registry, metrics⟩ link =
      (Context.sizes ⟨first, registry, metrics⟩ link).map
        (List.map (Descriptor.onEdges change)) := by
  unfold Context.sizes
  rw [← mapM_map]
  congr 1
  funext predicate
  exact sizeOf_carried registry metrics carries link predicate

/-- The later views of a chain along the other axis have the changed descriptors. -/
theorem follow_carried (previous : Link) (rest : List (Connection × Link)) :
    Context.follow ⟨second, registry, metrics⟩ spacing previous rest =
      (Context.follow ⟨first, registry, metrics⟩ spacing previous rest).map
        (List.map (Descriptor.onEdges change)) := by
  induction rest generalizing previous with
  | nil => rfl
  | cons step rest ih =>
    obtain ⟨connection, link⟩ := step
    have gap := connect_onEdge change first second registry metrics connection spacing.sibling
      ⟨link.name.value, first.leadingEdge⟩ ⟨previous.name.value, first.trailingEdge⟩
    simp only [Anchor.onEdge, carries.leading, carries.trailing] at gap
    simp only [Context.follow, gap, sizes_carried registry metrics carries, ih, bind_of_map,
      map_of_bind, map_ok, List.map_append]

/-- A chain along the other axis has the changed descriptors, or the same fault. -/
theorem lower_carried (chain : Chain) :
    lower { chain with axis := some second } spacing registry metrics =
      (lower { chain with axis := some first } spacing registry metrics).map
        (List.map (Descriptor.onEdges change)) := by
  have leading := toEdge_onEdge change first second registry metrics spacing chain.leading
    ⟨chain.first.name.value, first.leadingEdge⟩ ⟨registry.parentKey, first.leadingEdge⟩
  have trailing := toEdge_onEdge change first second registry metrics spacing chain.trailing
    ⟨registry.parentKey, first.trailingEdge⟩ ⟨chain.last.name.value, first.trailingEdge⟩
  simp only [Anchor.onEdge, carries.leading] at leading
  simp only [Anchor.onEdge, carries.trailing] at trailing
  simp only [lower, Option.getD_some, links_withAxis, last_withAxis, leading, trailing,
    sizes_carried registry metrics carries, follow_carried registry metrics spacing carries,
    bind_of_map, map_of_bind, map_ok, List.map_append]

end Lowering

/-! ## Reading -/

/-- The text of a chain along an axis: the tag of the axis before the rest of the text. -/
def along (axis : Axis) (body : String) : String :=
  axis.letter ++ ":" ++ body

/-- The text along an axis begins with the tag of the axis. -/
theorem toList_along (axis : Axis) (body : String) :
    (along axis body).toList = (Token.mark axis.tag).text.toList ++ body.toList := by
  cases axis <;> simp [along, Axis.letter, Axis.tag, Token.text, Mark.text]

/-- The texts along both axes have the same length. -/
theorem utf8ByteSize_along (axis : Axis) (body : String) :
    (along axis body).utf8ByteSize = 2 + body.utf8ByteSize := by
  rw [along, String.utf8ByteSize_append]
  cases axis <;> rfl

/-- The tokens of the text along an axis are its tag and the tokens of the body. -/
theorem scan_along (axis : Axis) (body : String) :
    Token.scan (along axis body) =
      (Token.scanFrom 2 body.toList).map (⟨.mark axis.tag, ⟨0, 2⟩⟩ :: ·) := by
  have longest : Token.longest? ((Token.mark axis.tag).text.toList ++ body.toList) =
      some (.mark axis.tag, (Token.mark axis.tag).text.toList) := Token.longest?_mark axis.tag _
  rw [Token.scan, toList_along, Token.scanFrom_of_longest? longest]
  cases axis <;> rfl

/-- The axis of a chain is that of its tag, and all else is read from what follows. -/
theorem ofTokens_tagged (axis : Axis) (span : Span) (rest : Tokens) :
    ofTokens (⟨.mark axis.tag, span⟩ :: rest) =
      (ofTokens (⟨.mark Axis.horizontal.tag, span⟩ :: rest)).map
        ({ · with axis := some axis }) := by
  simp only [ofTokens, map_of_bind]
  cases axis <;> rfl

/-- The text along an axis is read as the text along the horizontal one is, with the other axis. -/
theorem parse_along (axis : Axis) (body : String) :
    parse (along axis body) =
      (parse (along .horizontal body)).map ({ · with axis := some axis }) := by
  unfold parse Grammar.read
  rw [scan_along, scan_along]
  cases Token.scanFrom 2 body.toList with
  | error found => rfl
  | ok tokens =>
    simp only [map_ok]
    rw [ofTokens_tagged axis]
    cases ofTokens (⟨.mark Axis.horizontal.tag, ⟨0, 2⟩⟩ :: tokens) with
    | ok chain => rfl
    | error stop =>
      cases stop with
      | unexpected token => rfl
      | spacedDot span => rfl
      | ended =>
        have ends : endSpan (along axis body) (⟨.mark axis.tag, ⟨0, 2⟩⟩ :: tokens) =
            endSpan (along .horizontal body) (⟨.mark Axis.horizontal.tag, ⟨0, 2⟩⟩ :: tokens) := by
          unfold endSpan
          rw [utf8ByteSize_along, utf8ByteSize_along, List.getLast?_cons, List.getLast?_cons]
          cases tokens.getLast? <;> rfl
        simp only [Except.map, errorOf, ends]

/-- The text along another axis compiles to the changed descriptors, or it is refused with the same
fault at the same place. -/
theorem compile_along {change : Attribute → Attribute} {first second : Axis}
    (carries : Axis.Carries change first second) (body : String) (spacing : Spacing)
    (registry : Registry) (metrics : Metrics) :
    compile (along second body) spacing registry metrics =
      (compile (along first body) spacing registry metrics).map
        (List.map (Descriptor.onEdges change)) := by
  unfold compile
  rw [parse_along second, parse_along first]
  cases parse (along .horizontal body) with
  | error error => rfl
  | ok chain => exact lower_carried registry metrics spacing carries chain

end Chain

/-! ## Constraint text -/

namespace Constraint

/-- The text of a chain along an axis is no equation. -/
theorem isEquation_along (axis : Axis) (body : String) :
    isEquation (Chain.along axis body) = false := by
  rw [isEquation, Chain.toList_along]
  cases axis <;> rfl

/-- The text along another axis compiles to the changed descriptors, whatever priority is given for
both, or both texts are refused with the same fault at the same place. -/
theorem compile_along {change : Attribute → Attribute} {first second : Axis}
    (carries : Axis.Carries change first second) (body : String) (spacing : Spacing)
    (registry : Registry) (metrics : Metrics) (priority : Option Priority) :
    (∃ fault span, ∀ axis ∈ [first, second],
      compile (Chain.along axis body) spacing registry metrics priority =
        .error (.rejected (Chain.along axis body) fault span)) ∨
    ∃ descriptors,
      compile (Chain.along first body) spacing registry metrics priority = .ok descriptors ∧
      compile (Chain.along second body) spacing registry metrics priority =
        .ok (descriptors.map (Descriptor.onEdges change)) := by
  have turned := Chain.compile_along carries body spacing registry metrics
  cases compiled : Chain.compile (Chain.along first body) spacing registry metrics with
  | error rejection =>
    rw [compiled] at turned
    refine .inl ⟨rejection.fault, rejection.span, ?_⟩
    simp only [List.mem_cons, List.not_mem_nil, or_false]
    rintro axis (rfl | rfl)
    · simp only [compile, descriptors, isEquation_along, Bool.false_eq_true, if_false, compiled]
      rfl
    · simp only [compile, descriptors, isEquation_along, Bool.false_eq_true, if_false, turned]
      rfl
  | ok descriptors =>
    rw [compiled] at turned
    simp only [compile, Constraint.descriptors, isEquation_along, Bool.false_eq_true, if_false,
      compiled, turned]
    cases priority with
    | none => exact .inr ⟨_, rfl, rfl⟩
    | some priority =>
      refine .inr ⟨_, rfl, ?_⟩
      simp only [map_ok, Except.mapError, List.map_map]
      rfl

end Constraint

end ViewLayout
