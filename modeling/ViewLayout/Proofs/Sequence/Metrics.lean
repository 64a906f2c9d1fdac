import ViewLayout.Proofs.Builder.Applying
import ViewLayout.Proofs.Constraint.Mentions
import ViewLayout.Proofs.Sequence.Closing

/-!
# The metrics that a sequence leaves

A sequence writes its texts with its margins as metrics, and these replace the active metrics of the
builder. So a sequence that places no view leaves the builder as it was, and any other one leaves
the margins of its last text behind, and of the metrics before it only those that happen to be the
same. A text that mentions no margin, and nothing that was a metric before, does not notice.
-/

namespace ViewLayout

open ViewLayout.Number ViewLayout.Outcome

namespace Sequence

/-! ## The last text -/

/-- The margins in force when the last text was written: that of the last closing while the sequence
is closed, otherwise that of the last batch. Without views there is no text. -/
def History.lastMargins? (history : History) : Option Margins :=
  if history.closed then history.closings.getLast?.map (·.margins)
  else history.placements.getLast?.map (·.margins)

/-- The placements of a history are the views of its operations. -/
theorem map_view_placements (operations : List Operation) :
    (history operations).placements.map (·.view) = operations.flatMap Operation.views := by
  induction operations using List.reverseRecOn with
  | nil => rfl
  | append_singleton operations operation ih =>
    rw [history_append, List.foldl_cons, List.foldl_nil, List.flatMap_append, ← ih,
      List.flatMap_singleton]
    cases operation with
    | withMargins margins => exact (List.append_nil _).symm
    | addViews views centered =>
      by_cases empty : views.isEmpty
      · rw [History.record, if_pos empty, Operation.views, List.isEmpty_iff.1 empty,
          List.append_nil]
      · rw [History.record, if_neg empty, History.append, List.map_append, History.batch,
          List.map_map]
        exact congrArg _ (List.map_id _)
    | close =>
      rw [History.record, Operation.views, List.append_nil]
      split <;> rfl

/-- The last text of a batch is written with the margins in force. -/
theorem History.lastMargins?_append (history : History) {views : List ViewId} (centered : Bool)
    (filled : views ≠ []) :
    (history.append views centered).lastMargins? = some history.margins := by
  obtain ⟨last, final⟩ : ∃ last, views.getLast? = some last :=
    Option.isSome_iff_exists.1 (List.getLast?_isSome.2 filled)
  have placed : (history.batch views centered).getLast? =
      some ⟨last, history.margins, centered⟩ := by
    rw [batch, List.getLast?_map, final]
    rfl
  rw [lastMargins?, append, if_neg Bool.false_ne_true, List.getLast?_append, placed]
  rfl

/-- The closing text is written with the margins in force. -/
theorem History.lastMargins?_close {history : History} (filled : history.placements ≠ []) :
    history.close.lastMargins? = some history.margins := by
  obtain ⟨last, final⟩ : ∃ last, history.placements.getLast? = some last :=
    Option.isSome_iff_exists.1 (List.getLast?_isSome.2 filled)
  rw [lastMargins?, close, if_pos rfl, closing, final, Option.toList_some, List.map_singleton,
    List.getLast?_concat]
  rfl

/-! ## Following the metrics -/

section Following

variable {builder : Builder} {operations : List Operation} {sequence next : Sequence}

/-- Emitting a text leaves the margins it was written with as metrics. -/
theorem exists_builder_of_emit {raw : String} (done : sequence.emit raw = .ok next) :
    ∃ builder, next = { sequence with builder } ∧ builder.metrics = sequence.margins.metrics := by
  obtain ⟨builder, applied, replaced⟩ := bind_eq_ok_iff.1 done
  obtain ⟨ds, stored, -, -, rfl⟩ := Builder.exists_stores_of_addConstraint applied
  exact ⟨_, (Except.ok.inj replaced).symm, rfl⟩

/-- A batch of views leaves its margins as metrics, whatever texts it needs. -/
theorem metrics_of_addViews {views : List ViewId} {centered : Bool} (filled : views ≠ [])
    (done : sequence.addViews views centered = .ok next) :
    next.margins = sequence.margins ∧ next.closed = false ∧
      next.count = sequence.count + views.length ∧
      next.builder.metrics = sequence.margins.metrics := by
  rw [addViews, if_neg (by rwa [List.isEmpty_iff])] at done
  obtain ⟨added, adds, rest⟩ := bind_eq_ok_iff.1 done
  obtain ⟨placed, crosses, rest⟩ := bind_eq_ok_iff.1 rest
  obtain ⟨chained, chains, replaced⟩ := bind_eq_ok_iff.1 rest
  obtain rfl := Except.ok.inj replaced
  have registered := registered_of_foldlM adds
  have across : placed.margins = sequence.margins ∧
      placed.count = sequence.count + views.length := by
    refine foldlM_keeps (fun state => state.margins = sequence.margins ∧
      state.count = sequence.count + views.length) (fun state kept _ _ other emits => ?_)
      ⟨registered.margins, registered.count⟩ crosses
    obtain ⟨_, rfl, -⟩ := exists_builder_of_emit emits
    exact kept
  obtain ⟨builder, rfl, metrics⟩ := exists_builder_of_emit chains
  rw [across.1] at metrics
  exact ⟨across.1, rfl, across.2, metrics⟩

/-- A sequence that has come out of operations on a builder has left metrics in it. -/
structure Measured (builder : Builder) (operations : List Operation) (sequence : Sequence) :
    Prop where
  /-- The margins are those in force. -/
  margins : sequence.margins = (history operations).margins
  /-- The sequence is closed when the history is. -/
  closed : sequence.closed = (history operations).closed
  /-- Every view is counted. -/
  count : sequence.count = (operations.flatMap Operation.views).length
  /-- Without views, nothing is left. -/
  untouched : operations.flatMap Operation.views = [] → sequence.builder = builder
  /-- With views, the margins of the last text are left. -/
  replaced : operations.flatMap Operation.views ≠ [] →
    ∃ margins ∈ (history operations).lastMargins?, sequence.builder.metrics = margins.metrics

namespace Measured

/-- An operation that writes no text leaves the metrics as they are. -/
theorem of_quiet (measured : Measured builder operations sequence) {operation : Operation}
    (none : operation.views = [])
    (quiet : ((history operations).record operation).lastMargins? =
      (history operations).lastMargins?)
    (margins : next.margins = ((history operations).record operation).margins)
    (closed : next.closed = ((history operations).record operation).closed)
    (count : next.count = sequence.count) (same : next.builder = sequence.builder) :
    Measured builder (operations ++ [operation]) next := by
  have views : (operations ++ [operation]).flatMap Operation.views =
      operations.flatMap Operation.views := by
    rw [List.flatMap_append, List.flatMap_singleton, none, List.append_nil]
  have recorded : history (operations ++ [operation]) = (history operations).record operation :=
    history_append operations [operation]
  constructor
  case margins => rw [recorded, margins]
  case closed => rw [recorded, closed]
  case count => rw [count, measured.count, views]
  case untouched =>
    rw [views, same]
    exact measured.untouched
  case replaced =>
    rw [views, recorded, quiet, same]
    exact measured.replaced

/-- An operation that writes texts leaves the margins in force as metrics. -/
theorem of_text (measured : Measured builder operations sequence) {operation : Operation}
    (placed : (operations ++ [operation]).flatMap Operation.views ≠ [])
    (last : ((history operations).record operation).lastMargins? =
      some (history operations).margins)
    (inForce : ((history operations).record operation).margins = (history operations).margins)
    (margins : next.margins = sequence.margins)
    (closed : next.closed = ((history operations).record operation).closed)
    (count : next.count = sequence.count + operation.views.length)
    (metrics : next.builder.metrics = sequence.margins.metrics) :
    Measured builder (operations ++ [operation]) next := by
  have recorded : history (operations ++ [operation]) = (history operations).record operation :=
    history_append operations [operation]
  constructor
  case margins => rw [recorded, inForce, margins, measured.margins]
  case closed => rw [recorded, closed]
  case count =>
    rw [count, measured.count, List.flatMap_append, List.flatMap_singleton, List.length_append]
  case untouched => exact fun none => absurd none placed
  case replaced =>
    intro _
    rw [recorded, last]
    exact ⟨_, rfl, by rw [metrics, measured.margins]⟩

/-- Any operation. -/
theorem perform (measured : Measured builder operations sequence) {operation : Operation}
    (done : sequence.perform operation = .ok next) :
    Measured builder (operations ++ [operation]) next := by
  cases operation with
  | withMargins margins =>
    obtain rfl := Except.ok.inj done
    exact measured.of_quiet rfl rfl rfl measured.closed rfl rfl
  | addViews views centered =>
    by_cases empty : views.isEmpty
    · have same : sequence = next := by
        simpa [Sequence.perform, Sequence.addViews, empty] using done
      have recorded : (history operations).record (.addViews views centered) = history operations :=
        if_pos empty
      subst same
      exact measured.of_quiet (List.isEmpty_iff.1 empty) (by rw [recorded])
        (by rw [recorded, measured.margins]) (by rw [recorded, measured.closed]) rfl rfl
    · have filled : views ≠ [] := by rwa [List.isEmpty_iff] at empty
      have recorded : (history operations).record (.addViews views centered) =
          (history operations).append views centered := if_neg empty
      obtain ⟨margins, closed, count, metrics⟩ := metrics_of_addViews filled done
      refine measured.of_text ?_ ?_ ?_ margins ?_ count metrics
      · rw [List.flatMap_append, List.flatMap_singleton]
        exact List.append_ne_nil_of_right_ne_nil _ filled
      · rw [recorded, History.lastMargins?_append _ _ filled]
      · rw [recorded, History.append]
      · rw [recorded, History.append, closed]
  | close =>
    simp only [Sequence.perform, Sequence.close] at done
    split at done
    · contradiction
    · rename_i begun
      have placed : operations.flatMap Operation.views ≠ [] := by
        rwa [measured.count, List.length_eq_zero_iff] at begun
      split at done
      · rename_i already
        obtain rfl := Except.ok.inj done
        rw [measured.closed] at already
        have recorded : (history operations).record .close = history operations := if_pos already
        exact measured.of_quiet rfl (by rw [recorded]) (by rw [recorded, measured.margins])
          (by rw [recorded, measured.closed]) rfl rfl
      · rename_i opened
        rw [measured.closed] at opened
        have recorded : (history operations).record .close = (history operations).close :=
          if_neg opened
        obtain ⟨emitted, emits, ended⟩ := bind_eq_ok_iff.1 done
        obtain rfl := Except.ok.inj ended
        obtain ⟨after, rfl, metrics⟩ := exists_builder_of_emit emits
        have placements : (history operations).placements ≠ [] := by
          rwa [← map_view_placements, ne_eq, List.map_eq_nil_iff] at placed
        refine measured.of_text ?_ ?_ ?_ rfl ?_ rfl metrics
        · rw [List.flatMap_append]
          exact List.append_ne_nil_of_left_ne_nil placed _
        · rw [recorded, History.lastMargins?_close placements]
        · rw [recorded, History.close]
        · rw [recorded, History.close]

end Measured

/-- A run of a new sequence leaves metrics in its builder. -/
theorem measured_of_run {axis : Axis} {final : Sequence}
    (ran : run { axis, builder } operations = .ok final) : Measured builder operations final := by
  have begins : Measured builder [] { axis, builder } :=
    ⟨rfl, rfl, rfl, fun _ => rfl, fun placed => absurd rfl placed⟩
  refine foldlM_collects (Measured builder) ?_ begins ran
  exact fun _ _ measured _ _ _ performed => measured.perform performed

end Following

/-! ## What is left -/

/-- The margins are the only metrics of margins. -/
theorem get?_metrics_of_not_isMargin {name : String} (other : ¬IsMargin name) (margins : Margins) :
    margins.metrics.get? name = none := by
  simp only [IsMargin, not_or] at other
  obtain ⟨ends, sides, between⟩ := other
  simp only [Margins.metrics, KeyMap.ofList, List.foldl_cons, List.foldl_nil, KeyMap.get?_insert,
    ends, sides, between, if_false]
  rfl

/-- A run that places no view leaves the builder as it was. Any other run leaves the margins that
were in force for the last text as the only metrics. Either way, a text that mentions no margin, and
nothing that was a metric before, compiles as it would have before, to the same descriptors or to
none. -/
theorem metrics_of_run {axis : Axis} {builder : Builder} {operations : List Operation}
    {final : Sequence} (ran : run { axis, builder } operations = .ok final) :
    (operations.flatMap Operation.views = [] → final.builder = builder) ∧
    (operations.flatMap Operation.views ≠ [] →
      ∃ margins ∈ (history operations).lastMargins?, final.builder.metrics = margins.metrics) ∧
    ∀ (raw : String) (spacing : Spacing) (registry : Registry) (priority : Option Priority),
      (∀ name ∈ Constraint.mentions raw,
        ¬IsMargin name ∧ builder.metrics.get? name = none) →
      (Constraint.compile raw spacing registry final.builder.metrics priority).toOption =
        (Constraint.compile raw spacing registry builder.metrics priority).toOption := by
  have measured := measured_of_run ran
  refine ⟨measured.untouched, measured.replaced, fun raw spacing registry priority unnamed => ?_⟩
  refine Constraint.toOption_compile_of_agree raw spacing priority ⟨rfl, fun _ _ => .rfl⟩ ?_
  intro name mentioned
  obtain ⟨other, unbound⟩ := unnamed name mentioned
  by_cases none : operations.flatMap Operation.views = []
  · rw [measured.untouched none]
  · obtain ⟨margins, -, metrics⟩ := measured.replaced none
    rw [metrics, unbound, get?_metrics_of_not_isMargin other]

/-- The margins of a closing are left, not those that are set after it, and a text without metrics
compiles as before. -/
theorem metrics_of_run_of_closed :
    let builder := { Builder.ofHost { spacing := ⟨8, 20⟩, views := List.replicate 2 {} } ⟨0⟩ {} with
      metrics := .ofList [("gap", 12)] }
    let operations : List Operation :=
      [.addViews [⟨1⟩] false, .withMargins ⟨20, 10, 5⟩, .close, .withMargins ⟨1, 1, 1⟩]
    ∃ final, run { axis := .vertical, builder } operations = .ok final ∧
      operations.flatMap Operation.views ≠ [] ∧
      final.builder.metrics = (⟨20, 10, 5⟩ : Margins).metrics ∧
      (∀ name ∈ Constraint.mentions "H:[v1(30)]-|",
        ¬IsMargin name ∧ builder.metrics.get? name = none) ∧
      (Constraint.compile "H:[v1(30)]-|" ⟨8, 20⟩ final.builder.registry final.builder.metrics
          none).toOption =
        (Constraint.compile "H:[v1(30)]-|" ⟨8, 20⟩ final.builder.registry builder.metrics
          none).toOption := by
  intro builder operations
  have goes : (run { axis := .vertical, builder } operations).toOption.isSome := by decide +kernel
  obtain ⟨final, found⟩ := Option.isSome_iff_exists.1 goes
  have ran := eq_ok_of_toOption found
  have placed : operations.flatMap Operation.views ≠ [] := by decide
  have mentioned : Constraint.mentions "H:[v1(30)]-|" = ["v1"] := by decide +kernel
  have unnamed : ∀ name ∈ Constraint.mentions "H:[v1(30)]-|",
      ¬IsMargin name ∧ builder.metrics.get? name = none := by
    rw [mentioned]
    simp only [List.mem_singleton, forall_eq, IsMargin]
    decide +kernel
  obtain ⟨-, replaced, alike⟩ := metrics_of_run ran
  obtain ⟨margins, last, left⟩ := replaced placed
  obtain rfl : (⟨20, 10, 5⟩ : Margins) = margins := Option.some.inj last
  exact ⟨final, ran, placed, left, unnamed, alike _ _ _ none unnamed⟩

/-- A metric that is no margin is lost when a sequence places a view, and a text that names it no
longer compiles. -/
theorem exists_metric_lost :
    let builder := { Builder.ofHost { spacing := ⟨8, 20⟩, views := List.replicate 2 {} } ⟨0⟩ {} with
      metrics := .ofList [("gap", 12)] }
    ∃ final, run { axis := .vertical, builder } [.addViews [⟨1⟩] false] = .ok final ∧
      ¬IsMargin "gap" ∧ builder.metrics.get? "gap" = some 12 ∧
      final.builder.metrics.get? "gap" = none ∧
      Constraint.mentions "H:[v1(gap)]" = ["v1", "gap"] ∧
      (final.builder.host.compile "H:[v1(gap)]" final.builder.registry builder.metrics
        none).toOption.isSome ∧
      (final.builder.host.compile "H:[v1(gap)]" final.builder.registry final.builder.metrics
        none).toOption = none := by
  intro builder
  have checked : ∃ final ∈ (run { axis := .vertical, builder } [.addViews [⟨1⟩] false]).toOption,
      builder.metrics.get? "gap" = some 12 ∧ final.builder.metrics.get? "gap" = none ∧
      Constraint.mentions "H:[v1(gap)]" = ["v1", "gap"] ∧
      (final.builder.host.compile "H:[v1(gap)]" final.builder.registry builder.metrics
        none).toOption.isSome ∧
      (final.builder.host.compile "H:[v1(gap)]" final.builder.registry final.builder.metrics
        none).toOption = none := by
    decide +kernel
  obtain ⟨final, found, lost⟩ := checked
  have free : ¬IsMargin "gap" := by
    unfold IsMargin
    decide
  exact ⟨final, eq_ok_of_toOption found, free, lost⟩

end Sequence

end ViewLayout
