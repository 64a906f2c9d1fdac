import ViewLayout.Proofs.Constraint.Gaps
import ViewLayout.Proofs.Sequence.Modes

/-!
# The gaps that a builder compiles with

A host compiles text with gaps of its own, and a builder leaves compiling to its host. Of its own
configuration a builder uses the keys, and the gaps in it are read by no step of building. So what
applying a text records is what the configuration says exactly when the host has the same gaps for
the bare dashes of the text, and whether a text is applied does not depend on the gaps at all.
-/

namespace ViewLayout

open ViewLayout.Number ViewLayout.Outcome

namespace Host

/-- Moving views keeps the gaps. -/
theorem spacing_keptByMoves : KeptByMoves spacing :=
  fun _ _ _ _ => rfl

/-- Creating, attaching or detaching a view, whether or not it fails, keeps the gaps. -/
theorem TreeStep.spacing_perform (step : TreeStep) (host : Host) :
    (step.perform host).spacing = host.spacing := by
  cases step with
  | create content => rfl
  | attach parent child => exact spacing_keptByMoves.attachSteps_keeps parent child host
  | detach view => exact spacing_keptByMoves.detachSteps_keeps view host

/-- Every call, whether or not it fails, keeps the gaps. -/
theorem Call.spacing_perform (call : Call) (host : Host) :
    (call.perform host).spacing = host.spacing := by
  cases call with
  | tree step => exact step.spacing_perform host
  | createGuide frame => rfl
  | setContentPriority view priority axis kind =>
    change (((host.setContentPriority view priority axis kind).toOption).getD host).spacing = _
    unfold Host.setContentPriority Host.view
    cases host.view? view <;> rfl
  | apply registry descriptors =>
    have keeps : (applySteps registry descriptors).Keeps spacing :=
      .bind (Steps.reading_keeps _) fun _ _ => rfl
    exact keeps host

end Host

namespace Builder

/-! ## What a builder was given -/

/-- A builder has a configuration, and its host has gaps. -/
structure Given (builder : Builder) (spacing : Spacing) (configuration : Configuration) :
    Prop where
  /-- The gaps of the host. -/
  spacing : builder.host.spacing = spacing
  /-- The configuration of the builder. -/
  configuration : builder.configuration = configuration

/-- Every change of an operation leaves the gaps of the host and the configuration. -/
theorem kept_given (spacing : Spacing) (configuration : Configuration) :
    Kept (Given · spacing configuration) fun _ => True where
  tree builder given step :=
    ⟨(step.spacing_perform builder.host).trans given.spacing, given.configuration⟩
  guide _ given _ := ⟨given.spacing, given.configuration⟩
  priorities _ given _ _ _ _ _ set :=
    ⟨(Host.read_of_setPriorityBelow (fun _ _ => rfl) set).trans given.spacing, given.configuration⟩
  register _ given _ _ _ _ done := by
    obtain ⟨registry, -, rfl⟩ := register_eq_ok_iff.1 done
    exact ⟨given.spacing, given.configuration⟩
  unregister _ given _ := ⟨given.spacing, given.configuration⟩
  options _ given _ _ := ⟨given.spacing, given.configuration⟩
  text builder given raw priority := by
    obtain ⟨constraints, applied, same⟩ := builder.exists_of_applyText raw priority
    rw [same]
    exact ⟨given.spacing, given.configuration⟩

/-- Whatever is done to a builder and to its host, the gaps of the host and the configuration are
those that the builder was made with. -/
theorem given_of_evolves {host : Host} {container : ViewId} {configuration : Configuration}
    {builder : Builder}
    (reached : Relation.ReflTransGen Evolves (ofHost host container configuration) builder) :
    builder.Given host.spacing configuration :=
  (kept_given host.spacing configuration).evolve
    (fun builder call given =>
      ⟨(call.spacing_perform builder.host).trans given.spacing, given.configuration⟩)
    ⟨rfl, rfl⟩ reached

/-! ## Applying and compiling -/

/-- What applying a text does in a builder, compared with compiling it with some gaps. -/
structure GapLaw (builder : Builder) (gaps : Spacing) (raw : String) (priority : Option Priority) :
    Prop where
  /-- It fails exactly when compiling does, with the same error, and then changes nothing. -/
  fails : ∀ error after, applyText raw priority builder = .error error after ↔
    Constraint.compile raw gaps builder.registry builder.metrics priority = .error error ∧
      after = builder
  /-- It records descriptors that are the compiled ones but for the gaps of bare dashes: the host's
  are in place of those compiled with. -/
  records : ∀ compiled,
    Constraint.compile raw gaps builder.registry builder.metrics priority = .ok compiled →
    ∃ recorded handles after, applyText raw priority builder = .ok handles after ∧
      after.applied = builder.applied ++ [⟨raw, recorded, handles⟩] ∧
      Constraint.compile raw builder.host.spacing builder.registry builder.metrics priority =
        .ok recorded ∧
      recorded.map ({ · with constant := 0 }) = compiled.map ({ · with constant := 0 }) ∧
      (recorded = compiled ↔
        ∀ dash ∈ Constraint.dashes raw, builder.host.spacing.gap dash = gaps.gap dash)

/-- Compiling with any gaps decides whether a text is applied, and which descriptors are recorded
but for the gaps of its bare dashes. -/
theorem KeysKnown.gapLaw {builder : Builder} (created : builder.KeysKnown)
    (anchored : builder.registry.container ≠ none) (gaps : Spacing) (raw : String)
    (priority : Option Priority) : builder.GapLaw gaps raw priority := by
  have alongside := Constraint.compile_alongside raw gaps builder.host.spacing builder.registry
    builder.metrics priority
  have law := created.applyLaw anchored raw priority
  constructor
  · intro error after
    rw [alongside.eq_error_iff]
    constructor
    · intro failed
      cases here : builder.host.compile raw builder.registry builder.metrics priority with
      | error other =>
        rw [(law.refused other here).1] at failed
        obtain ⟨rfl, rfl⟩ := EStateM.Result.error.inj failed
        exact ⟨here, rfl⟩
      | ok recorded =>
        obtain ⟨stored, -, applied⟩ := law.accepted recorded here
        rw [applied] at failed
        contradiction
    · rintro ⟨failed, rfl⟩
      exact (law.refused error failed).1
  · intro compiled went
    obtain ⟨recorded, here, vary⟩ := alongside.exists_ok went
    obtain ⟨stored, -, applied⟩ := law.accepted recorded here
    refine ⟨recorded, _, _, applied, rfl, here, vary.rest.symm, ?_⟩
    rw [eq_comm, vary.eq_iff]
    exact forall₂_congr fun _ _ => eq_comm

/-- Whatever is done to a builder and to its host, it keeps its configuration and its host its gaps.
While keys stand for nodes of the host alone, a text is applied exactly when it compiles with the
gaps of the configuration, and what is recorded is what it compiles to exactly when configuration
and host have the same gaps for its bare dashes. -/
theorem gapLaw_of_reached {host : Host} {container : ViewId} {configuration : Configuration}
    {builder : Builder}
    (reached : Relation.ReflTransGen Evolves (ofHost host container configuration) builder)
    (created : builder.KeysKnown) (raw : String) (priority : Option Priority) :
    builder.configuration = configuration ∧ builder.host.spacing = host.spacing ∧
      builder.GapLaw configuration.spacing raw priority := by
  have given := given_of_evolves reached
  have container := (anchored_of_evolves reached).parent
  have anchored : builder.registry.container ≠ none := by
    rw [container]
    exact Option.some_ne_none _
  exact ⟨given.configuration, given.spacing, created.gapLaw anchored _ raw priority⟩

/-- A configuration with another gap at the edges than the host has, and a text whose only bare dash
is between two views. -/
theorem gapLaw_of_reached_inner_dash :
    let host := Host.reached {} [.tree (.create none), .tree (.create none), .tree (.create none)]
    let start := ofHost host ⟨0⟩ { superviewSpacing := 16 }
    let raw := "H:|[a]-[b]"
    ∃ builder, start.perform (.addViews [("a", ⟨1⟩), ("b", ⟨2⟩)]) = .ok builder ∧
      builder.KeysKnown ∧ Constraint.dashes raw = [.sibling] ∧
      builder.configuration = { superviewSpacing := 16 } ∧ builder.host.spacing = ⟨8, 20⟩ ∧
      builder.GapLaw ⟨8, 16⟩ raw none := by
  intro host start raw
  have step : start.perform (.addViews [("a", ⟨1⟩), ("b", ⟨2⟩)]) = .ok _ := rfl
  have begins : start.Consistent := consistent_ofHost _ rfl (by decide)
  have created := (begins.grown_perform (by decide) step).consistent.keysKnown
  exact ⟨_, step, created, by decide +kernel,
    gapLaw_of_reached (.single (.inl ⟨_, step⟩)) created raw none⟩

/-- On a new host, a builder that is configured with a gap of 16 at the edges records the host's
gap of 20, where compiling with the gaps of its configuration gives 16. -/
theorem exists_recorded_otherwise :
    let host := Host.reached {} [.tree (.create none), .tree (.create none)]
    let start := ofHost host ⟨0⟩ { siblingSpacing := 4, superviewSpacing := 16 }
    let builder := { start with
      registry := { start.registry with entries := .ofList [("a", .view ⟨1⟩)] } }
    let raw := "H:|-[a]"
    let tie (constant : Binary64) : Descriptor :=
      { first := ⟨"a", .leading⟩, relation := .equal, second := some ⟨"parent", .leading⟩, constant }
    start.perform (.addUnattached "a" ⟨1⟩) = .ok builder ∧ builder.KeysKnown ∧
      (∃ handles after, applyText raw none builder = .ok handles after ∧
        after.applied = builder.applied ++ [⟨raw, [tie 20], handles⟩]) ∧
      Constraint.compile raw builder.configuration.spacing builder.registry builder.metrics none =
        .ok [tie 16] := by
  intro host start builder raw tie
  have step : start.perform (.addUnattached "a" ⟨1⟩) = .ok builder := rfl
  have begins : start.Consistent := consistent_ofHost _ rfl (by decide)
  have created := (begins.grown_perform (by decide) step).consistent.keysKnown
  have compiles (gaps : Spacing) (constant : Binary64)
      (computed : (Constraint.compile raw gaps builder.registry builder.metrics none).toOption =
        some [tie constant]) := eq_ok_of_toOption computed
  have configured := compiles builder.configuration.spacing 16 (by decide +kernel)
  have hosted := compiles builder.host.spacing 20 (by decide +kernel)
  obtain ⟨recorded, handles, after, applied, noted, compiled, -⟩ :=
    (created.gapLaw nofun builder.configuration.spacing raw none).records _ configured
  obtain rfl := Except.ok.inj (compiled.symm.trans hosted)
  exact ⟨step, created, ⟨handles, after, applied, noted⟩, configured⟩

end Builder

end ViewLayout
