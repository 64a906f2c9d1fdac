import ViewLayout.Proofs.Builder.Grounded
import ViewLayout.Proofs.Host.Priorities

/-!
# Settings of content priorities

A builder sets content priorities in the subtree of the view of a key: one priority, or both
priorities of an axis so that the subtree keeps the size of its content. In every builder that
operations and calls on its host lead to, a setting goes through when its key stands for a view that
the host created. It changes the priorities it sets in that subtree and nothing else, so settings
that do not meet can be made in either order.
-/

namespace ViewLayout.Builder

open ViewLayout.Number ViewLayout.Outcome

/-! ## Builders on a forest -/

/-- A builder becomes another by an operation that goes through, or by a call on its host, whether
or not that fails. -/
def Evolves (builder next : Builder) : Prop :=
  builder.Becomes next ∨
    ∃ call : Host.Call, next = { builder with host := call.perform builder.host }

/-- What the changes of operations keep, and calls on the host as well, holds whatever is done to a
builder and to its host. -/
theorem Kept.evolve {holds : Builder → Prop} (kept : Kept holds fun _ => True)
    (calls : ∀ (builder : Builder) (call : Host.Call), holds builder →
      holds { builder with host := call.perform builder.host })
    {builder later : Builder} (held : holds builder)
    (reached : Relation.ReflTransGen Evolves builder later) : holds later := by
  induction reached with
  | refl => exact held
  | tail _ step ih =>
    obtain ⟨operation, done⟩ | ⟨call, rfl⟩ := step
    · exact kept.perform ih (fun _ _ => trivial) done
    · exact calls _ call ih

/-- Every change of an operation leaves a forest behind. -/
theorem kept_forest : Kept (fun builder => builder.host.IsForest) fun _ => True where
  tree _ forest step := forest.perform step
  guide _ forest _ := forest.of_tree rfl
  priorities _ forest _ _ _ _ _ set := forest.of_tree (Host.tree_of_setPriorityBelow set)
  register _ forest _ _ _ _ done := by
    obtain ⟨registry, -, rfl⟩ := register_eq_ok_iff.1 done
    exact forest
  unregister _ forest _ := forest
  options _ forest _ _ := forest
  text builder forest raw priority := by
    obtain ⟨constraints, applied, same⟩ := builder.exists_of_applyText raw priority
    rw [same]
    exact forest.of_tree rfl

/-- Whatever is done to a builder on a forest and to its host, the views form a forest. -/
theorem isForest_of_evolves {builder later : Builder} (forest : builder.host.IsForest)
    (reached : Relation.ReflTransGen Evolves builder later) : later.host.IsForest :=
  kept_forest.evolve (fun _ call forest => forest.call call) forest reached

/-! ## Settings -/

/-- A setting of content priorities in the subtree of the view of a key. -/
inductive Setting where
  /-- Sets one content priority. -/
  | one (key : String) (kind : ContentPriority) (priority : Priority) (axis : Axis)
  /-- Keeps the subtree at the size of its content along an axis. -/
  | wrap (key : String) (axis : Axis)

namespace Setting

/-- The key of a setting. -/
def key : Setting → String
  | one key .. => key
  | wrap key _ => key

/-- The priorities that a setting sets, by axis and kind. -/
def chosen : Setting → Axis → ContentPriority → Option Priority
  | one _ kind priority axis, along, which =>
    if along = axis ∧ which = kind then some priority else none
  | wrap _ axis, along, which =>
    if along = axis then
      match which with
      | .hugging => some ⟨750⟩
      | .resistance => some ⟨1000⟩
    else none

/-- Makes a setting. -/
def perform (builder : Builder) : Setting → Except ConstraintError Builder
  | one key kind priority axis => builder.setContentPriority key priority axis kind
  | wrap key axis => builder.wrapContent key axis

end Setting

/-- Steps set content priorities in the subtree of the view of a key, in every builder on a forest
in which the key stands for a view that the host created. -/
def SetsBelow (step : Builder → Except ConstraintError Builder) (key : String)
    (chosen : Axis → ContentPriority → Option Priority) : Prop :=
  ∀ (builder : Builder) (view : ViewId), builder.host.IsForest →
    builder.registry.resolveView key = .ok view → builder.host.knows (.view view) = true →
    ∃ host, step builder = .ok { builder with host } ∧
      builder.host.PrioritiesSet view chosen host

/-- Setting one content priority. -/
theorem setsBelow_setContentPriority (key : String) (priority : Priority) (axis : Axis)
    (kind : ContentPriority) :
    SetsBelow (·.setContentPriority key priority axis kind) key
      (Host.chooseOne priority axis kind) := by
  intro builder view forest resolved known
  obtain ⟨host, done, set⟩ := forest.exists_prioritiesSet known priority axis kind
  refine ⟨host, bind_eq_ok_iff.2 ⟨view, mapError_eq_ok_iff.2 resolved, ?_⟩, set⟩
  exact bind_eq_ok_iff.2 ⟨host, mapError_eq_ok_iff.2 done, rfl⟩

/-- Steps for one key, one after another, of which the later one counts. -/
theorem SetsBelow.bind {step next : Builder → Except ConstraintError Builder} {key : String}
    {chosen more : Axis → ContentPriority → Option Priority} (first : SetsBelow step key chosen)
    (second : SetsBelow next key more) :
    SetsBelow (fun builder => step builder >>= next) key
      (fun axis kind => (more axis kind).or (chosen axis kind)) := by
  intro builder view forest resolved known
  obtain ⟨middle, done, set⟩ := first builder view forest resolved known
  -- The first step leaves the tree as it is, so the second one finds the same view.
  have same := Host.tree_of_withoutPriorities set.besides
  obtain ⟨host, goes, sets⟩ := second { builder with host := middle } view (forest.of_tree same)
    resolved ((Host.knows_of_tree same view).trans known)
  exact ⟨host, bind_eq_ok_iff.2 ⟨_, done, goes⟩, set.trans sets⟩

/-- A setting sets the priorities it chooses. -/
theorem Setting.setsBelow (setting : Setting) :
    SetsBelow (fun builder => setting.perform builder) setting.key setting.chosen := by
  cases setting with
  | one key kind priority axis => exact setsBelow_setContentPriority key priority axis kind
  | wrap key axis =>
    have both := (setsBelow_setContentPriority key .high axis .hugging).bind
      (setsBelow_setContentPriority key .required axis .resistance)
    have same : (wrap key axis).chosen = fun along which =>
        (Host.chooseOne .required axis .resistance along which).or
          (Host.chooseOne .high axis .hugging along which) := by
      funext along which
      by_cases here : along = axis
      · cases which <;> simp [chosen, Host.chooseOne, here, Priority.high, Priority.required]
      · simp [chosen, Host.chooseOne, here]
    rw [same]
    exact both

/-- What a setting does in a builder. -/
structure SettingLaw (builder : Builder) (setting : Setting) (view : ViewId) (host : Host) :
    Prop where
  /-- It goes through and changes nothing but the host. -/
  goes : setting.perform builder = .ok { builder with host }
  /-- In the host it sets the chosen priorities in the subtree of the view, and changes nothing
  else. -/
  sets : builder.host.PrioritiesSet view setting.chosen host
  /-- Another setting that meets it in no priority of any view goes through before and after it, and
  both orders lead to the same builder. -/
  commutes : ∀ (other : Setting) (second : ViewId),
    builder.registry.resolveView other.key = .ok second →
    builder.host.knows (.view second) = true →
    (∀ below axis kind, builder.host.AtOrAbove view below → builder.host.AtOrAbove second below →
      setting.chosen axis kind = none ∨ other.chosen axis kind = none) →
    ∃ left both, other.perform builder = .ok left ∧ setting.perform left = .ok both ∧
      other.perform { builder with host } = .ok both

/-- Whatever calls made a host and whatever was done to a builder on it, a setting does what a
setting is to do when its key stands for a view that the host created. -/
theorem exists_settingLaw {configuration options : Configuration} {calls : List Host.Call}
    {container : ViewId} {builder : Builder}
    (reached : Relation.ReflTransGen Evolves
      (ofHost (Host.reached configuration calls) container options) builder)
    {setting : Setting} {view : ViewId}
    (resolved : builder.registry.resolveView setting.key = .ok view)
    (known : builder.host.knows (.view view) = true) :
    ∃ host, builder.SettingLaw setting view host := by
  have forest := isForest_of_evolves (Host.isForest_reached configuration calls) reached
  obtain ⟨host, done, set⟩ := setting.setsBelow builder view forest resolved known
  refine ⟨host, done, set, ?_⟩
  intro other second found created apart
  obtain ⟨left, goesFirst, setFirst⟩ := other.setsBelow builder second forest found created
  -- Settings leave the tree as it is, so each setting still finds its view after the other.
  have sameLeft := Host.tree_of_withoutPriorities setFirst.besides
  have same := Host.tree_of_withoutPriorities set.besides
  obtain ⟨both, goesThen, setThen⟩ := setting.setsBelow { builder with host := left } view
    (forest.of_tree sameLeft) resolved ((Host.knows_of_tree sameLeft view).trans known)
  obtain ⟨after, goesSecond, setSecond⟩ := other.setsBelow { builder with host } second
    (forest.of_tree same) found ((Host.knows_of_tree same second).trans created)
  obtain rfl : both = after := set.eq_of_apart setSecond setFirst setThen apart
  exact ⟨_, _, goesFirst, goesThen, goesSecond⟩

/-- A view with a view in it, which keeps the size of its content, beside another view. -/
theorem exists_settingLaw_of_nested :
    let host := Host.reached {} [.tree (.create none), .tree (.create none), .tree (.create none),
      .tree (.create none), .tree (.attach ⟨0⟩ ⟨1⟩), .tree (.attach ⟨1⟩ ⟨2⟩),
      .tree (.attach ⟨0⟩ ⟨3⟩)]
    ∃ builder, (ofHost host ⟨0⟩ {}).perform (.addUnattached "a" ⟨1⟩) = .ok builder ∧
      builder.registry.resolveView "a" = .ok ⟨1⟩ ∧ builder.host.knows (.view ⟨1⟩) = true ∧
      ∃ after, builder.SettingLaw (.wrap "a" .vertical) ⟨1⟩ after := by
  intro host
  have step : (ofHost host ⟨0⟩ {}).perform (.addUnattached "a" ⟨1⟩) = .ok _ := rfl
  refine ⟨_, step, by decide +kernel, by decide, ?_⟩
  exact exists_settingLaw (.single (.inl ⟨_, step⟩)) (by decide +kernel) (by decide)

end ViewLayout.Builder
