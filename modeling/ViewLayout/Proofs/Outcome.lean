import Mathlib.Data.List.Forall2
import Mathlib.Data.List.Induction

/-!
# Outcomes of steps that can fail

Reading and compiling are sequences of steps of which the first that fails ends the whole. A
sequence succeeds exactly when each of its steps does, and a step over a list exactly when it
does at every element. Proofs about either take a sequence apart with these equivalences and
never open the sequencing itself.

Where the failure matters, a step reports the fault that a check finds apart from it, and a
sequence reports the first fault that its checks find.

Two runs that are to be compared are taken apart together: either both succeed, with values that are
related, or both fail.
-/

namespace ViewLayout.Outcome

variable {ε δ α β : Type}

/-- A sequence succeeds when its first step does and the rest does on what the first gave. -/
@[simp]
theorem bind_eq_ok_iff {step : Except ε α} {next : α → Except ε β} {value : β} :
    (step >>= next) = .ok value ↔ ∃ found, step = .ok found ∧ next found = .ok value := by
  cases step with
  | error fault => simp [bind, Except.bind]
  | ok found => simp [bind, Except.bind]

/-- A sequence fails when its first step does, or when the rest does on what the first gave. -/
theorem bind_eq_error_iff {step : Except ε α} {next : α → Except ε β} {fault : ε} :
    (step >>= next) = .error fault ↔
      step = .error fault ∨ ∃ found, step = .ok found ∧ next found = .error fault := by
  cases step with
  | error fault => simp [bind, Except.bind]
  | ok found => simp [bind, Except.bind]

/-- Placing a failure elsewhere leaves success as it is. -/
@[simp]
theorem mapError_eq_ok_iff {step : Except ε α} {place : ε → δ} {value : α} :
    step.mapError place = .ok value ↔ step = .ok value := by
  cases step <;> simp [Except.mapError]

/-- Changing the value of a step succeeds when the step does. -/
@[simp]
theorem map_eq_ok_iff {step : Except ε α} {change : α → β} {value : β} :
    step.map change = .ok value ↔ ∃ found, step = .ok found ∧ change found = value := by
  cases step <;> simp [Except.map]

/-- Changing the value of a step leaves its failure as it is. -/
theorem map_eq_error_iff {step : Except ε α} {change : α → β} {fault : ε} :
    step.map change = .error fault ↔ step = .error fault := by
  cases step <;> simp [Except.map]

/-- Placing a failure elsewhere fails when the step does. -/
theorem mapError_eq_error_iff {step : Except ε α} {place : ε → δ} {fault : δ} :
    step.mapError place = .error fault ↔ ∃ found, step = .error found ∧ place found = fault := by
  cases step <;> simp [Except.mapError]

/-- Changing a value that is there changes it. -/
theorem map_ok (change : α → β) (value : α) :
    (.ok value : Except ε α).map change = .ok (change value) :=
  rfl

/-- Changing the value of a sequence changes that of its rest. -/
theorem map_of_bind {γ : Type} (change : β → γ) (step : Except ε α) (next : α → Except ε β) :
    (step >>= next).map change = step >>= fun found => (next found).map change := by
  cases step <;> rfl

/-- The rest of a sequence is taken on the changed value of its first step. -/
theorem bind_of_map {γ : Type} (change : α → γ) (step : Except ε α) (next : γ → Except ε β) :
    (step.map change >>= next) = step >>= fun found => next (change found) := by
  cases step <;> rfl

/-- A step that has a value succeeds with it. -/
theorem eq_ok_of_toOption {step : Except ε α} {value : α} (found : step.toOption = some value) :
    step = .ok value := by
  cases step with
  | error fault => contradiction
  | ok other => rw [Option.some.inj found]

/-- Steps that succeed with the same values are the same but for how they fail. -/
theorem toOption_eq_of_ok_iff {first : Except ε α} {second : Except δ α}
    (same : ∀ value, first = .ok value ↔ second = .ok value) :
    first.toOption = second.toOption := by
  cases first with
  | ok value =>
    rw [(same value).1 rfl]
    rfl
  | error fault =>
    cases second with
    | ok value => exact nomatch (same value).2 rfl
    | error other => rfl

/-- A step over a list succeeds when it does at every element, with the values in order. -/
theorem mapM_eq_ok_iff {step : α → Except ε β} {items : List α} {values : List β} :
    items.mapM step = .ok values ↔
      List.Forall₂ (fun item value => step item = .ok value) items values := by
  induction items generalizing values with
  | nil => cases values <;> simp [pure, Except.pure]
  | cons item items ih =>
    rw [List.mapM_cons, List.forall₂_cons_left_iff]
    simp only [bind_eq_ok_iff, ih, pure, Except.pure, Except.ok.injEq]
    constructor
    · rintro ⟨value, first, later, rest, rfl⟩
      exact ⟨value, later, first, rest, rfl⟩
    · rintro ⟨value, later, first, rest, rfl⟩
      exact ⟨value, first, later, rest, rfl⟩

/-- A step over a list that fails does so at one of the elements. -/
theorem exists_error_of_mapM {step : α → Except ε β} {items : List α} {fault : ε}
    (failed : items.mapM step = .error fault) : ∃ item ∈ items, step item = .error fault := by
  induction items with
  | nil => contradiction
  | cons item items ih =>
    rw [List.mapM_cons] at failed
    rcases bind_eq_error_iff.1 failed with here | ⟨value, -, later⟩
    · exact ⟨item, List.mem_cons_self, here⟩
    · rcases bind_eq_error_iff.1 later with there | ⟨values, -, ended⟩
      · obtain ⟨found, listed, wrong⟩ := ih there
        exact ⟨found, List.mem_cons_of_mem _ listed, wrong⟩
      · contradiction

/-- What every step over a list keeps holds at its end. -/
theorem foldlM_keeps (holds : β → Prop) {step : β → α → Except ε β} {items : List α}
    {start final : β} (kept : ∀ state, holds state → ∀ item ∈ items, ∀ next,
      step state item = .ok next → holds next)
    (begins : holds start) (ended : items.foldlM step start = .ok final) : holds final := by
  induction items generalizing start with
  | nil =>
    obtain rfl := Except.ok.inj ended
    exact begins
  | cons item items ih =>
    rw [List.foldlM_cons, bind_eq_ok_iff] at ended
    obtain ⟨next, stepped, later⟩ := ended
    refine ih (fun state held other listed => kept state held other (List.mem_cons_of_mem _ listed))
      (kept start begins item List.mem_cons_self next stepped) later

/-- What holds of the elements passed so far and the state holds of all elements and the last
state. -/
theorem foldlM_collects (holds : List α → β → Prop) {step : β → α → Except ε β} {items : List α}
    {start final : β}
    (kept : ∀ before state, holds before state → ∀ item ∈ items, ∀ next,
      step state item = .ok next → holds (before ++ [item]) next)
    (begins : holds [] start) (ended : items.foldlM step start = .ok final) :
    holds items final := by
  induction items using List.reverseRecOn generalizing final with
  | nil =>
    obtain rfl := Except.ok.inj ended
    exact begins
  | append_singleton before item ih =>
    rw [List.foldlM_append, bind_eq_ok_iff] at ended
    obtain ⟨state, first, last⟩ := ended
    rw [List.foldlM_cons, bind_eq_ok_iff] at last
    obtain ⟨next, stepped, same⟩ := last
    obtain rfl := Except.ok.inj same
    have held := ih (fun before state held other listed =>
      kept before state held other (List.mem_append_left _ listed)) first
    exact kept before state held item List.mem_concat_self next stepped

/-- Values for a list can be given exactly when each element has one. -/
theorem exists_forall₂_iff {holds : α → β → Prop} {items : List α} :
    (∃ values, List.Forall₂ holds items values) ↔ ∀ item ∈ items, ∃ value, holds item value := by
  induction items with
  | nil => simp
  | cons item items ih =>
    rw [List.forall_mem_cons, ← ih]
    constructor
    · rintro ⟨values, matched⟩
      cases matched with
      | cons first rest => exact ⟨⟨_, first⟩, ⟨_, rest⟩⟩
    · rintro ⟨⟨value, first⟩, ⟨values, rest⟩⟩
      exact ⟨value :: values, .cons first rest⟩

/-- Every value given for a list belongs to one of its elements. -/
theorem exists_mem_of_forall₂ {holds : α → β → Prop} {items : List α} {values : List β}
    (matched : List.Forall₂ holds items values) {value : β} (present : value ∈ values) :
    ∃ item ∈ items, holds item value := by
  induction matched with
  | nil => contradiction
  | @cons item other items values first rest ih =>
    rcases List.mem_cons.1 present with rfl | later
    · exact ⟨item, List.mem_cons_self, first⟩
    · obtain ⟨found, listed, held⟩ := ih later
      exact ⟨found, List.mem_cons_of_mem _ listed, held⟩

/-- Relations that compose do so element by element. -/
theorem forall₂_comp {γ : Type} {first : α → β → Prop} {second : β → γ → Prop}
    {both : α → γ → Prop} (compose : ∀ a b c, first a b → second b c → both a c) {items : List α}
    {values : List β} {results : List γ} (left : List.Forall₂ first items values)
    (right : List.Forall₂ second values results) : List.Forall₂ both items results := by
  induction left generalizing results with
  | nil =>
    cases right
    exact .nil
  | cons here _ ih =>
    cases right with
    | cons there later => exact .cons (compose _ _ _ here there) (ih later)

/-- The last value belongs to the last element. -/
theorem rel_getLast? {holds : α → β → Prop} {items : List α} {values : List β}
    (matched : List.Forall₂ holds items values) :
    Option.Rel holds items.getLast? values.getLast? := by
  induction matched with
  | nil => exact .none
  | @cons item value items values first rest ih =>
    rw [List.getLast?_cons, List.getLast?_cons]
    generalize items.getLast? = lastItem, values.getLast? = lastValue at ih
    cases ih with
    | none => exact .some first
    | some last => exact .some last

/-- Values for two lists one after the other are values for each, one after the other. -/
theorem forall₂_append_left_iff {holds : α → β → Prop} {first second : List α}
    {values : List β} :
    List.Forall₂ holds (first ++ second) values ↔
      ∃ before, List.Forall₂ holds first before ∧
        ∃ after, List.Forall₂ holds second after ∧ before ++ after = values := by
  constructor
  · intro matched
    exact ⟨_, List.forall₂_take_append _ _ _ matched.flip |>.flip, _,
      List.forall₂_drop_append _ _ _ matched.flip |>.flip, List.take_append_drop _ _⟩
  · rintro ⟨before, left, after, right, rfl⟩
    exact List.rel_append left right

/-- A step over a list gives changed values when it does at every element. -/
theorem mapM_map (change : β → β) (step : α → Except ε β) (items : List α) :
    (items.mapM fun item => (step item).map change) = (items.mapM step).map (List.map change) := by
  induction items with
  | nil => rfl
  | cons item items ih =>
    rw [List.mapM_cons, List.mapM_cons, ih]
    cases step item with
    | error fault => rfl
    | ok value => cases items.mapM step <;> rfl

/-- Steps along a list that go through on its first elements go on with the others. -/
theorem foldlM_append_of_ok {step : β → α → Except ε β} {before : List α} {start state : β}
    (went : before.foldlM step start = .ok state) (after : List α) :
    (before ++ after).foldlM step start = after.foldlM step state := by
  rw [List.foldlM_append, went]
  rfl

/-- Steps along a list that fail on its first elements do not get to the others. -/
theorem foldlM_append_of_error {step : β → α → Except ε β} {before : List α} {start : β} {fault : ε}
    (failed : before.foldlM step start = .error fault) (after : List α) :
    (before ++ after).foldlM step start = .error fault := by
  rw [List.foldlM_append, failed]
  rfl

/-- Steps along a list fail when one of them does after the others before it. -/
theorem foldlM_eq_error_of_stopped {step : β → α → Except ε β} {before after : List α} {item : α}
    {start state : β} {fault : ε} (went : before.foldlM step start = .ok state)
    (stopped : step state item = .error fault) :
    (before ++ item :: after).foldlM step start = .error fault := by
  rw [foldlM_append_of_ok went, List.foldlM_cons, stopped]
  rfl

/-- Steps along a list that fail do so at one of the elements, after going through before it. -/
theorem exists_error_of_foldlM {step : β → α → Except ε β} {items : List α} {start : β} {fault : ε}
    (failed : items.foldlM step start = .error fault) :
    ∃ before item after state, items = before ++ item :: after ∧
      before.foldlM step start = .ok state ∧ step state item = .error fault := by
  induction items generalizing start with
  | nil => contradiction
  | cons item items ih =>
    rw [List.foldlM_cons] at failed
    rcases bind_eq_error_iff.1 failed with here | ⟨next, stepped, later⟩
    · exact ⟨[], item, items, start, rfl, rfl, here⟩
    · obtain ⟨before, other, after, state, rfl, went, stopped⟩ := ih later
      refine ⟨item :: before, other, after, state, rfl, ?_, stopped⟩
      rw [List.foldlM_cons, stepped]
      exact went

/-! ## Two runs -/

section Together

variable {α' β' ε' : Type}

/-- Two steps either both succeed, with values that are related, or both fail. -/
inductive Together (related : α → α' → Prop) : Except ε α → Except ε' α' → Prop where
  | ok {first : α} {second : α'} (held : related first second) :
    Together related (.ok first) (.ok second)
  | error (fault : ε) (other : ε') : Together related (.error fault) (.error other)

variable {related : α → α' → Prop} {relatedNext : β → β' → Prop}

/-- Sequences go together when their first steps do, and their rests do on related values. -/
theorem Together.bind {first : Except ε α} {second : Except ε' α'} {next : α → Except ε β}
    {other : α' → Except ε' β'} (here : Together related first second)
    (later : ∀ value found, related value found → Together relatedNext (next value) (other found)) :
    Together relatedNext (first >>= next) (second >>= other) := by
  cases here with
  | ok held => exact later _ _ held
  | error fault other => exact .error fault other

/-- Of two steps that go together, the second succeeds when the first does. -/
theorem Together.exists_ok {first : Except ε α} {second : Except ε' α'} {value : α}
    (together : Together related first second) (went : first = .ok value) :
    ∃ found, second = .ok found ∧ related value found := by
  cases together with
  | ok held =>
    obtain rfl := Except.ok.inj went
    exact ⟨_, rfl, held⟩
  | error => contradiction

/-- Of two steps that go together, the second fails when the first does. -/
theorem Together.exists_error {first : Except ε α} {second : Except ε' α'} {fault : ε}
    (together : Together related first second) (failed : first = .error fault) :
    ∃ other, second = .error other := by
  cases together with
  | ok => contradiction
  | error _ other => exact ⟨other, rfl⟩

variable {item : Type} {step : α → item → Except ε α} {other : α' → item → Except ε' α'}
  {items : List item}

/-- Steps along a list go together when the steps at each element do. -/
theorem Together.foldlM
    (kept : ∀ first second, related first second → ∀ item ∈ items,
      Together related (step first item) (other second item))
    {first : α} {second : α'} (begins : related first second) :
    Together related (items.foldlM step first) (items.foldlM other second) := by
  induction items generalizing first second with
  | nil => exact .ok begins
  | cons item items ih =>
    rw [List.foldlM_cons, List.foldlM_cons]
    have here := kept first second begins item List.mem_cons_self
    refine here.bind fun next found held => ?_
    exact ih (fun first second held other listed =>
      kept first second held other (List.mem_cons_of_mem _ listed)) held

/-- Steps along a list that go together at each element go through with related values, or fail at
the same element, after going through before it with related values. -/
theorem foldlM_together
    (kept : ∀ first second, related first second → ∀ item ∈ items,
      Together related (step first item) (other second item))
    {first : α} {second : α'} (begins : related first second) :
    (∃ final last, items.foldlM step first = .ok final ∧ items.foldlM other second = .ok last ∧
        related final last) ∨
      ∃ before item after, items = before ++ item :: after ∧ ∃ state found,
        before.foldlM step first = .ok state ∧ before.foldlM other second = .ok found ∧
        related state found ∧ (∃ fault, step state item = .error fault) ∧
        ∃ fault, other found item = .error fault := by
  cases ran : items.foldlM step first with
  | ok final =>
    obtain ⟨found, went, held⟩ := (Together.foldlM kept begins).exists_ok ran
    exact .inl ⟨final, found, rfl, went, held⟩
  | error fault =>
    obtain ⟨before, item, after, state, rfl, went, stopped⟩ := exists_error_of_foldlM ran
    have earlier : Together related (before.foldlM step first) (before.foldlM other second) :=
      Together.foldlM (fun first second held other listed =>
        kept first second held other (List.mem_append_left _ listed)) begins
    obtain ⟨found, alongside, held⟩ := earlier.exists_ok went
    have here := kept state found held item (List.mem_append_right _ List.mem_cons_self)
    exact .inr ⟨before, item, after, rfl, state, found, went, alongside, held, ⟨fault, stopped⟩,
      here.exists_error stopped⟩

end Together

section Alongside

variable {related : α → α → Prop} {relatedNext : β → β → Prop}

/-- Two runs either both succeed, with values that are related, or both fail with one fault. -/
inductive Alongside (related : α → α → Prop) : Except ε α → Except ε α → Prop where
  | ok {first second : α} (held : related first second) :
    Alongside related (.ok first) (.ok second)
  | error (fault : ε) : Alongside related (.error fault) (.error fault)

/-- A run goes alongside itself when values are related to themselves. -/
theorem Alongside.refl (same : ∀ value, related value value) (run : Except ε α) :
    Alongside related run run := by
  cases run with
  | ok value => exact .ok (same value)
  | error fault => exact .error fault

/-- Sequences go alongside when their first steps do, and their rests do on related values. -/
theorem Alongside.bind {first second : Except ε α} {next other : α → Except ε β}
    (here : Alongside related first second)
    (later : ∀ value found, related value found →
      Alongside relatedNext (next value) (other found)) :
    Alongside relatedNext (first >>= next) (second >>= other) := by
  cases here with
  | ok held => exact later _ _ held
  | error fault => exact .error fault

/-- Changing the values of runs relates what they are changed to. -/
theorem Alongside.map {first second : Except ε α} {change : α → β}
    (together : Alongside related first second)
    (changed : ∀ value found, related value found → relatedNext (change value) (change found)) :
    Alongside relatedNext (first.map change) (second.map change) := by
  cases together with
  | ok held => exact .ok (changed _ _ held)
  | error fault => exact .error fault

/-- Placing failures elsewhere places the one fault. -/
theorem Alongside.mapError {first second : Except ε α} (place : ε → δ)
    (together : Alongside related first second) :
    Alongside related (first.mapError place) (second.mapError place) := by
  cases together with
  | ok held => exact .ok held
  | error fault => exact .error (place fault)

/-- Of two runs alongside, the second succeeds when the first does. -/
theorem Alongside.exists_ok {first second : Except ε α} {value : α}
    (together : Alongside related first second) (went : first = .ok value) :
    ∃ found, second = .ok found ∧ related value found := by
  cases together with
  | ok held =>
    obtain rfl := Except.ok.inj went
    exact ⟨_, rfl, held⟩
  | error => contradiction

/-- Of two runs alongside, both fail with a fault or none does. -/
theorem Alongside.eq_error_iff {first second : Except ε α} {fault : ε}
    (together : Alongside related first second) : first = .error fault ↔ second = .error fault := by
  cases together with
  | ok held => exact iff_of_false nofun nofun
  | error other => rfl

end Alongside

/-! ## The first fault -/

/-- A step fails with the fault that is found, and with no other; without one it succeeds. -/
def Reports (step : Except ε α) (fault : Option ε) : Prop :=
  ∀ found, step = .error found ↔ fault = some found

/-- A step succeeds when no fault is found. -/
theorem Reports.exists_ok_iff {step : Except ε α} {fault : Option ε}
    (reports : Reports step fault) : (∃ value, step = .ok value) ↔ fault = none := by
  cases step with
  | error found =>
    rw [(reports found).1 rfl]
    simp only [reduceCtorEq, exists_false]
  | ok value =>
    have none : fault = none := by
      cases fault with
      | none => rfl
      | some found => exact nomatch (reports found).2 rfl
    exact ⟨fun _ => none, fun _ => ⟨value, rfl⟩⟩

/-- A step that succeeds has no fault to report. -/
theorem Reports.ok {value : α} : Reports (.ok value : Except ε α) none := by
  intro found
  simp only [reduceCtorEq]

/-- A step that fails reports its fault. -/
theorem Reports.error {found : ε} : Reports (.error found : Except ε α) (some found) := by
  intro other
  rw [Except.error.injEq, Option.some.injEq]

/-- Placing a failure elsewhere places the fault. -/
theorem Reports.mapError {step : Except ε α} {fault : Option ε} (place : ε → δ)
    (reports : Reports step fault) : Reports (step.mapError place) (fault.map place) := by
  cases step with
  | error found =>
    rw [(reports found).1 rfl]
    exact .error
  | ok value =>
    rw [reports.exists_ok_iff.1 ⟨value, rfl⟩]
    exact .ok

/-- A sequence reports the fault of its first step, or else that of the rest. -/
theorem Reports.bind {step : Except ε α} {next : α → Except ε β} {first second : Option ε}
    (here : Reports step first) (later : ∀ value, step = .ok value → Reports (next value) second) :
    Reports (step >>= next) (first.or second) := by
  cases step with
  | error found =>
    rw [(here found).1 rfl]
    exact .error
  | ok value =>
    rw [here.exists_ok_iff.1 ⟨value, rfl⟩]
    exact later value rfl

/-- The first fault of a list of checks is that of the first check, or else that of the others. -/
theorem findSome?_id_cons (first : Option ε) (later : List (Option ε)) :
    (first :: later).findSome? id = first.or (later.findSome? id) := by
  cases first <;> rfl

end ViewLayout.Outcome
