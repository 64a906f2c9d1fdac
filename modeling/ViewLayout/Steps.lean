/-!
# Steps in place

Hosts and builders are changed in place, one step after another. A step that fails ends the
operation, and what the steps before it changed stays changed: an operation that leaves a state as
it was when it fails does so because nothing fails after its first change.

Two things are said of steps by what they are made of: what they keep, and which changes of a state
they pass by because they do not look at what is changed.
-/

namespace ViewLayout

/-- Steps on a state that they change in place, up to the first fault. -/
abbrev Steps (State Fault Value : Type) : Type := EStateM Fault State Value

namespace Steps

variable {State Whole Fault Other Value Next : Type}

/-- Reads something off the state, which may fail. -/
def reading (question : State → Except Fault Value) : Steps State Fault Value := fun state =>
  match question state with
  | .ok value => .ok value state
  | .error fault => .error fault state

/-- Takes steps on a part of a state. The part is put back as the steps leave it, whether or not
they fail. -/
def onPart (part : Whole → State) (replace : Whole → State → Whole) (blame : Fault → Other)
    (steps : Steps State Fault Value) : Steps Whole Other Value := fun whole =>
  match steps (part whole) with
  | .ok value state => .ok value (replace whole state)
  | .error fault state => .error (blame fault) (replace whole state)

/-- After a step that goes through, the rest is taken on the state it leaves. -/
theorem bind_of_ok {step : Steps State Fault Value} {next : Value → Steps State Fault Next}
    {state after : State} {value : Value} (went : step state = .ok value after) :
    (step >>= next) state = next value after := by
  simp only [bind, EStateM.bind, went]

/-- After a step that fails, nothing else is done. -/
theorem bind_of_error {step : Steps State Fault Value} {next : Value → Steps State Fault Next}
    {state after : State} {fault : Fault} (failed : step state = .error fault after) :
    (step >>= next) state = .error fault after := by
  simp only [bind, EStateM.bind, failed]

/-- Reading changes nothing. -/
theorem reading_of_ok {question : State → Except Fault Value} {state : State} {value : Value}
    (answered : question state = .ok value) : reading question state = .ok value state := by
  simp only [reading, answered]

/-- Reading changes nothing when it fails. -/
theorem reading_of_error {question : State → Except Fault Value} {state : State} {fault : Fault}
    (failed : question state = .error fault) : reading question state = .error fault state := by
  simp only [reading, failed]

/-- The outcome of steps for a caller that gives the state up at a fault. -/
def outcome (steps : Steps State Fault Value) (state : State) : Except Fault (Value × State) :=
  match steps state with
  | .ok value state => .ok (value, state)
  | .error fault _ => .error fault

/-- The state that steps leave behind, whether or not they fail. -/
def left (steps : Steps State Fault Value) (state : State) : State :=
  match steps state with
  | .ok _ state => state
  | .error _ state => state

/-- Steps that go through leave the state they end in. -/
theorem left_of_ok {steps : Steps State Fault Value} {state after : State} {value : Value}
    (went : steps state = .ok value after) : steps.left state = after := by
  simp only [left, went]

/-- Steps that fail leave the state they failed in. -/
theorem left_of_error {steps : Steps State Fault Value} {state after : State} {fault : Fault}
    (failed : steps state = .error fault after) : steps.left state = after := by
  simp only [left, failed]

/-- A caller that gives the state up at a fault otherwise gets the state that the steps leave. -/
theorem eq_left_of_outcome {steps : Steps State Fault Value} {state after : State} {value : Value}
    (went : steps.outcome state = .ok (value, after)) : after = steps.left state := by
  unfold outcome left at *
  cases ran : steps state with
  | ok found final =>
    rw [ran] at went
    exact (congrArg Prod.snd (Except.ok.inj went)).symm
  | error fault final =>
    rw [ran] at went
    contradiction

/-! ### What steps keep -/

/-- Steps keep what is read off a state: the state they leave reads the same, whether or not they
fail. -/
def Keeps {Reading : Type} (steps : Steps State Fault Value) (read : State → Reading) : Prop :=
  ∀ state, read (steps.left state) = read state

section Keeping

variable {Reading : Type} {read : State → Reading}

/-- Looking keeps everything. -/
theorem reading_keeps (question : State → Except Fault Value) :
    (reading question).Keeps read := by
  intro state
  unfold left reading
  cases question state <;> rfl

/-- Doing nothing keeps everything. -/
theorem pure_keeps (value : Value) : (pure value : Steps State Fault Value).Keeps read := by
  intro state
  rfl

/-- Changing the state keeps what the change keeps. -/
theorem modify_keeps {change : State → State} (kept : ∀ state, read (change state) = read state) :
    (modify change : Steps State Fault PUnit).Keeps read :=
  kept

/-- Steps one after another keep what each of them keeps. -/
theorem Keeps.bind {step : Steps State Fault Value} {next : Value → Steps State Fault Next}
    (first : step.Keeps read) (later : ∀ value, (next value).Keeps read) :
    Keeps (step >>= next) read := by
  intro state
  cases ran : step state with
  | ok value middle =>
    have here : read middle = read state := by
      rw [← first state, left_of_ok ran]
    have same : Steps.left (step >>= next) state = (next value).left middle := by
      simp only [left, bind_of_ok ran]
    rw [same, later value middle, here]
  | error fault middle =>
    rw [left_of_error (bind_of_error ran), ← first state, left_of_error ran]

end Keeping

/-! ### What steps pass by -/

/-- Steps pass a change by when it can as well be made to the state they leave, whether or not they
fail. -/
def PassesBy (steps : Steps State Fault Value) (change : State → State) : Prop :=
  ∀ state, steps (change state) =
    match steps state with
    | .ok value after => .ok value (change after)
    | .error fault after => .error fault (change after)

section Passing

variable {change : State → State}

/-- Looking passes by what it does not see. -/
theorem reading_passesBy {question : State → Except Fault Value}
    (unseen : ∀ state, question (change state) = question state) :
    (reading question).PassesBy change := by
  intro state
  unfold reading
  rw [unseen]
  cases question state <;> rfl

/-- Doing nothing passes everything by. -/
theorem pure_passesBy (value : Value) :
    (pure value : Steps State Fault Value).PassesBy change := by
  intro state
  rfl

/-- Changing the state passes by a change that can be made in either order with it. -/
theorem modify_passesBy {other : State → State}
    (either : ∀ state, other (change state) = change (other state)) :
    (modify other : Steps State Fault PUnit).PassesBy change := by
  intro state
  exact congrArg (EStateM.Result.ok PUnit.unit) (either state)

/-- Steps one after another pass by what each of them does. -/
theorem PassesBy.bind {step : Steps State Fault Value} {next : Value → Steps State Fault Next}
    (first : step.PassesBy change) (later : ∀ value, (next value).PassesBy change) :
    PassesBy (step >>= next) change := by
  intro state
  have moved := first state
  cases ran : step state with
  | ok value middle =>
    rw [ran] at moved
    rw [bind_of_ok moved, bind_of_ok ran]
    exact later value middle
  | error fault middle =>
    rw [ran] at moved
    rw [bind_of_error moved, bind_of_error ran]

/-- The outcome of steps that pass a change by is the same up to the change. -/
theorem PassesBy.outcome {steps : Steps State Fault Value} (passes : steps.PassesBy change)
    (state : State) :
    steps.outcome (change state) =
      (steps.outcome state).map fun result => (result.1, change result.2) := by
  unfold Steps.outcome
  rw [passes state]
  cases steps state <;> rfl

end Passing

end Steps

end ViewLayout
