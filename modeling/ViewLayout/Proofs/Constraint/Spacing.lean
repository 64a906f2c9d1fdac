import ViewLayout.Constraint
import ViewLayout.Proofs.Chain.Unplaced
import ViewLayout.Proofs.Equation.Unplaced

/-!
# Spaces in constraint text

Spaces between tokens carry no meaning: texts with the same tokens are compiled to the same
descriptors, or neither is compiled. There are two exceptions. A dot has to touch its key and its
attribute, and the tag of an equation has to be the first character of the text, because the format
is chosen before the text is divided into tokens.
-/

namespace ViewLayout

open ViewLayout.Text ViewLayout.Grammar ViewLayout.Outcome

/-- A text that is compiled as an equation begins with its tag. -/
theorem Equation.head?_of_compile {raw : String} {registry : Registry} {metrics : Metrics}
    {tokens : Tokens} {d : Descriptor} (scanned : Token.scan raw = .ok tokens)
    (compiled : compile raw registry metrics = .ok d) :
    tokens.head?.map (·.value) = some (.mark .equationTag) := by
  unfold compile at compiled
  split at compiled
  · contradiction
  · rename_i e parsed
    obtain ⟨⟨word, found, spelled⟩, -⟩ := parse_eq_ok_iff.1 parsed
    obtain rfl := Except.ok.inj (scanned.symm.trans found)
    cases spelled with
    | parts => rfl

/-- A text that is compiled as a chain begins with the tag of an axis, an edge or a view. -/
theorem Chain.head?_of_compile {raw : String} {spacing : Spacing} {registry : Registry}
    {metrics : Metrics} {tokens : Tokens} {descriptors : List Descriptor}
    (scanned : Token.scan raw = .ok tokens)
    (compiled : compile raw spacing registry metrics = .ok descriptors) :
    ∃ mark ∈ [Mark.horizontalTag, .verticalTag, .pipe, .bracketOpen],
      tokens.head?.map (·.value) = some (.mark mark) := by
  unfold compile at compiled
  split at compiled
  · contradiction
  · rename_i chain parsed
    obtain ⟨word, found, spelled⟩ := parse_eq_ok_iff.1 parsed
    obtain rfl := Except.ok.inj (scanned.symm.trans found)
    cases spelled with
    | parts tagged led linked followed trailed =>
      cases tagged with
      | horizontal tag => exact ⟨.horizontalTag, by decide, rfl⟩
      | vertical tag => exact ⟨.verticalTag, by decide, rfl⟩
      | absent =>
        obtain ⟨mark, span, inside, boundary, opened⟩ := led.opens linked
        rw [List.nil_append, opened]
        rcases boundary with rfl | rfl
        · exact ⟨.bracketOpen, by decide, rfl⟩
        · exact ⟨.pipe, by decide, rfl⟩

namespace Constraint

variable {first second : String} {tokens others : Tokens} {spacing : Spacing}
  {registry : Registry} {metrics : Metrics} {priority : Option Priority}

/-- Texts with tokens that are alike, and read as the same format, have the same descriptors. -/
theorem descriptors_of_alike {found : List Descriptor}
    (kind : isEquation first = isEquation second) (scanned : Token.scan first = .ok tokens)
    (moved : Token.scan second = .ok others) (alike : Alike tokens others)
    (touch : DotsTouch others)
    (compiled : descriptors first spacing registry metrics = .ok found) :
    descriptors second spacing registry metrics = .ok found := by
  unfold descriptors at compiled ⊢
  rw [← kind]
  by_cases equation : isEquation first = true
  · rw [if_pos equation] at compiled ⊢
    obtain ⟨d, written, rfl⟩ := map_eq_ok_iff.1 compiled
    exact map_eq_ok_iff.2 ⟨d, Equation.compile_of_alike scanned moved alike touch written, rfl⟩
  · rw [if_neg equation] at compiled ⊢
    exact mapError_eq_ok_iff.2
      (Chain.compile_of_alike scanned moved alike (mapError_eq_ok_iff.1 compiled))

/-- A text that does not begin with an `X` has no descriptors when its first token is the tag of an
equation. -/
theorem descriptors_ne_ok_of_tag {found : List Descriptor} (kind : isEquation first = false)
    (scanned : Token.scan first = .ok tokens)
    (tagged : tokens.head?.map (·.value) = some (.mark .equationTag)) :
    descriptors first spacing registry metrics ≠ .ok found := by
  intro compiled
  rw [descriptors, if_neg (Bool.eq_false_iff.1 kind)] at compiled
  obtain ⟨mark, listed, begins⟩ :=
    Chain.head?_of_compile scanned (mapError_eq_ok_iff.1 compiled)
  obtain rfl := Token.mark.inj (Option.some.inj (tagged.symm.trans begins))
  contradiction

/-- Of two texts with tokens that are alike and no tag of an equation in front, of which only one
begins with an `X`, neither has descriptors. -/
theorem descriptors_ne_ok_of_kind (found : List Descriptor) (kind : isEquation first = true)
    (other : isEquation second = false) (scanned : Token.scan first = .ok tokens)
    (moved : Token.scan second = .ok others) (alike : Alike tokens others)
    (untagged : tokens.head?.map (·.value) ≠ some (.mark .equationTag)) :
    descriptors first spacing registry metrics ≠ .ok found ∧
      descriptors second spacing registry metrics ≠ .ok found := by
  constructor
  · intro compiled
    rw [descriptors, if_pos kind] at compiled
    obtain ⟨d, written, -⟩ := map_eq_ok_iff.1 compiled
    exact untagged (Equation.head?_of_compile scanned written)
  · intro compiled
    rw [descriptors, if_neg (Bool.eq_false_iff.1 other)] at compiled
    obtain ⟨mark, listed, begins⟩ :=
      Chain.head?_of_compile moved (mapError_eq_ok_iff.1 compiled)
    have values := alike_iff.1 alike
    cases tokens with
    | nil =>
      obtain rfl := alike.of_nil
      contradiction
    | cons token rest =>
      have letter : first.toList.head? = some 'X' := of_decide_eq_true kind
      have spelled := Token.head?_of_scan scanned letter (by decide)
      rw [← List.head?_map, ← values, List.head?_map, List.head?_cons, Option.map_some] at begins
      rw [Option.some.inj begins] at spelled
      -- None of the four marks is written with an `X`.
      simp only [List.mem_cons, List.not_mem_nil, or_false] at listed
      rcases listed with rfl | rfl | rfl | rfl
      · exact absurd spelled (by decide)
      · exact absurd spelled (by decide)
      · exact absurd spelled (by decide)
      · exact absurd spelled (by decide)

/-- Two texts with the same tokens, in which no space is written next to a dot, are compiled to the
same descriptors or not at all, whatever other spaces are written in them, unless they are equations
of which only one begins with its tag. An equation with spaces before its tag is not compiled. -/
theorem compile_ignores_spaces (scanned : Token.scan first = .ok tokens)
    (moved : Token.scan second = .ok others)
    (same : tokens.map (·.value) = others.map (·.value))
    (unspaced : DotsUnspaced first.toList) (otherUnspaced : DotsUnspaced second.toList) :
    ((tokens.head?.map (·.value) = some (.mark .equationTag) →
        isEquation first = isEquation second) →
      (compile first spacing registry metrics priority).toOption =
        (compile second spacing registry metrics priority).toOption) ∧
    (tokens.head?.map (·.value) = some (.mark .equationTag) → isEquation first = false →
      (compile first spacing registry metrics priority).toOption = none) := by
  have alike := alike_iff.2 same
  have touch := Token.dotsTouch_of_scan scanned unspaced
  have otherTouch := Token.dotsTouch_of_scan moved otherUnspaced
  constructor
  · intro placed
    have descriptorsSame (found : List Descriptor) :
        descriptors first spacing registry metrics = .ok found ↔
          descriptors second spacing registry metrics = .ok found := by
      by_cases kind : isEquation first = isEquation second
      · exact ⟨descriptors_of_alike kind scanned moved alike otherTouch,
          descriptors_of_alike kind.symm moved scanned alike.symm touch⟩
      · have untagged := fun tagged => kind (placed tagged)
        cases here : isEquation first with
        | true =>
          have there : isEquation second = false := by simpa [here] using kind
          obtain ⟨left, right⟩ :=
            descriptors_ne_ok_of_kind found here there scanned moved alike untagged
          exact iff_of_false left right
        | false =>
          have there : isEquation second = true := by simpa [here] using kind
          rw [← List.head?_map, same, List.head?_map] at untagged
          obtain ⟨left, right⟩ :=
            descriptors_ne_ok_of_kind found there here moved scanned alike.symm untagged
          exact iff_of_false right left
    apply toOption_eq_of_ok_iff
    intro found
    rw [compile, compile, map_eq_ok_iff, map_eq_ok_iff]
    simp only [descriptorsSame]
  · intro tagged kind
    have failed : ∀ found, compile first spacing registry metrics priority ≠ .ok found := by
      intro found compiled
      obtain ⟨written, lowered, -⟩ := map_eq_ok_iff.1 compiled
      exact descriptors_ne_ok_of_tag kind scanned tagged lowered
    cases outcome : compile first spacing registry metrics priority with
    | ok found => exact absurd outcome (failed found)
    | error fault => rfl

/-- An equation is compiled to the same descriptor with and without spaces between its tokens, but
not with a space before its tag. -/
theorem compile_ignores_spaces_of_equation :
    let registry : Registry := ⟨"parent", none, .ofList [("a", .view ⟨1⟩), ("b", .view ⟨2⟩)]⟩
    let descriptor : Descriptor :=
      { first := ⟨"a", .left⟩, relation := .lessOrEqual, second := some ⟨"b", .left⟩ }
    (compile "X:a.left<=b.left" ⟨8, 20⟩ registry .empty none).toOption = some [descriptor] ∧
      (compile "X: a.left  <= b.left " ⟨8, 20⟩ registry .empty none).toOption =
        some [descriptor] ∧
      (compile " X: a.left <= b.left" ⟨8, 20⟩ registry .empty none).toOption = none := by
  intro registry descriptor
  have scans (raw : String) (divided : (Token.scan raw).toOption.isSome) :
      ∃ tokens, Token.scan raw = .ok tokens ∧
        tokens.map (·.value) = ((Token.scan raw).toOption.getD []).map (·.value) := by
    obtain ⟨tokens, found⟩ := Option.isSome_iff_exists.1 divided
    exact ⟨tokens, eq_ok_of_toOption found, by rw [found]; rfl⟩
  obtain ⟨tokens, scanned, values⟩ := scans "X:a.left<=b.left" (by decide +kernel)
  obtain ⟨others, moved, otherValues⟩ := scans "X: a.left  <= b.left " (by decide +kernel)
  obtain ⟨behind, behindScanned, behindValues⟩ := scans " X: a.left <= b.left" (by decide +kernel)
  have same : tokens.map (·.value) = others.map (·.value) := by
    rw [values, otherValues]
    decide +kernel
  have tagged : behind.head?.map (·.value) = some (.mark .equationTag) := by
    rw [← List.head?_map, behindValues]
    decide +kernel
  have compiled : (compile "X:a.left<=b.left" ⟨8, 20⟩ registry .empty none).toOption =
      some [descriptor] := by decide +kernel
  refine ⟨compiled, ?_, ?_⟩
  · rw [← compiled]
    exact ((compile_ignores_spaces scanned moved same (by decide) (by decide)).1
      fun _ => by decide).symm
  · exact (compile_ignores_spaces behindScanned behindScanned rfl (by decide) (by decide)).2 tagged
      (by decide)

/-- With a space before its tag, an equation is refused that is compiled without it. -/
theorem compile_minds_space_before_tag :
    let registry : Registry := ⟨"parent", none, .ofList [("a", .view ⟨1⟩), ("b", .view ⟨2⟩)]⟩
    let first := "X: a.left == b.left"
    let second := " X: a.left == b.left"
    (∃ tokens ∈ (Token.scan first).toOption, ∃ others ∈ (Token.scan second).toOption,
        tokens.map (·.value) = others.map (·.value)) ∧
      DotsUnspaced first.toList ∧ DotsUnspaced second.toList ∧
      (compile first ⟨8, 20⟩ registry .empty none).toOption =
        some [{ first := ⟨"a", .left⟩, relation := .equal, second := some ⟨"b", .left⟩ }] ∧
      (compile second ⟨8, 20⟩ registry .empty none).toOption = none := by
  intro registry first second
  refine ⟨by decide +kernel, by decide, by decide, by decide +kernel, by decide +kernel⟩

end Constraint

end ViewLayout
