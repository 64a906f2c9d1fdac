import ViewLayout.Proofs.Host.Forest

/-!
# The order of the view tree

`TreeOrder` lists views and all that is below them by recursion over the tree: each view comes
before the views in it, and all that is below a view comes before its next sibling. Nothing bounds
the recursion. In a forest it ends, because there are no more steps to a root than there are views,
and it lists what lies at or below the views it starts with, nothing twice.
-/

namespace ViewLayout.Host

/-- Views and all that is below them, in tree order. -/
inductive TreeOrder (host : Host) : List ViewId → List ViewId → Prop
  /-- There is nothing to list. -/
  | nil : TreeOrder host [] []
  /-- A view comes first, then all that is below it, then the views after it. -/
  | cons {view : ViewId} {rest below after : List ViewId} :
      TreeOrder host (host.children view) below → TreeOrder host rest after →
      TreeOrder host (view :: rest) (view :: (below ++ after))

namespace TreeOrder

variable {host : Host}

/-- Views are listed in one way. -/
theorem unique {views one other : List ViewId} (first : host.TreeOrder views one)
    (second : host.TreeOrder views other) : other = one := by
  induction first generalizing other with
  | nil =>
    cases second
    rfl
  | cons _ _ ihBelow ihAfter =>
    cases second with
    | cons below after => rw [ihBelow below, ihAfter after]

/-- The order depends on the children of views alone. -/
theorem congr {after : Host} (same : ∀ view, after.children view = host.children view)
    {views order : List ViewId} (listed : host.TreeOrder views order) :
    after.TreeOrder views order := by
  induction listed with
  | nil => exact .nil
  | cons _ _ ihBelow ihAfter => exact cons (same _ ▸ ihBelow) ihAfter

/-- The order of two lists of views, one after the other. -/
theorem append {first second before after : List ViewId} (one : host.TreeOrder first before)
    (other : host.TreeOrder second after) : host.TreeOrder (first ++ second) (before ++ after) := by
  induction one with
  | nil => exact other
  | cons below _ _ ih =>
    rw [List.cons_append, List.cons_append, List.append_assoc]
    exact cons below ih

end TreeOrder

/-! ## What lies below a view -/

/-- Lying below is passed on from view to view. -/
theorem AtOrAbove.trans {host : Host} {upper middle lower : ViewId}
    (one : host.AtOrAbove upper middle) (other : host.AtOrAbove middle lower) :
    host.AtOrAbove upper lower := by
  obtain ⟨far, reached⟩ := one
  obtain ⟨near, climbed⟩ := other
  refine ⟨near + far, ?_⟩
  rw [ancestor?_add, climbed, Option.bind_some, reached]

/-- A parent lies above its children. -/
theorem AtOrAbove.of_parent? {host : Host} {parent child : ViewId}
    (above : host.parent? child = some parent) : host.AtOrAbove parent child :=
  ⟨1, by rw [ancestor?, above, Option.bind_some, ancestor?]⟩

/-- Of two views above a third one lies at or above the other. -/
theorem AtOrAbove.total {host : Host} {one other lower : ViewId}
    (first : host.AtOrAbove one lower) (second : host.AtOrAbove other lower) :
    host.AtOrAbove one other ∨ host.AtOrAbove other one := by
  obtain ⟨few, reached⟩ := first
  obtain ⟨many, climbed⟩ := second
  wlog fewer : few ≤ many generalizing one other few many
  · exact (this many climbed few reached (by omega)).symm
  obtain ⟨extra, rfl⟩ := Nat.exists_eq_add_of_le fewer
  rw [ancestor?_add, reached, Option.bind_some] at climbed
  exact .inr ⟨extra, climbed⟩

namespace IsForest

variable {host : Host} (forest : host.IsForest)

include forest

/-- What is below a view is the view itself or is below one of its children. -/
theorem atOrAbove_iff_children {upper lower : ViewId} :
    host.AtOrAbove upper lower ↔
      lower = upper ∨ ∃ child ∈ host.children upper, host.AtOrAbove child lower := by
  constructor
  · rintro ⟨steps, reached⟩
    cases steps with
    | zero => exact .inl (Option.some.inj reached)
    | succ steps =>
      rw [ancestor?_add] at reached
      obtain ⟨child, climbed, last⟩ := Option.bind_eq_some_iff.1 reached
      have parent : host.parent? child = some upper := by
        simpa [ancestor?] using last
      exact .inr ⟨child, (forest.agree upper child).2 parent, steps, climbed⟩
  · rintro (rfl | ⟨child, listed, below⟩)
    · exact ⟨0, rfl⟩
    · exact (AtOrAbove.of_parent? ((forest.agree upper child).1 listed)).trans below

/-- A view does not lie below the views in it. -/
theorem not_atOrAbove_parent {parent child : ViewId}
    (above : host.parent? child = some parent) : ¬host.AtOrAbove child parent := by
  rintro ⟨steps, reached⟩
  have around : host.ancestor? (steps + 1) child = some child := by
    rw [ancestor?, above, Option.bind_some, reached]
  exact forest.ancestor?_ne_self (Nat.succ_pos steps) child around

/-- Nothing is below two children of one view. -/
theorem siblings_apart {parent one other : ViewId} (first : host.parent? one = some parent)
    (second : host.parent? other = some parent) (apart : one ≠ other) (view : ViewId) :
    ¬(host.AtOrAbove one view ∧ host.AtOrAbove other view) := by
  have strictly {upper lower : ViewId} (ofUpper : host.parent? upper = some parent)
      (ofLower : host.parent? lower = some parent) (differ : upper ≠ lower) :
      ¬host.AtOrAbove upper lower := by
    intro above
    obtain rfl | ⟨between, up, reached⟩ := atOrAbove_iff.1 above
    · exact differ rfl
    · obtain rfl := Option.some.inj (up.symm.trans ofLower)
      exact forest.not_atOrAbove_parent ofUpper reached
  rintro ⟨left, right⟩
  obtain above | above := left.total right
  · exact strictly first second apart above
  · exact strictly second first apart.symm above

/-- What lies below a view that the host created was created by the host. -/
theorem knows_of_atOrAbove {upper lower : ViewId} (known : host.knows (.view upper) = true)
    (above : host.AtOrAbove upper lower) : host.knows (.view lower) = true := by
  obtain rfl | ⟨parent, up, -⟩ := atOrAbove_iff.1 above
  · exact known
  · exact forest.children parent lower ((forest.agree parent lower).2 up)

end IsForest

/-! ## The order of a forest -/

namespace TreeOrder

variable {host : Host} {views order : List ViewId} (listed : host.TreeOrder views order)

include listed

/-- What is listed lies at or below the views that the order starts with. -/
theorem mem_iff (forest : host.IsForest) (view : ViewId) :
    view ∈ order ↔ ∃ upper ∈ views, host.AtOrAbove upper view := by
  induction listed with
  | nil => simp
  | cons _ _ ihBelow ihAfter =>
    rw [List.exists_mem_cons_iff, forest.atOrAbove_iff_children, List.mem_cons, List.mem_append,
      ihBelow, ihAfter, or_assoc]

/-- Nothing is listed twice when nothing is below two of the views that the order starts with. -/
theorem nodup (forest : host.IsForest)
    (apart : views.Pairwise fun one other =>
      ∀ view, ¬(host.AtOrAbove one view ∧ host.AtOrAbove other view)) : order.Nodup := by
  induction listed with
  | nil => exact .nil
  | @cons view rest below after inside behind ihBelow ihAfter =>
    obtain ⟨first, later⟩ := List.pairwise_cons.1 apart
    have children : (host.children view).Pairwise fun one other =>
        ∀ view, ¬(host.AtOrAbove one view ∧ host.AtOrAbove other view) := by
      refine (forest.nodup view).imp_of_mem fun {one other} isChild isSibling differ => ?_
      exact forest.siblings_apart ((forest.agree view one).1 isChild)
        ((forest.agree view other).1 isSibling) differ
    have belowView (lower : ViewId) (present : lower ∈ below) :
        host.AtOrAbove view lower ∧ lower ≠ view := by
      obtain ⟨child, isChild, reached⟩ := (inside.mem_iff forest lower).1 present
      refine ⟨forest.atOrAbove_iff_children.2 (.inr ⟨child, isChild, reached⟩), ?_⟩
      rintro rfl
      exact forest.not_atOrAbove_parent ((forest.agree lower child).1 isChild) reached
    have elsewhere (lower : ViewId) (present : lower ∈ after) : ¬host.AtOrAbove view lower := by
      obtain ⟨upper, inRest, reached⟩ := (behind.mem_iff forest lower).1 present
      exact fun above => first upper inRest lower ⟨above, reached⟩
    rw [List.nodup_cons, List.mem_append, List.nodup_append]
    refine ⟨?_, ihBelow children, ihAfter later, ?_⟩
    · rintro (again | again)
      · exact (belowView view again).2 rfl
      · exact elsewhere view again (atOrAbove_iff.2 (.inl rfl))
    · rintro lower inBelow _ inAfter rfl
      exact elsewhere lower inAfter (belowView lower inBelow).1

end TreeOrder

/-- In a forest the recursion ends. -/
theorem IsForest.exists_treeOrder {host : Host} (forest : host.IsForest) (views : List ViewId) :
    ∃ order, host.TreeOrder views order := by
  -- The induction is on how far below its root a view can still be.
  have deep (depth left : Nat) (bound : depth + left = host.views.length + 1)
      (views : List ViewId) (low : ∀ view ∈ views, host.ancestor? depth view ≠ none) :
      ∃ order, host.TreeOrder views order := by
    induction left generalizing depth views with
    | zero =>
      cases views with
      | nil => exact ⟨[], .nil⟩
      | cons view rest =>
        have reached := low view List.mem_cons_self
        rw [show depth = host.views.length + 1 by omega] at reached
        exact absurd (forest.ancestor?_eq_none view) reached
    | succ left ih =>
      induction views with
      | nil => exact ⟨[], .nil⟩
      | cons view rest ihRest =>
        obtain ⟨after, behind⟩ := ihRest fun other inRest =>
          low other (List.mem_cons_of_mem _ inRest)
        obtain ⟨below, inside⟩ := ih (depth + 1) (by omega) (host.children view) (by
          intro child isChild
          rw [ancestor?, (forest.agree view child).1 isChild, Option.bind_some]
          exact low view List.mem_cons_self)
        exact ⟨_, .cons inside behind⟩
  refine deep 0 _ (Nat.zero_add _) views fun view _ => ?_
  rw [ancestor?]
  exact Option.some_ne_none view

/-- The order of a view and all that is below it. -/
theorem IsForest.exists_treeOrder_singleton {host : Host} (forest : host.IsForest)
    (root : ViewId) :
    ∃ order, host.TreeOrder [root] order ∧ order.Nodup ∧
      ∀ view, view ∈ order ↔ host.AtOrAbove root view := by
  obtain ⟨order, listed⟩ := forest.exists_treeOrder [root]
  refine ⟨order, listed, listed.nodup forest (List.pairwise_singleton _ _), fun view => ?_⟩
  rw [listed.mem_iff forest]
  simp only [List.mem_singleton, exists_eq_left]

end ViewLayout.Host
