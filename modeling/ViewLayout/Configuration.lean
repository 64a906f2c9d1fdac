import ViewLayout.Chain.Compile

/-!
# Configuration

The keys and standard gaps that a layout is written with.
-/

namespace ViewLayout

open ViewLayout.Number

/-- The options of a layout. -/
structure Configuration where
  /-- The key that stands for the container in constraint text. -/
  parentKey : String := "parent"
  /-- The key under which a view that fills the container is registered. -/
  defaultKey : String := "view"
  /-- The gap of a bare `-` between two views. -/
  siblingSpacing : Binary64 := 8
  /-- The gap of a bare `-` between a view and the container. -/
  superviewSpacing : Binary64 := 20
deriving DecidableEq, Repr

instance : Inhabited Configuration := ⟨{}⟩

/-- The gaps of bare dashes under a configuration. -/
def Configuration.spacing (configuration : Configuration) : Spacing :=
  ⟨configuration.siblingSpacing, configuration.superviewSpacing⟩

end ViewLayout
