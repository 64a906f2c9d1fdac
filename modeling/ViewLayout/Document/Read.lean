import ViewLayout.Document
import ViewLayout.Toml.Read
import ViewLayout.Toml.Record

/-!
# Reading layout documents

The records of a layout document and their fields in TOML. Most records are closed: a field that a
document, container, guide, view, pair of priorities, sequence or batch does not define makes the
document malformed.
-/

namespace ViewLayout

open ViewLayout.Number ViewLayout.Toml

/-- Reads an axis from its word, alone or as the one key of a table whose value is empty. -/
def Axis.ofToml? : Value → Option Axis
  | .string word => Axis.ofWord? word
  | .table _ [(word, .table _ [])] => Axis.ofWord? word
  | .table _ [(word, .array _ [])] => Axis.ofWord? word
  | _ => none

/-- Reads a priority. -/
def Priority.ofToml? (value : Value) : Option Priority :=
  value.number?.map Priority.mk

/-- Reads metrics from a table of numbers. -/
def Metrics.ofToml? (value : Value) : Option Metrics := do
  let bindings ← (← value.entries?).mapM fun entry => entry.2.number?.map (entry.1, ·)
  some (KeyMap.ofList bindings)

namespace Configuration

/-- The fields of the options of a layout. -/
def shape : Shape :=
  ⟨["parent_view_key", "default_view_key", "sibling_spacing", "superview_spacing"], false⟩

/-- Reads the options of a layout. -/
def ofToml? (value : Value) : Option Configuration := do
  let base : Configuration := {}
  let record ← shape.record? value
  some {
    parentKey := ← record.withDefault "parent_view_key" base.parentKey Value.string?
    defaultKey := ← record.withDefault "default_view_key" base.defaultKey Value.string?
    siblingSpacing := ← record.withDefault "sibling_spacing" base.siblingSpacing Value.number?
    superviewSpacing := ← record.withDefault "superview_spacing" base.superviewSpacing
      Value.number? }

/-- Reads the options of a layout from a text of their own. -/
def read? (text : String) : Option Configuration :=
  (Toml.read? text).bind fun entries => ofToml? (.table .header entries)

end Configuration

namespace GuideDeclaration

/-- The fields of a guide. -/
def shape : Shape := ⟨["key", "x", "y", "width", "height"], true⟩

/-- Reads a guide. -/
def ofToml? (value : Value) : Option GuideDeclaration := do
  let record ← shape.record? value
  some {
    key := ← record.required "key" Value.string?
    frame := {
      x := ← record.withDefault "x" 0 Value.number?
      y := ← record.withDefault "y" 0 Value.number?
      width := ← record.withDefault "width" 0 Value.number?
      height := ← record.withDefault "height" 0 Value.number? } }

end GuideDeclaration

namespace ViewDeclaration

/-- The fields of a pair of priorities. -/
def axisShape : Shape := ⟨["horizontal", "vertical"], true⟩

/-- Reads priorities for the axes for which they are declared. -/
def prioritiesOfToml? (value : Value) : Option (PerAxis (Option Priority)) := do
  let record ← axisShape.record? value
  some {
    horizontal := ← record.optional "horizontal" Priority.ofToml?
    vertical := ← record.optional "vertical" Priority.ofToml? }

/-- Reads the size of a content. -/
def sizeOfToml? (value : Value) : Option (PerAxis Binary64) :=
  (value.pair? Value.number?).map fun (width, height) => ⟨width, height⟩

/-- The fields of a view. -/
def shape : Shape := ⟨["key", "size", "parent", "hugging", "resistance"], true⟩

/-- Reads a view. -/
def ofToml? (value : Value) : Option ViewDeclaration := do
  let record ← shape.record? value
  some {
    key := ← record.required "key" Value.string?
    size := ← record.optional "size" sizeOfToml?
    parent := ← record.optional "parent" Value.string?
    hugging := ← record.withDefault "hugging" (.both none) prioritiesOfToml?
    resistance := ← record.withDefault "resistance" (.both none) prioritiesOfToml? }

end ViewDeclaration

/-- Reads a constraint text, alone or as a table with its priority. -/
def WeightedText.ofToml? : Value → Option WeightedText
  | .string raw => some ⟨raw, none⟩
  | .table _ entries => do
    let record : Record := ⟨entries, true⟩
    some {
      raw := ← record.required "format" Value.string?
      priority := ← record.optional "priority" Priority.ofToml? }
  | _ => none

namespace Margins

/-- The fields of margins. -/
def shape : Shape := ⟨["ends", "sides", "between"], false⟩

/-- Reads margins. -/
def ofToml? (value : Value) : Option Margins := do
  let record ← shape.record? value
  some {
    ends := ← record.withDefault "ends" 0 Value.number?
    sides := ← record.withDefault "sides" 0 Value.number?
    between := ← record.withDefault "between" 0 Value.number? }

end Margins

namespace Batch

/-- The fields of a batch. -/
def shape : Shape := ⟨["views", "centered"], true⟩

/-- Reads a batch. -/
def ofToml? (value : Value) : Option Batch := do
  let record ← shape.record? value
  some {
    keys := ← record.required "views" (Value.list? Value.string?)
    centered := ← record.withDefault "centered" false Value.boolean? }

end Batch

namespace SequenceDeclaration

/-- The fields of a sequence. -/
def shape : Shape := ⟨["axis", "margins", "batches", "close"], true⟩

/-- Reads a sequence. -/
def ofToml? (value : Value) : Option SequenceDeclaration := do
  let record ← shape.record? value
  some {
    axis := ← record.required "axis" Axis.ofToml?
    margins := ← record.withDefault "margins" {} Margins.ofToml?
    batches := ← record.withDefault "batches" [] (Value.list? Batch.ofToml?)
    close := ← record.withDefault "close" false Value.boolean? }

end SequenceDeclaration

namespace Document

/-- The fields of a container. -/
def containerShape : Shape := ⟨["width", "height"], true⟩

/-- Reads the size of a container. -/
def containerOfToml? (value : Value) : Option (Binary64 × Binary64) := do
  let record ← containerShape.record? value
  some (← record.required "width" Value.number?, ← record.required "height" Value.number?)

/-- The fields of a document. -/
def shape : Shape :=
  ⟨["layout", "container", "metrics", "guides", "views", "constraints", "linear"], true⟩

/-- Reads a document from its table. -/
def ofToml? (value : Value) : Option Document := do
  let record ← shape.record? value
  let (width, height) ← record.required "container" containerOfToml?
  some {
    configuration := ← record.withDefault "layout" {} Configuration.ofToml?
    width
    height
    metrics := ← record.withDefault "metrics" .empty Metrics.ofToml?
    guides := ← record.withDefault "guides" [] (Value.list? GuideDeclaration.ofToml?)
    views := ← record.withDefault "views" [] (Value.list? ViewDeclaration.ofToml?)
    constraints := ← record.withDefault "constraints" [] (Value.list? WeightedText.ofToml?)
    sequence := ← record.optional "linear" SequenceDeclaration.ofToml? }

/-- Reads the text of a document, given a reader that finds the table of a text. -/
def readBy (reader : String → Option Entries) (text : String) : Except DocumentError Document :=
  match (reader text).bind fun entries => ofToml? (.table .header entries) with
  | some document => .ok document
  | none => .error .malformed

/-- Reads the text of a document. -/
def read : String → Except DocumentError Document := readBy Toml.read?

/-- Reads the text of a document that a file may hold. -/
def ofFile (content : Except FileFault String) : Except DocumentError Document := do
  read (← content.mapError .unreadable)

end Document

end ViewLayout
