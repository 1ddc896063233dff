import ConversionRelay.Config.Generation
import ConversionRelay.Container.Coverage
import ConversionRelay.Container.Export
/-!
Compiling a container export into the configuration of a customer.

The variables that tags refer to and the bindings of variables to paths are taken from the export
separately. The bindings give rise to the configuration, and both together to a report on which
variables are mapped.
-/
namespace ConversionRelay

/-- What compiling an export yields. -/
structure Compilation where
  config : CustomerConfig
  format : ExportFormat
  /-- The variables that tags refer to, each once and ordered by code points. -/
  referenced : List Text
  bindings : Bindings
  coverage : Coverage

namespace Compilation

/-- The variables that have to be mapped by hand. -/
def unmapped (result : Compilation) : List Text := result.coverage.unmapped

/-- A summary of a compilation. -/
def summary (result : Compilation) : Fields := [
  ("customer_id", result.config.customerId),
  ("export_format", .string result.format.name),
  ("referenced_variables", .int result.referenced.length),
  ("macro_definitions", .int result.bindings.length),
  ("events", .array result.config.eventNames),
  ("unmapped_variables", .array (result.unmapped.map .string))]

/-- Compile an export that is loaded. -/
def ofExport (found : Export) (customer : Value) : Logged Compilation := do
  let referenced := Reference.variablesOfAll (found.tags.map .object)
  let bindings ← Logged.ofExcept (Bindings.ofRecords found.records)
  Logged.write .info .compilation
    ("Extracted " ++ Decimal.ofNat referenced.length ++ " unique variables from tags")
  Logged.write .info .compilation
    ("Extracted " ++ Decimal.ofNat bindings.length ++
      " macro definitions with dataLayer paths")
  let config ← CustomerConfig.generate customer bindings
  return {
    config
    format := found.format
    referenced
    bindings
    coverage := Coverage.ofVariables referenced bindings }

/-- Compile the export that comes from a source. -/
def ofSource (files : FileTree) (source : ExportSource) (customer : Value) :
    Logged Compilation := do
  ofExport (← Export.load files source) customer

end Compilation

end ConversionRelay
