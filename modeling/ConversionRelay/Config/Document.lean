import ConversionRelay.Config.Codec
import ConversionRelay.FileTree
import ConversionRelay.Log
/-!
Configurations as documents on disk.

A configuration is written indented, and the directories above its file are made. What the file held
before is gone.
-/
namespace ConversionRelay.CustomerConfig

/-- Write a configuration to a file: the files afterwards, and the path as it is normalised. -/
def writeFile (config : CustomerConfig) (output : Text) (files : FileTree) :
    Logged (FileTree × FilePath) := do
  let path := FilePath.ofText output
  let written ← Logged.ofExcept (files.writeText path (config.write .pretty))
  Logged.write .info .generation ("Config written to: " ++ path.text)
  return (written, path)

end ConversionRelay.CustomerConfig
