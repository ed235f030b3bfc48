import PrinterPanel.Settings.Document

/-!
# Settings files

The only part of the settings that touches the file system.
-/

namespace PrinterPanel.Settings

/-- Read the settings from a file. -/
def readFile (path : String) : IO (Except LoadError Settings) := do
  let contents ←
    try
      pure (some (← IO.FS.readBinFile path))
    catch _ =>
      pure none
  return ofFile contents

end PrinterPanel.Settings
