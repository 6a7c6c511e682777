import ModelAdapter.Settings.Ini
import ModelAdapter.Settings.Json
import ModelAdapter.Settings.Json5
import ModelAdapter.Settings.Ron
import ModelAdapter.Settings.Toml.Reader
import ModelAdapter.Settings.Yaml.Reader

/-! # Formats of configuration files

The extension of a file says how it is read; the case of its letters counts.
-/

namespace ModelAdapter

/-- How a configuration file is written. -/
inductive Format
  | json
  | yaml
  | toml
  | json5
  | ini
  | ron
  deriving DecidableEq, Repr

namespace Format

/-- The format that an extension stands for. -/
def ofExtension? : String → Option Format
  | "json" => some .json
  | "yaml" | "yml" => some .yaml
  | "toml" => some .toml
  | "json5" => some .json5
  | "ini" => some .ini
  | "ron" => some .ron
  | _ => none

/-- The settings in a text. -/
def read? : Format → String → Option Settings
  | .json => Settings.ofJson?
  | .yaml => Settings.ofYaml?
  | .toml => Settings.ofToml?
  | .json5 => Settings.ofJson5?
  | .ini => Settings.ofIni?
  | .ron => Settings.ofRon?

end Format

end ModelAdapter
