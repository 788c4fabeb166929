import DsigRegistry.Text.Blank

/-!
# Options of a bootstrap

Which document is read, and what happens when it cannot be.
-/

namespace DsigRegistry

/-- What happens when the configuration document cannot be fetched or parsed. -/
inductive DocumentFailurePolicy where
  /-- The bootstrap fails and can be tried again. -/
  | strict
  /-- The bootstrap completes without entries, and its report has the error. -/
  | lenient
deriving DecidableEq

/-- How to bootstrap. -/
structure Options where
  /-- The path of the document, if it is not the default one. -/
  configPath : Option String := none
  failurePolicy : DocumentFailurePolicy := .strict
deriving DecidableEq

namespace Options

/-- The environment variable that overrides the path of the document. -/
def environmentVariable : String := "ULRIKSDAL_RESOURCE_CONFIG"

/-- The path of the bundled document. -/
def defaultPath : String := "resource/config.xml"

/-- The options for a value of the environment variable; a blank one overrides nothing. -/
def ofEnvironment (value : Option String) : Options where
  configPath := value.filter fun path => !Text.isBlankText path

/-- The path that is asked for. -/
def path (o : Options) : String := o.configPath.getD defaultPath

end Options

end DsigRegistry
