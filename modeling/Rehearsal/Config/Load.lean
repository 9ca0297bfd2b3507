import Rehearsal.Config.Toml
import Rehearsal.Files.Store

/-!
# Where a configuration comes from

A file that is named comes first; without one, the nearest configuration file in the current
directory or above it; without any, the environment. Only one of them is looked at: a file that
cannot be read or understood is an error, and nothing else is tried.
-/

namespace Rehearsal.Config

/-- Why no configuration could be loaded. -/
inductive LoadError where
  | unreadable (e : FileError)
  | invalidToml (path : Path) (e : TomlError)
  | environment (e : EnvironmentError)
  deriving DecidableEq, Repr

namespace LoadError

/-- What went wrong and why, outermost first. -/
def chain : LoadError → List String
  | .unreadable e => "Cannot read a file" :: e.chain
  | .invalidToml path e => ["Invalid config TOML: " ++ quoteBytes path.raw, e.message]
  | .environment e =>
    ["Failed to load config from " ++ variableStart ++ "* env vars", e.message]

end LoadError

/-- Read a configuration file. -/
def ofFile (t : FileTree) (cwd : Place) (p : Path) : Except LoadError Config := do
  let text ← (t.readText cwd p).mapError .unreadable
  let config ← (ofToml text).mapError (.invalidToml p)
  return { config with sourceFile := some p }

/-- The nearest configuration file in a directory or above it. -/
def findFile (t : FileTree) (cwd : Place) (dir : Path) : Option Path :=
  (dir.ancestors.map (·.join (.ofString fileName))).find? (t.isFile cwd)

/-- Load a configuration. -/
def load (t : FileTree) (cwd : Place) (environment : List (String × String))
    (named : Option Path) (dir : Path) : Except LoadError Config :=
  match named with
  | some p => ofFile t cwd p
  | none =>
    match findFile t cwd dir with
    | some p => ofFile t cwd p
    | none => (ofVariables environment).mapError .environment

end Rehearsal.Config
