import ModelAdapter.Files.Tree
import ModelAdapter.Settings.Config
import ModelAdapter.Settings.Format

/-! # Loading a configuration

A configuration is loaded from up to three sources.  For each knob, the first of
these that has something to say decides:

  * the thread-count variable, for the thread count only, if it holds a count;
  * the variable of the knob's name behind the prefix;
  * the knob's name in the file, if there is a file;
  * the initial configuration.

A setting that is decided against is never looked at, so it need not even make
sense.  The thread-count variable is an exception: what it overrides must make sense.
-/

namespace ModelAdapter

/-! ## §1. Files -/

namespace Settings

/-- A mark of the byte order at the beginning of a text says nothing. -/
def withoutByteOrderMark (text : String) : String :=
  match text.toList with
  | '\uFEFF' :: rest => String.ofList rest
  | _ => text

/-- The settings in a file. -/
def ofFile (t : FileTree) (path : Path) : Except Fault Settings :=
  match t.resolve path with
  | .error _ => .error (.configuration ("config file not found: " ++ path.display))
  | .ok (_, .file content _) =>
      match path.extension?.bind Format.ofExtension? with
      | none => .error (.configuration ("unknown format: " ++ path.display))
      | some format =>
          match format.read? (withoutByteOrderMark content) with
          | some settings => .ok settings
          | none => .error (.configuration ("malformed: " ++ path.display))
  | .ok _ => .error (.configuration ("not a file: " ++ path.display))

/-- The settings in a file, if one is named. -/
def ofFile? (t : FileTree) : Option Path → Except Fault Settings
  | none => .ok []
  | some path => ofFile t path

end Settings

/-! ## §2. Selection -/

/-- The setting that decides about a knob, if any does. -/
def Settings.select (environment file : Settings) (knob : String) : Option Setting :=
  (environment.get? knob).or (file.get? knob)

namespace Config

/-- What a selected setting makes of a knob; without one the knob stays as it is. -/
def knob {α : Type} (name : String) (convert : Setting → Option α) (initially : α)
    (selected : Option Setting) : Except Fault α :=
  match selected with
  | none => .ok initially
  | some s =>
      match convert s with
      | some value => .ok value
      | none => .error (.configuration ("unfit value of " ++ name))

/-- The configuration that the selected settings make. -/
def ofSelected (selected : String → Option Setting) : Except Fault Config := do
  let numWorkerThreads ←
    knob "num_worker_threads" Setting.optionalWord32? initial.numWorkerThreads
      (selected "num_worker_threads")
  let treeliteRuntimeLibrary ←
    knob "treelite_runtime_library" Setting.text? initial.treeliteRuntimeLibrary
      (selected "treelite_runtime_library")
  let hexagonDebugLevel ←
    knob "hexagon_debug_level" Setting.word32? initial.hexagonDebugLevel
      (selected "hexagon_debug_level")
  return { numWorkerThreads, treeliteRuntimeLibrary, hexagonDebugLevel }

/-- A valid thread count in its variable overrides that of the configuration. -/
def overridden (c : Config) (env : Environment) : Config × List Event :=
  match Threads.read (env.get? threadsVariable) with
  | (some n, events) => ({ c with numWorkerThreads := some n }, events)
  | (none, events) => (c, events)

/-! ## §3. Loading -/

/-- The configuration in the settings of a file and in the environment. -/
def ofSources (file : Settings) (env : Environment) : Except Fault (Config × List Event) := do
  let c ← ofSelected (Settings.select (.ofEnvironment env) file)
  return c.overridden env

/-- Loads the configuration from the environment, and from a file if one is named; logs only
when that succeeds. -/
def load (t : FileTree) (env : Environment) (path? : Option Path) :
    Except Fault (Config × List Event) := do
  ofSources (← Settings.ofFile? t path?) env

end Config

end ModelAdapter
