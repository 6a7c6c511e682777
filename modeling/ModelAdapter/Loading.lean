import ModelAdapter.Detection
import ModelAdapter.Files.Library
import ModelAdapter.Hexagon.Abi
import ModelAdapter.Hexagon.Model
import ModelAdapter.Settings.Config
import ModelAdapter.Treelite.Abi
import ModelAdapter.Treelite.Model

/-! # Loading models

Loading finds the files of a model, binds the engine that they need, and builds
the model over it.  Each stage can fail, and the report of the failure says what
was being done.

  * **State** (`Machine`): the files, the environment, and the two engines that
    can be bound, each behind its C functions.
  * **Loading a DSP model** exports the directory of the skeleton library before
    anything is bound; the export stays when a later stage fails.
  * **Loading a tree ensemble** reads the thread-count variable when the
    configuration names no count; it exports nothing.
  * **Loading whatever is there** (`Machine.load`) detects the backend first.
-/

namespace ModelAdapter

/-! ## §1. State -/

/-- What loading works on: files, environment, and the engines behind their C functions. -/
structure Machine (σ τ : Type) where
  files : FileTree
  environment : Variables Path
  hexagon : World Hexagon.interface (World Hexagon.Abi.interface σ)
  treelite : World Treelite.interface (World Treelite.Abi.interface τ)

/-- The engines of a machine. -/
structure Engines (σ τ : Type) where
  hexagon : Engine Hexagon.Abi.interface σ
  treelite : Engine Treelite.Abi.interface τ

/-- A model behind either engine. -/
inductive Loaded
  | hexagon (model : Hexagon.Model)
  | treelite (model : Treelite.Model)

namespace Machine

variable {σ τ : Type}

/-- A machine on which nothing has happened. -/
def start (files : FileTree) (environment : Variables Path) (hexagon : σ) (treelite : τ) :
    Machine σ τ where
  files := files
  environment := environment
  hexagon := .start (.start hexagon)
  treelite := .start (.start treelite)

/-- Logs events about models of the DSP engine. -/
def loggedHexagon (m : Machine σ τ) (events : List Event) : Machine σ τ :=
  { m with hexagon := m.hexagon.logged events }

def loggedTreelite (m : Machine σ τ) (events : List Event) : Machine σ τ :=
  { m with treelite := m.treelite.logged events }

/-- Carries out a computation that drives the DSP engine. -/
def driveHexagon {α : Type} (m : Machine σ τ) (E : Engines σ τ)
    (d : Drive Hexagon.interface (World Hexagon.Abi.interface σ) α) : α × Machine σ τ :=
  let (result, world) := d (Hexagon.binding E.hexagon) m.hexagon
  (result, { m with hexagon := world })

def driveTreelite {α : Type} (m : Machine σ τ) (E : Engines σ τ)
    (d : Drive Treelite.interface (World Treelite.Abi.interface τ) α) : α × Machine σ τ :=
  let (result, world) := d (Treelite.binding E.treelite) m.treelite
  (result, { m with treelite := world })

/-! ## §2. Models of the DSP engine -/

/-- Exports the directory of the skeleton library, when a model has one. -/
def exportSkeleton (m : Machine σ τ) (artifact : Hexagon.Artifact) :
    Except Fault (Option Path) × Machine σ τ :=
  let exported := artifact.exportSkeleton m.files
  let m := m.loggedHexagon exported.events
  match exported.result with
  | .ok (some path) =>
      (.ok (some path), { m with environment := m.environment.set skeletonPathVariable path })
  | result => (result, m)

/-- Loads the model in a directory. -/
def loadHexagon (m : Machine σ τ) (E : Engines σ τ) (dir : Path) (device : Device)
    (debugLevel : Int32) : Except Report Hexagon.Model × Machine σ τ :=
  let m := m.loggedHexagon [.hexagonOpening dir]
  match Hexagon.locate m.files dir with
  | .error fault =>
      (.error ((Report.bare fault).note ("locating Hexagon artifact in " ++ dir.display)), m)
  | .ok artifact =>
      match m.exportSkeleton artifact with
      | (.error fault, m) =>
          (.error ((Report.bare fault).note "exporting skeleton library search path"), m)
      | (.ok _, m) =>
          -- The variable is set by now, and no later failure takes that back.
          match m.files.bindLibrary artifact.modelFile Hexagon.symbols with
          | .error fault =>
              (.error ((Report.bare fault).note ("binding " ++ artifact.modelFile.display)), m)
          | .ok () => m.driveHexagon E (Hexagon.build artifact device debugLevel)

/-! ## §3. Models of the tree-ensemble engine -/

/-- Loads the model in some directories. -/
def loadTreelite (m : Machine σ τ) (E : Engines σ τ) (dirs : List Path) (device : Device)
    (config : Config) : Except Report Treelite.Model × Machine σ τ :=
  let (located, warnings) := Treelite.locate m.files dirs
  let m := m.loggedTreelite (.treeliteOpening :: warnings)
  match located with
  | .error fault => (.error ((Report.bare fault).note "locating Treelite artifact"), m)
  | .ok artifact =>
      let library := config.treeliteRuntimeLibrary
      let m := m.loggedTreelite [.runtimeOpening library]
      match m.files.bindLibrary library Treelite.symbols with
      | .error fault =>
          (.error ((Report.bare fault).note ("binding Treelite runtime " ++ library)), m)
      | .ok () =>
          let (threads, warnings) := config.workerThreads m.environment.texts
          (m.loggedTreelite warnings).driveTreelite E (Treelite.build artifact device threads)

/-! ## §4. Whatever is there -/

/-- Loads the model in some directories, whichever engine it needs. -/
def load (m : Machine σ τ) (E : Engines σ τ) (dirs : List Path) (device : Device)
    (config : Config) : Except Report Loaded × Machine σ τ :=
  match detectBackend m.files dirs with
  | .error fault => (.error ((Report.bare fault).note "detecting model backend"), m)
  | .ok .hexagon =>
      let m := m.loggedHexagon [.loading .hexagon device]
      match hexagonDir m.files dirs with
      | .error fault => (.error (.bare fault), m)
      -- Detection has found such a directory, so the search for it does not end here.
      | .ok none => (.error (.bare (Hexagon.noModelFile dirs)), m)
      | .ok (some dir) =>
          let (result, m) := m.loadHexagon E dir device config.hexagonDebugLevel
          (result.map .hexagon, m)
  | .ok .treelite =>
      let m := m.loggedTreelite [.loading .treelite device]
      let (result, m) := m.loadTreelite E dirs device config
      (result.map .treelite, m)

/-! ## §5. Using a loaded model -/

/-- Carries out one operation on a loaded model. -/
def operate (m : Machine σ τ) (E : Engines σ τ) (op : Operation) :
    Loaded → (Outcome × Loaded) × Machine σ τ
  | .hexagon model =>
      let ((outcome, next), m) := m.driveHexagon E (model.operate op)
      ((outcome, .hexagon next), m)
  | .treelite model =>
      let ((outcome, next), m) := m.driveTreelite E (model.operate op)
      ((outcome, .treelite next), m)

def drop (m : Machine σ τ) (E : Engines σ τ) : Loaded → Machine σ τ
  | .hexagon model => (m.driveHexagon E model.drop).2
  | .treelite model => (m.driveTreelite E model.drop).2

end Machine

end ModelAdapter
