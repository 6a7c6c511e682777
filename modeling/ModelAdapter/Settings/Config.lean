import ModelAdapter.Environment
import ModelAdapter.Threads

/-! # Configurations

The knobs of the adapters: how many threads the tree-ensemble engine works with,
which shared object that engine is, and how much the DSP engine logs.

A configuration without a thread count still honours the thread-count variable,
which is read when the count is needed.
-/

namespace ModelAdapter

/-- The configuration of the adapters. -/
structure Config where
  /-- How many threads the tree-ensemble engine works with; without a count, as many as the
  environment says. -/
  numWorkerThreads : Option Int32
  /-- The shared object of the tree-ensemble engine. -/
  treeliteRuntimeLibrary : String
  /-- The debug level that a session of the DSP engine is opened with. -/
  hexagonDebugLevel : Int32
  deriving DecidableEq, Repr

namespace Config

/-- The configuration before anything is configured. -/
def initial : Config where
  numWorkerThreads := none
  treeliteRuntimeLibrary := "libtreelite_runtime.so"
  hexagonDebugLevel := 0

instance : Inhabited Config := ⟨initial⟩

/-- Sets the thread count, which must be positive. -/
def withNumWorkerThreads (c : Config) (threads : Int32) : Except Fault Config :=
  if threads ≤ 0 then .error (.configuration "num_worker_threads must be > 0")
  else .ok { c with numWorkerThreads := some threads }

def withTreeliteRuntimeLibrary (c : Config) (path : String) : Config :=
  { c with treeliteRuntimeLibrary := path }

def withHexagonDebugLevel (c : Config) (level : Int32) : Config :=
  { c with hexagonDebugLevel := level }

/-- The thread count that the engine is told, and the warnings on the way. -/
def workerThreads (c : Config) (env : Environment) : Int32 × List Event :=
  Threads.resolve c.numWorkerThreads (env.get? threadsVariable)

end Config

end ModelAdapter
