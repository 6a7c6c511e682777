import ModelAdapter.Fault

/-! # Log events

What the library logs, as facts.  An event has a level, a text, and named
fields; the diagnostic log of the DSP engine is passed on under a channel of its
own, and every other event has none.
-/

namespace ModelAdapter

/-- The levels of the log. -/
inductive Level
  | info
  | warning
  deriving DecidableEq, Repr

/-- The names that recur in events, files and the environment. -/
def skeletonFile : String := "libhexagon_nn_skel.so"

/-- The variable that tells the DSP loader where the skeleton library is. -/
def skeletonPathVariable : String := "ADSP_LIBRARY_PATH"

/-- The variable that overrides the number of worker threads. -/
def threadsVariable : String := "OMP_NUM_THREADS"

/-- The events that the library logs. -/
inductive Event
  /-- A backend was chosen by looking at the artifacts. -/
  | loading (backend : Backend) (device : Device)
  | hexagonOpening (dir : Path)
  /-- No skeleton library stands beside the model. -/
  | skeletonMissing
  | skeletonExported (path : Path)
  /-- The diagnostic log of the DSP engine. -/
  | engineLog (text : String)
  | hexagonReady (inputs outputs : Nat)
  | hexagonClosed
  | treeliteOpening
  /-- Two files could be the model library; the later one is taken. -/
  | libraryReplaced (previous chosen : Path)
  | runtimeOpening (path : String)
  | treeliteReady (features groups width : Nat)
  /-- The engine refused to delete a batch. -/
  | batchKept (fault : Fault)
  /-- The engine refused to free the predictor. -/
  | predictorKept (fault : Fault)
  | treeliteClosed
  /-- The thread-count variable holds no thread count. -/
  | threadsIgnored (text : String)
  deriving DecidableEq, Repr

namespace Event

def level : Event → Level
  | libraryReplaced _ _ | batchKept _ | predictorKept _ | threadsIgnored _ => .warning
  | _ => .info

def text : Event → String
  | loading _ _ => "loading model"
  | hexagonOpening _ => "Initializing HexagonModel"
  | skeletonMissing =>
      skeletonFile ++ " file is not found. User needs to set " ++ skeletonPathVariable
        ++ " to point to " ++ skeletonFile ++ " file folder"
  | skeletonExported path => skeletonPathVariable ++ "=" ++ path.display
  | engineLog text => text
  | hexagonReady _ _ => "HexagonModel was created"
  | hexagonClosed => "HexagonModel was deleted"
  | treeliteOpening => "Initializing TreeliteModel"
  | libraryReplaced _ _ => "multiple Treelite model libraries found"
  | runtimeOpening _ => "Loading Treelite runtime"
  | treeliteReady _ _ _ => "TreeliteModel was created"
  | batchKept _ => "failed to release sparse batch"
  | predictorKept _ => "failed to free Treelite predictor"
  | treeliteClosed => "TreeliteModel was deleted"
  | threadsIgnored _ => "ignoring invalid " ++ threadsVariable

/-- The named fields of an event, as text. -/
def fields : Event → List (String × String)
  | loading backend device => [("backend", backend.name), ("device", device.name)]
  | hexagonOpening dir => [("dir", dir.display)]
  | hexagonReady inputs outputs => [("inputs", toString inputs), ("outputs", toString outputs)]
  | libraryReplaced previous chosen => [("previous", previous.display), ("chosen", chosen.display)]
  | runtimeOpening path => [("path", path)]
  | treeliteReady features groups width =>
      [("num_feature", toString features), ("num_output_group", toString groups),
        ("output_width", toString width)]
  | batchKept fault | predictorKept fault => [("error", fault.message)]
  | threadsIgnored text => [("value", text)]
  | _ => []

/-- The channel an event is logged under, when it has one of its own. -/
def channel? : Event → Option String
  | engineLog _ => some "dlr::hexagon::nn"
  | _ => none

end Event

end ModelAdapter
