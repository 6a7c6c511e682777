/-! # Devices and backends

A model is created for a device: a kind of hardware and the number of the unit
among those of its kind.  Each kind has a numeric code, a display name, and a
tag under which it is stored as text.

A backend is the engine behind a model.
-/

namespace ModelAdapter

/-! ## §1. Kinds of device -/

/-- The kinds of device a model can be bound to. -/
inductive DeviceKind
  | cpu
  | gpu
  | cpuPinned
  | openCl
  | vulkan
  | metal
  | vpi
  | rocm
  | extDev
  deriving DecidableEq, Repr

namespace DeviceKind

/-- Every kind of device, in the order of the codes. -/
def all : List DeviceKind :=
  [cpu, gpu, cpuPinned, openCl, vulkan, metal, vpi, rocm, extDev]

/-- The numeric code of a kind; 5, 6 and 11 are not in use. -/
def code : DeviceKind → Int
  | cpu => 1
  | gpu => 2
  | cpuPinned => 3
  | openCl => 4
  | vulkan => 7
  | metal => 8
  | vpi => 9
  | rocm => 10
  | extDev => 12

def ofCode? (n : Int) : Option DeviceKind :=
  all.find? (fun kind => kind.code == n)

/-- The name under which a kind is displayed. -/
def name : DeviceKind → String
  | cpu => "cpu"
  | gpu => "gpu"
  | cpuPinned => "cpu_pinned"
  | openCl => "opencl"
  | vulkan => "vulkan"
  | metal => "metal"
  | vpi => "vpi"
  | rocm => "rocm"
  | extDev => "ext_dev"

/-- The tag under which a kind is stored as text. -/
def tag : DeviceKind → String
  | cpu => "Cpu"
  | gpu => "Gpu"
  | cpuPinned => "CpuPinned"
  | openCl => "OpenCl"
  | vulkan => "Vulkan"
  | metal => "Metal"
  | vpi => "Vpi"
  | rocm => "Rocm"
  | extDev => "ExtDev"

def ofTag? (text : String) : Option DeviceKind :=
  all.find? (fun kind => kind.tag == text)

theorem ofCode?_code (kind : DeviceKind) : ofCode? kind.code = some kind := by
  cases kind <;> rfl

theorem ofTag?_tag (kind : DeviceKind) : ofTag? kind.tag = some kind := by
  cases kind <;> rfl

end DeviceKind

/-! ## §2. Devices -/

/-- A device: a kind of hardware and the number of the unit. -/
structure Device where
  kind : DeviceKind
  unit : Int32
  deriving DecidableEq, Repr

namespace Device

/-- The first processor, which models run on unless another device is asked for. -/
def cpu : Device := ⟨.cpu, 0⟩

instance : Inhabited Device := ⟨cpu⟩

/-- A device is displayed as its kind and its number, with a colon between them. -/
def name (d : Device) : String :=
  d.kind.name ++ ":" ++ toString d.unit.toInt

end Device

/-! ## §3. Backends -/

/-- The engine behind a model. -/
inductive Backend
  /-- The DSP engine, compiled into the model's own shared object. -/
  | hexagon
  /-- The tree-ensemble predictor. -/
  | treelite
  deriving DecidableEq, Repr

namespace Backend

/-- The name of a backend, which is also its tag in stored text. -/
def name : Backend → String
  | hexagon => "Hexagon"
  | treelite => "Treelite"

def ofName? (text : String) : Option Backend :=
  [hexagon, treelite].find? (fun backend => backend.name == text)

end Backend

end ModelAdapter
