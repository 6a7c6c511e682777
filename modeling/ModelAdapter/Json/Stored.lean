import ModelAdapter.Json.Reader
import ModelAdapter.Settings.Config

/-! # Stored configurations, devices and backends

A configuration and a device are stored as JSON objects, and a backend and a kind
of device as strings.

  * Writing gives every member, in a fixed order and without blanks.
  * Reading takes the members in any order.  A member of another name is passed
    over, whatever its value is; two members of one name are refused.
  * A member of a configuration that is missing keeps its initial value; a device
    needs all of its members.
  * An array stands for an object whose members come in the order of writing.
  * A whole number must be written as one, and must fit in 32 bits.
-/

namespace ModelAdapter

namespace Json

/-! ## §1. Scalars -/

def word32? : Json → Option Int32
  | .number (.integer n) => if Integer.fits32 n then some (Int32.ofInt n) else none
  | _ => none

/-- A whole number of 32 bits, or null for none. -/
def optionalWord32? : Json → Option (Option Int32)
  | .null => some none
  | j => (word32? j).map some

def text? : Json → Option String
  | .string s => some s
  | _ => none

/-- The tag of a constant: a string, or an object whose one member has that name and is
null. -/
def tag? : Json → Option String
  | .string s => some s
  | .object [(name, .null)] => some name
  | _ => none

/-! ## §2. Members -/

/-- The member of a given name, if there is one; two are refused. -/
def member? (name : String) (members : List (String × Json)) : Option (Option Json) :=
  match members.filter (fun m => m.1 == name) with
  | [] => some none
  | [m] => some (some m.2)
  | _ => none

/-- A member that keeps a value of its own when it is missing. -/
def memberOr? {α : Type} (read : Json → Option α) (missing : α) (member : Option Json) :
    Option α :=
  match member with
  | none => some missing
  | some j => read j

end Json

/-! ## §3. Configurations -/

namespace Config

/-- The names of the members, in the order of writing. -/
def memberNames : List String :=
  ["num_worker_threads", "treelite_runtime_library", "hexagon_debug_level"]

/-- The members of a configuration as text. -/
def stored (c : Config) : String :=
  let threads := match c.numWorkerThreads with
    | none => "null"
    | some n => toString n.toInt
  "\x7b\"num_worker_threads\":" ++ threads
    ++ ",\"treelite_runtime_library\":" ++ Json.quote c.treeliteRuntimeLibrary
    ++ ",\"hexagon_debug_level\":" ++ toString c.hexagonDebugLevel.toInt ++ "\x7d"

/-- The configuration with given members, each of which may be missing. -/
def ofMembers? (threads library level : Option Json) : Option Config := do
  let numWorkerThreads ← Json.memberOr? Json.optionalWord32? initial.numWorkerThreads threads
  let treeliteRuntimeLibrary ←
    Json.memberOr? Json.text? initial.treeliteRuntimeLibrary library
  let hexagonDebugLevel ← Json.memberOr? Json.word32? initial.hexagonDebugLevel level
  return { numWorkerThreads, treeliteRuntimeLibrary, hexagonDebugLevel }

/-- The configuration that a JSON value stands for. -/
def ofJson? : Json → Option Config
  | .object members => do
      ofMembers? (← Json.member? "num_worker_threads" members)
        (← Json.member? "treelite_runtime_library" members)
        (← Json.member? "hexagon_debug_level" members)
  | .array elements =>
      if 3 < elements.length then none
      else ofMembers? elements[0]? elements[1]? elements[2]?
  | _ => none

def ofStored? (text : String) : Option Config := do
  ofJson? (← Json.read? text)

end Config

/-! ## §4. Devices and backends -/

namespace Device

/-- A device as text. -/
def stored (d : Device) : String :=
  "\x7b\"device_type\":" ++ Json.quote d.kind.tag ++ ",\"device_id\":"
    ++ toString d.unit.toInt ++ "\x7d"

/-- The device with given members, neither of which may be missing. -/
def ofMembers? (kind unit : Option Json) : Option Device := do
  let kind ← DeviceKind.ofTag? (← Json.tag? (← kind))
  let unit ← Json.word32? (← unit)
  return { kind, unit }

/-- The device that a JSON value stands for. -/
def ofJson? : Json → Option Device
  | .object members => do
      ofMembers? (← Json.member? "device_type" members) (← Json.member? "device_id" members)
  | .array elements => if 2 < elements.length then none else ofMembers? elements[0]? elements[1]?
  | _ => none

def ofStored? (text : String) : Option Device := do
  ofJson? (← Json.read? text)

end Device

namespace Backend

def ofStored? (text : String) : Option Backend := do
  ofName? (← Json.tag? (← Json.read? text))

end Backend

end ModelAdapter
