import ModelAdapter.Json.Stored
import ModelAdapter.Proofs.Json.Written

/-! # What is stored is read back

A configuration and a device are objects with a member for each of their fields, and their
texts are what is written of those objects (`Config.stored_eq`, `Device.stored_eq`).  What is
read of a text is what is read of the object in it, so that the way a text is written is
settled once and for all by `Json.read?_write`.

What is read of an object is read member by member (`Config.ofJson?_object_eq_some_iff`).
The member of a name is looked for among the members of that name only, and so

  * members of other names, and the order of the members, do not matter (`member?_perm`);
  * a member that is left out where it had the initial value leaves the initial value in
    its place (`memberValue?_filter`).
-/

namespace ModelAdapter

namespace Json

/-! ## §1. Scalars -/

def ofWord32 (n : Int32) : Json := .number (.integer n.toInt)

def ofOptionalWord32 : Option Int32 → Json
  | none => .null
  | some n => ofWord32 n

theorem word32?_ofWord32 (n : Int32) : word32? (ofWord32 n) = some n := by
  have hlow := Int32.le_toInt n
  have hhigh := Int32.toInt_lt n
  have hfits : Integer.fits32 n.toInt = true := by
    simp only [Integer.fits32, Bool.and_eq_true, decide_eq_true_eq]
    omega
  simp [word32?, ofWord32, hfits]

theorem optionalWord32?_ofOptionalWord32 (n? : Option Int32) :
    optionalWord32? (ofOptionalWord32 n?) = some n? := by
  cases n? with
  | none => rfl
  | some n =>
    show (word32? (ofWord32 n)).map some = _
    rw [word32?_ofWord32]
    rfl

/-! ## §2. Members -/

variable {name : String} {members members' : List (String × Json)}

/-- The members of a name. -/
def named (name : String) (members : List (String × Json)) : List (String × Json) :=
  members.filter (fun m => m.1 == name)

theorem member?_of_nil (h : named name members = []) : member? name members = some none := by
  rw [named] at h
  rw [member?, h]

theorem member?_of_singleton {m : String × Json} (h : named name members = [m]) :
    member? name members = some (some m.2) := by
  rw [named] at h
  rw [member?, h]

theorem member?_of_two {m m' : String × Json} {others : List (String × Json)}
    (h : named name members = m :: m' :: others) : member? name members = none := by
  rw [named] at h
  rw [member?, h]

/-- The member of a name does not depend on the order of the members of that name, and not at
all on the others. -/
theorem member?_perm (h : (named name members).Perm (named name members')) :
    member? name members = member? name members' := by
  -- None, one or several: the number of them decides, and with one of them its value.
  match hfound : named name members with
  | [] =>
    rw [hfound] at h
    rw [member?_of_nil hfound, member?_of_nil h.nil_eq.symm]
  | [m] =>
    rw [hfound] at h
    rw [member?_of_singleton hfound, member?_of_singleton h.singleton_eq.symm]
  | m :: m' :: others =>
    have hlength := h.length_eq
    rw [hfound] at hlength
    match hfound' : named name members' with
    | [] => simp [hfound'] at hlength
    | [_] => simp [hfound'] at hlength
    | _ :: _ :: _ => rw [member?_of_two hfound, member?_of_two hfound']

/-- The members that matter are enough to find the member of a name, if it is one of them. -/
theorem member?_filter_perm {matters : String × Json → Bool}
    (hname : ∀ m : String × Json, m.1 = name → matters m = true)
    (h : (members.filter matters).Perm (members'.filter matters)) :
    member? name members = member? name members' := by
  have hnamed (list : List (String × Json)) :
      named name (list.filter matters) = named name list := by
    rw [named, List.filter_filter]
    refine List.filter_congr (fun m _ => ?_)
    by_cases hm : m.1 = name
    · simp [hm, hname m hm]
    · simp [hm]
  have hperm := h.filter (fun m => m.1 == name)
  refine member?_perm ?_
  rw [← hnamed members, ← hnamed members']
  exact hperm

/-- What is left of the members of a name when some of the members are left out. -/
theorem member?_filter {found : Option Json} (keep : String × Json → Bool)
    (h : member? name members = some found) :
    member? name (members.filter keep) = some found ∨
      ∃ j, found = some j ∧ (name, j) ∈ members ∧ keep (name, j) = false ∧
        member? name (members.filter keep) = some none := by
  have hkept : named name (members.filter keep) = (named name members).filter keep := by
    rw [named, named, List.filter_filter, List.filter_filter]
    exact List.filter_congr (fun m _ => Bool.and_comm _ _)
  -- By how many members of the name there are: none, one that may be dropped, or too many to be
  -- read at all.
  match hfound : named name members with
  | [] =>
    rw [hfound] at hkept
    rw [member?_of_nil hfound] at h
    left
    rw [member?_of_nil hkept, h]
  | [(name', j)] =>
    have hnamed : (name', j) ∈ named name members := by
      rw [hfound]
      exact List.mem_singleton_self _
    obtain ⟨hmem, hname⟩ := List.mem_filter.mp hnamed
    obtain rfl : name' = name := eq_of_beq hname
    rw [hfound] at hkept
    rw [member?_of_singleton hfound, Option.some.injEq] at h
    by_cases hkeep : keep (name', j) = true
    · left
      rw [List.filter_cons_of_pos hkeep] at hkept
      rw [member?_of_singleton hkept, h]
    · right
      rw [List.filter_cons_of_neg hkeep] at hkept
      exact ⟨j, h.symm, hmem, eq_false_of_ne_true hkeep, member?_of_nil hkept⟩
  | _ :: _ :: _ =>
    rw [member?_of_two hfound] at h
    cases h

/-- The value of a member that keeps a value of its own when it is missing. -/
def memberValue? {α : Type} (name : String) (read : Json → Option α) (missing : α)
    (members : List (String × Json)) : Option α := do
  memberOr? read missing (← member? name members)

/-- A member that is left out where it had the value it keeps, keeps that value. -/
theorem memberValue?_filter {α : Type} {read : Json → Option α} {missing a : α}
    {keep : String × Json → Bool} (h : memberValue? name read missing members = some a)
    (hkeep : ∀ j, (name, j) ∈ members → keep (name, j) = false → read j = some missing) :
    memberValue? name read missing (members.filter keep) = some a := by
  obtain ⟨found, hfound, hvalue⟩ := Option.bind_eq_some_iff.mp h
  rcases member?_filter keep hfound with hsame | ⟨j, rfl, hmem, hdropped, hnone⟩
  · rw [memberValue?, hsame]
    exact hvalue
  · rw [memberValue?, hnone]
    -- The member has the value that it keeps.
    have hread : read j = some a := hvalue
    rw [hkeep j hmem hdropped] at hread
    exact hread

end Json

/-! ## §3. Configurations -/

namespace Config

/-- The members of a configuration, in the order of writing. -/
def members (c : Config) : List (String × Json) :=
  [("num_worker_threads", Json.ofOptionalWord32 c.numWorkerThreads),
    ("treelite_runtime_library", .string c.treeliteRuntimeLibrary),
    ("hexagon_debug_level", Json.ofWord32 c.hexagonDebugLevel)]

/-- Whether a member is one of a configuration. -/
def known (m : String × Json) : Bool := memberNames.contains m.1

/-- A configuration is written as the object of its members. -/
theorem stored_eq (c : Config) : c.stored = Json.write (.object c.members) := by
  -- The constant parts are the quoted names with their punctuation.
  have hfirst : "\x7b\"num_worker_threads\":".toList
      = '\x7b' :: (Json.quoted "num_worker_threads" ++ [':']) := by decide
  have hsecond : ",\"treelite_runtime_library\":".toList
      = ',' :: (Json.quoted "treelite_runtime_library" ++ [':']) := by decide
  have hthird : ",\"hexagon_debug_level\":".toList
      = ',' :: (Json.quoted "hexagon_debug_level" ++ [':']) := by decide
  have hlast : "\x7d".toList = ['\x7d'] := by rfl
  apply String.toList_inj.mp
  rw [Json.write, String.toList_ofList, members, Json.chars, Json.membersEnd, Json.membersEnd,
    Json.membersEnd]
  unfold stored
  simp only [String.toList_append, hfirst, hsecond, hthird, hlast, Json.toList_quote,
    Json.chars, Json.ofWord32, Json.numberChars, List.cons_append, List.append_assoc,
    List.nil_append]
  cases c.numWorkerThreads with
  | none => rfl
  | some n => rfl

/-- A configuration is read of an object when each of its fields is read of its member. -/
theorem ofJson?_object_eq_some_iff {list : List (String × Json)} {c : Config} :
    ofJson? (.object list) = some c ↔
      Json.memberValue? "num_worker_threads" Json.optionalWord32? initial.numWorkerThreads list
        = some c.numWorkerThreads ∧
      Json.memberValue? "treelite_runtime_library" Json.text? initial.treeliteRuntimeLibrary list
        = some c.treeliteRuntimeLibrary ∧
      Json.memberValue? "hexagon_debug_level" Json.word32? initial.hexagonDebugLevel list
        = some c.hexagonDebugLevel := by
  constructor
  · intro h
    -- All three are looked up first, and then read.
    obtain ⟨threads, hthreads, h⟩ := Option.bind_eq_some_iff.mp h
    obtain ⟨library, hlibrary, h⟩ := Option.bind_eq_some_iff.mp h
    obtain ⟨level, hlevel, h⟩ := Option.bind_eq_some_iff.mp h
    obtain ⟨threads', hthreads', h⟩ := Option.bind_eq_some_iff.mp h
    obtain ⟨library', hlibrary', h⟩ := Option.bind_eq_some_iff.mp h
    obtain ⟨level', hlevel', h⟩ := Option.bind_eq_some_iff.mp h
    cases h
    exact ⟨Option.bind_eq_some_iff.mpr ⟨threads, hthreads, hthreads'⟩,
      Option.bind_eq_some_iff.mpr ⟨library, hlibrary, hlibrary'⟩,
      Option.bind_eq_some_iff.mpr ⟨level, hlevel, hlevel'⟩⟩
  · rintro ⟨hthreads, hlibrary, hlevel⟩
    obtain ⟨threads, hthreads, hthreads'⟩ := Option.bind_eq_some_iff.mp hthreads
    obtain ⟨library, hlibrary, hlibrary'⟩ := Option.bind_eq_some_iff.mp hlibrary
    obtain ⟨level, hlevel, hlevel'⟩ := Option.bind_eq_some_iff.mp hlevel
    rw [ofJson?, hthreads, hlibrary, hlevel]
    show ofMembers? threads library level = _
    rw [ofMembers?, hthreads', hlibrary', hlevel']
    rfl

theorem ofJson?_members (c : Config) : ofJson? (.object c.members) = some c := by
  refine ofJson?_object_eq_some_iff.mpr ⟨?_, rfl, ?_⟩
  · exact Json.optionalWord32?_ofOptionalWord32 c.numWorkerThreads
  · exact Json.word32?_ofWord32 c.hexagonDebugLevel

/-- What is read of an object depends neither on the order of its members nor on those that are
not members of a configuration. -/
theorem ofJson?_perm {list list' : List (String × Json)}
    (h : (list.filter known).Perm (list'.filter known)) :
    ofJson? (.object list) = ofJson? (.object list') := by
  have hmember {name : String} (hname : name ∈ memberNames) :
      Json.member? name list = Json.member? name list' := by
    refine Json.member?_filter_perm (fun m hm => ?_) h
    rw [known, List.contains_iff_mem, hm]
    exact hname
  rw [ofJson?, ofJson?, hmember (by decide), hmember (by decide), hmember (by decide)]

/-- What is read of an object is read of it without members that have their initial values. -/
theorem ofJson?_filter {list : List (String × Json)} {c : Config} {keep : String × Json → Bool}
    (h : ofJson? (.object list) = some c)
    (hkeep : ∀ m ∈ list, keep m = false → m ∈ initial.members) :
    ofJson? (.object (list.filter keep)) = some c := by
  obtain ⟨hthreads, hlibrary, hlevel⟩ := ofJson?_object_eq_some_iff.mp h
  -- A member that was left out had the initial value, which is what its absence stands for.
  refine ofJson?_object_eq_some_iff.mpr ⟨?_, ?_, ?_⟩
  · refine Json.memberValue?_filter hthreads (fun j hj hdropped => ?_)
    have hinitial := hkeep _ hj hdropped
    obtain rfl : j = .null := by simpa [members, Json.ofOptionalWord32, initial] using hinitial
    rfl
  · refine Json.memberValue?_filter hlibrary (fun j hj hdropped => ?_)
    have hinitial := hkeep _ hj hdropped
    obtain rfl : j = .string "libtreelite_runtime.so" := by simpa [members, initial] using hinitial
    rfl
  · refine Json.memberValue?_filter hlevel (fun j hj hdropped => ?_)
    have hinitial := hkeep _ hj hdropped
    obtain rfl : j = Json.ofWord32 0 := by simpa [members, initial] using hinitial
    rfl

theorem ofStored?_eq {text : String} {j : Json} (h : Json.read? text = some j) :
    ofStored? text = ofJson? j := by
  rw [ofStored?, h]
  rfl

end Config

/-! ## §4. Devices -/

namespace Device

/-- The members of a device, in the order of writing. -/
def members (d : Device) : List (String × Json) :=
  [("device_type", .string d.kind.tag), ("device_id", Json.ofWord32 d.unit)]

/-- A device is written as the object of its members. -/
theorem stored_eq (d : Device) : d.stored = Json.write (.object d.members) := by
  have hfirst : "\x7b\"device_type\":".toList
      = '\x7b' :: (Json.quoted "device_type" ++ [':']) := by decide
  have hsecond : ",\"device_id\":".toList = ',' :: (Json.quoted "device_id" ++ [':']) := by decide
  have hlast : "\x7d".toList = ['\x7d'] := by rfl
  apply String.toList_inj.mp
  rw [Json.write, String.toList_ofList, members, Json.chars, Json.membersEnd, Json.membersEnd]
  unfold stored
  simp only [String.toList_append, hfirst, hsecond, hlast, Json.toList_quote, Json.chars,
    Json.ofWord32, Json.numberChars, List.cons_append, List.append_assoc, List.nil_append]

theorem ofJson?_members (d : Device) : ofJson? (.object d.members) = some d := by
  show (DeviceKind.ofTag? d.kind.tag >>= _) = _
  rw [DeviceKind.ofTag?_tag]
  show (Json.word32? (Json.ofWord32 d.unit) >>= _) = _
  rw [Json.word32?_ofWord32]
  rfl

theorem ofStored?_eq {text : String} {j : Json} (h : Json.read? text = some j) :
    ofStored? text = ofJson? j := by
  rw [ofStored?, h]
  rfl

end Device

/-! ## §5. The result -/

/-- **What is stored is read back.**  A configuration is read of its text, and has that text
again, whatever its path and its numbers are; so is a device.

The text of a configuration is an object of its members, and every list of members is the object
of some text.  Whatever text an object has, a configuration is read of it as of any object that
has the same members of a configuration in any order, with whatever members of other names
among them; and as of the object without any of the members that have their initial values. -/
theorem stored_is_read_back :
    (∀ c : Config, Config.ofStored? c.stored = some c ∧
      (Config.ofStored? c.stored).map Config.stored = some c.stored) ∧
    (∀ d : Device, Device.ofStored? d.stored = some d ∧
      (Device.ofStored? d.stored).map Device.stored = some d.stored) ∧
    (∀ c : Config, Json.read? c.stored = some (.object c.members)) ∧
    (∀ list : List (String × Json), ∃ text, Json.read? text = some (.object list)) ∧
    (∀ (text text' : String) (list list' : List (String × Json)),
      Json.read? text = some (.object list) → Json.read? text' = some (.object list') →
      (list.filter Config.known).Perm (list'.filter Config.known) →
        Config.ofStored? text' = Config.ofStored? text) ∧
    (∀ (text text' : String) (list : List (String × Json)) (keep : String × Json → Bool)
        (c : Config),
      Json.read? text = some (.object list) → Json.read? text' = some (.object (list.filter keep)) →
      (∀ m ∈ list, keep m = false → m ∈ Config.initial.members) →
      Config.ofStored? text = some c → Config.ofStored? text' = some c) := by
  -- What is written is the text of its members, and a text is read as what it was written of.
  have hconfig (c : Config) : Json.read? c.stored = some (.object c.members) := by
    rw [Config.stored_eq]
    exact Json.read?_write _
  have hdevice (d : Device) : Json.read? d.stored = some (.object d.members) := by
    rw [Device.stored_eq]
    exact Json.read?_write _
  refine ⟨fun c => ?_, fun d => ?_, hconfig, fun list => ⟨_, Json.read?_write (.object list)⟩,
    ?_, ?_⟩
  · rw [Config.ofStored?_eq (hconfig c), Config.ofJson?_members]
    exact ⟨rfl, rfl⟩
  · rw [Device.ofStored?_eq (hdevice d), Device.ofJson?_members]
    exact ⟨rfl, rfl⟩
  · intro text text' list list' htext htext' hperm
    rw [Config.ofStored?_eq htext, Config.ofStored?_eq htext', Config.ofJson?_perm hperm]
  · intro text text' list keep c htext htext' hkeep hc
    rw [Config.ofStored?_eq htext] at hc
    rw [Config.ofStored?_eq htext']
    exact Config.ofJson?_filter hc hkeep

/-- Four threads and level one are read of a text with the members in another order, with a note
among them, and without the initial path. -/
theorem shuffled_text_is_read_back :
    Config.ofStored? "\x7b\"hexagon_debug_level\":1,\"note\":[null],\"num_worker_threads\":4\x7d"
      = some { Config.initial with numWorkerThreads := some 4, hexagonDebugLevel := 1 } := by
  obtain ⟨hread, -, hmembers, hwritten, hperm, hfilter⟩ := stored_is_read_back
  let c : Config := { Config.initial with numWorkerThreads := some 4, hexagonDebugLevel := 1 }
  let keep (m : String × Json) : Bool := m.1 != "treelite_runtime_library"
  obtain ⟨text, htext⟩ := hwritten (c.members.filter keep)
  -- The member that is left out has the value of a new configuration.
  have hkeep : ∀ m ∈ c.members, keep m = false → m ∈ Config.initial.members := by
    intro m hm hdropped
    simp only [c, Config.members, List.mem_cons, List.not_mem_nil, or_false] at hm
    rcases hm with rfl | rfl | rfl
    · exact absurd hdropped (by decide)
    · exact List.mem_cons_of_mem _ List.mem_cons_self
    · exact absurd hdropped (by decide)
  have hc := hfilter _ _ _ keep c (hmembers c) htext hkeep (hread c).1
  have hshuffled : Json.write (.object [("hexagon_debug_level", Json.ofWord32 1),
      ("note", .array [.null]), ("num_worker_threads", Json.ofWord32 4)])
        = "\x7b\"hexagon_debug_level\":1,\"note\":[null],\"num_worker_threads\":4\x7d" := by
    apply String.toList_inj.mp
    rw [Json.write, String.toList_ofList]
    decide
  -- The text has the others in another order, with one between them that is not known.
  have hswap : ((c.members.filter keep).filter Config.known).Perm
      ([("hexagon_debug_level", Json.ofWord32 1), ("note", .array [.null]),
        ("num_worker_threads", Json.ofWord32 4)].filter Config.known) := List.Perm.swap _ _ _
  rw [← hshuffled, hperm _ _ _ _ htext (Json.read?_write _) hswap]
  exact hc

end ModelAdapter
