import ModelAdapter.Loading
import ModelAdapter.Proofs.Treelite.Functions

/-! # Who is to blame for a failure

An operation can fail because the engine refused a call, or because the model refused
it.  A caller may go on after the former and not after the latter, so the two must
not be mixed up, whatever the engine refuses and whatever it refuses while the model
tidies up.

  * **The model** (`OnlyFatal`): what it refuses by itself is fatal.
  * **Above** (`Blamed`): a refusal ends the work of an operation, and what follows it
    only gives something back.
  * **Below** (`Attributed`): the same at the C functions, with the name of the one
    that failed and the text that was read right after it.
-/

namespace ModelAdapter

/-! ## §1. The model -/

/-- If it is a failure, it is a fatal one. -/
def OnlyFatal {α : Type} (result : Except Fault α) : Prop :=
  ∀ fault, result = .error fault → fault.severity = .fatal

namespace OnlyFatal

variable {α β : Type}

theorem ok (a : α) : OnlyFatal (.ok a) := by
  intro fault h
  cases h

theorem error {fault : Fault} (h : fault.severity = .fatal) :
    OnlyFatal (α := α) (.error fault) := by
  rintro _ ⟨⟩
  exact h

theorem bind {x : Except Fault α} {f : α → Except Fault β} (hx : OnlyFatal x)
    (hf : ∀ a, OnlyFatal (f a)) : OnlyFatal (x >>= f) := by
  cases x with
  | error fault => exact error (hx fault rfl)
  | ok a => exact hf a

theorem map {x : Except Fault α} (f : α → β) (hx : OnlyFatal x) : OnlyFatal (x.map f) := by
  cases x with
  | error fault => exact error (hx fault rfl)
  | ok a => exact ok (f a)

theorem ite {c : Prop} [Decidable c] {x y : Except Fault α} (hx : OnlyFatal x)
    (hy : OnlyFatal y) : OnlyFatal (if c then x else y) := by
  split
  · exact hx
  · exact hy

end OnlyFatal

theorem onlyFatal_lookup (count : Nat) (nameAt : Nat → Except Fault String) (name : String) :
    OnlyFatal (lookup count nameAt name) := by
  unfold lookup
  dsimp only
  split
  · exact .ok _
  · exact .error rfl

theorem onlyFatal_readFloats {index : Nat} {size : Except Fault Int}
    {read : Nat → Except Fault (List UInt8)} (hsize : OnlyFatal size)
    (hread : ∀ length, OnlyFatal (read length)) : OnlyFatal (readFloats index size read) := by
  apply hsize.bind
  intro n
  refine .ite (.error rfl) ?_
  exact (hread _).bind (fun _ => .ok _)

namespace FileTree

theorem onlyFatal_list (t : FileTree) (dir : Path) : OnlyFatal (t.list dir) := by
  unfold list
  split
  · exact .ok _
  · exact .error rfl

theorem onlyFatal_listAll (t : FileTree) (dirs : List Path) : OnlyFatal (t.listAll dirs) := by
  induction dirs with
  | nil => exact .ok _
  | cons dir dirs ih => exact (t.onlyFatal_list dir).bind (fun _ => ih.bind (fun _ => .ok _))

theorem onlyFatal_findSymbols (exported needed : List String) :
    OnlyFatal (findSymbols exported needed) := by
  induction needed with
  | nil => exact .ok ()
  | cons symbol needed ih => exact .ite ih (.error rfl)

/-- A shared object that cannot be used is refused for good. -/
theorem onlyFatal_bindLibrary (t : FileTree) (path : Path) (needed : List String) :
    OnlyFatal (t.bindLibrary path needed) := by
  have hopened : OnlyFatal (t.openLibrary path) := by
    unfold openLibrary
    refine .ite ?_ ?_ <;> split
    · exact .ok _
    · exact .error rfl
    · exact .error rfl
    · exact .ok _
    · exact .error rfl
  exact hopened.bind (fun exported => onlyFatal_findSymbols exported needed)

end FileTree

theorem Csr.onlyFatal_ofDense (values : List Binary32) (numRow denseCols numCol : Nat) :
    OnlyFatal (ofDense values numRow denseCols numCol) :=
  .ite (.error rfl) (.ite (.error rfl) (.ite (.error rfl) (.ite (.error rfl)
    (.ite (.error rfl) (.ok _)))))

namespace Treelite

open Drive (Matches Recorded Satisfies)

/-- Where no artifact is found, there is nothing to go on with. -/
theorem onlyFatal_locate (t : FileTree) (dirs : List Path) : OnlyFatal (locate t dirs).1 := by
  have hscan : OnlyFatal (scan t dirs) := (t.onlyFatal_listAll dirs).map _
  unfold locate
  cases hfound : scan t dirs with
  | error fault => exact .error (hscan fault hfound)
  | ok found =>
    unfold Found.artifact
    dsimp only
    split
    · exact .ok _
    · exact .error rfl

theorem onlyFatal_checkIndex (kind : String) (index : Nat) : OnlyFatal (checkIndex kind index) :=
  .ite (.error rfl) (.ok _)

theorem onlyFatal_extent (axis : Nat) (n : Int) : OnlyFatal (extent axis n) :=
  .ite (.error rfl) (.ok _)

namespace Model

theorem onlyFatal_checkShape (m : Model) (shape : List Int) : OnlyFatal (m.checkShape shape) := by
  unfold checkShape
  split
  · apply (onlyFatal_extent _ _).bind
    intro numRow
    apply (onlyFatal_extent _ _).bind
    intro numCol
    exact .ite (.error rfl) (.ok _)
  · exact .error rfl

theorem onlyFatal_readMatrix (m : Model) (shape : List Int) (bytes : List UInt8) :
    OnlyFatal (m.readMatrix shape bytes) := by
  apply (m.onlyFatal_checkShape shape).bind
  rintro ⟨numRow, numCol⟩
  exact .ite (.error rfl) (.ite (.error rfl) (Csr.onlyFatal_ofDense _ _ _ _))

theorem onlyFatal_outputBytes (m : Model) (index length : Nat) :
    OnlyFatal (m.outputBytes index length) := by
  apply (onlyFatal_checkIndex _ _).bind
  intro _
  split
  · exact .error rfl
  · exact .ite (.error rfl) (.ite (.error rfl) (.ok _))

theorem onlyFatal_outputSize (m : Model) (index : Nat) : OnlyFatal (m.outputSize index) :=
  (onlyFatal_checkIndex _ _).bind (fun _ => .ok _)

/-- A question that is refused is refused for good. -/
theorem onlyFatal_answer (m : Model) (query : Query) : OnlyFatal (m.answer query).result := by
  cases query with
  | backend | device | numInputs | numOutputs | numWeights => exact .ok _
  | inputName i => exact ((onlyFatal_checkIndex _ _).bind (fun _ => .ok _)).map _
  | inputType | inputShape | inputSize | inputDim | outputShape | outputDim | outputType =>
    exact (onlyFatal_checkIndex _ _).bind (fun _ => .ok _)
  | inputIndex name => exact (onlyFatal_lookup _ _ _).map _
  | outputSize i => exact (m.onlyFatal_outputSize i).map _
  | getInput =>
    show OnlyFatal (.error (.unsupported "GetInput" .treelite))
    exact .error rfl
  | weightNames | weightName => exact .error rfl
  | getOutput i buffer =>
    -- A copy fails as reading does.
    have hcopy : OnlyFatal (copyOut (m.outputBytes i buffer.length) buffer).1 := by
      have hread := m.onlyFatal_outputBytes i buffer.length
      cases hbytes : m.outputBytes i buffer.length with
      | error fault => exact .error (hread fault hbytes)
      | ok bytes => exact .ok ()
    exact hcopy.map _
  | getOutputFloats i =>
    exact (onlyFatal_readFloats (m.onlyFatal_outputSize i) (m.onlyFatal_outputBytes i)).map _

end Model

/-! ## §2. Above -/

/-- The fault with which something was reported to have failed. -/
def reported? {α : Type} : Except Report α → Option Fault
  | .ok _ => none
  | .error report => some report.fault

theorem faultOf?_map {α β : Type} (f : α → β) (result : Except Fault α) :
    faultOf? (result.map f) = faultOf? result := by
  cases result <;> rfl

/-- Who is to blame for what came of some calls: a call that works was refused, with the fault of
the whole, and was the last one to work; or no call that works was refused, and the whole, if it
failed, failed for good. -/
inductive Blamed : Option Fault → List (Exchange interface) → Prop
  | engine {before after : List (Exchange interface)} {x : Exchange interface} {fault : Fault}
      (earlier : ∀ z ∈ before, z.call.Works → fault? z.call z.reply = none) (works : x.call.Works)
      (refused : fault? x.call x.reply = some fault) (later : ∀ z ∈ after, ¬ z.call.Works) :
      Blamed (some fault) (before ++ x :: after)
  | model {failure? : Option Fault} {xs : List (Exchange interface)}
      (fatal : ∀ fault, failure? = some fault → fault.severity = .fatal)
      (accepted : ∀ z ∈ xs, z.call.Works → fault? z.call z.reply = none) : Blamed failure? xs

namespace Blamed

variable {failure? : Option Fault} {x : Exchange interface} {xs ys : List (Exchange interface)}

theorem refused {fault : Fault} (works : x.call.Works)
    (refused : fault? x.call x.reply = some fault) : Blamed (some fault) [x] :=
  @Blamed.engine [] [] x fault (by simp) works refused (by simp)

/-- What fails without a call, or does not fail. -/
theorem of_onlyFatal {α : Type} {result : Except Fault α} (h : OnlyFatal result) :
    Blamed (faultOf? result) [] := by
  refine .model (fun fault hfault => ?_) (by simp)
  cases result with
  | ok a => cases hfault
  | error fault' =>
    cases hfault
    exact h fault rfl

/-- One more call before the others, which was not refused. -/
theorem cons (hx : fault? x.call x.reply = none) (h : Blamed failure? xs) :
    Blamed failure? (x :: xs) := by
  cases h with
  | @engine before after _ _ hearlier hworks hrefused hlater =>
    have hboth : ∀ z ∈ x :: before, z.call.Works → fault? z.call z.reply = none := by
      simpa [hx] using hearlier
    exact .engine hboth hworks hrefused hlater
  | model hfatal haccepted =>
    refine .model hfatal ?_
    simpa [hx] using haccepted

/-- Calls after the others that only give something back. -/
theorem append (h : Blamed failure? xs) (hys : ∀ z ∈ ys, ¬ z.call.Works) :
    Blamed failure? (xs ++ ys) := by
  -- The call that is to blame stays where it is; what comes later only gives back.
  cases h with
  | @engine before after x _ hearlier hworks hrefused hlater =>
    rw [List.append_assoc, List.cons_append]
    refine .engine hearlier hworks hrefused ?_
    intro z hz
    rcases List.mem_append.mp hz with hz | hz
    · exact hlater z hz
    · exact hys z hz
  | model hfatal haccepted =>
    refine .model hfatal ?_
    intro z hz hworks
    rcases List.mem_append.mp hz with hz | hz
    · exact haccepted z hz hworks
    · exact absurd hworks (hys z hz)

end Blamed

theorem not_works_of_released {input : Option Input} {xs : List (Exchange interface)}
    (h : Released input xs) : ∀ z ∈ xs, ¬ z.call.Works := by
  cases h <;> simp [Call.Works]

theorem not_works_of_closed {input : Option Input} {predictor : Handle}
    {xs : List (Exchange interface)} (h : Closed input predictor xs) :
    ∀ z ∈ xs, ¬ z.call.Works := by
  cases h with
  | freed hreleased reply =>
    intro z hz
    rcases List.mem_append.mp hz with hz | hz
    · exact not_works_of_released hreleased z hz
    · rw [List.mem_singleton.mp hz]
      exact id

theorem blamed_of_queried {predictor : Handle} {result : Except Report Schema}
    {xs : List (Exchange interface)} (h : Queried predictor result xs) :
    Blamed (reported? result) xs := by
  cases h with
  | noFeatures fault => exact .refused trivial rfl
  | noGroups features fault => exact .cons rfl (.refused trivial rfl)
  | noWidth features groups fault => exact .cons rfl (.cons rfl (.refused trivial rfl))
  | tooWide features groups width hwide =>
    refine .cons rfl (.cons rfl (.cons rfl (.model ?_ (by simp))))
    rintro _ ⟨⟩
    rfl
  | known features groups width hfits =>
    exact .cons rfl (.cons rfl (.cons rfl (.model nofun (by simp))))

/-- Whatever is refused while a model is built, the predictor is given back last. -/
theorem blamed_of_building {artifact : Artifact} {device : Device} {threads : Int32}
    {result : Except Report Model} {xs : List (Exchange interface)}
    (h : Building artifact device threads result xs) : Blamed (reported? result) xs := by
  cases h with
  | notLoaded fault => exact .refused trivial rfl
  | notQueried hqueried hclosed =>
    -- The query is to blame, and what it failed for is given back after it.
    exact .cons rfl ((blamed_of_queried hqueried).append (not_works_of_closed hclosed))
  | ready hqueried => exact .cons rfl (blamed_of_queried hqueried)

theorem blamed_of_setsInput {m m' : Model} {shape : List Int} {bytes : List UInt8}
    {xs : List (Exchange interface)} {result : Except Fault Unit}
    (h : SetsInput m shape bytes xs result m') : Blamed (faultOf? result) xs := by
  cases h with
  | refused hunread =>
    have hread := m.onlyFatal_readMatrix shape bytes
    exact .of_onlyFatal (.error (hread _ hunread))
  | notAssembled hread fault => exact .refused trivial rfl
  | @replaced matrix _ hread batch hreleased =>
    have hassembled : Blamed none [⟨Call.assemble matrix, (.ok batch : Except Fault Handle)⟩] :=
      .cons rfl (.model nofun (by simp))
    exact hassembled.append (not_works_of_released hreleased)

theorem blamed_of_runs {m m' : Model} {xs : List (Exchange interface)}
    {result : Except Fault Unit} (h : Runs m xs result m') : Blamed (faultOf? result) xs := by
  cases h with
  | noInput hunset => exact .of_onlyFatal (.error rfl)
  | predicted hset result left =>
    cases result with
    | error fault => exact .refused trivial rfl
    | ok count => exact .cons rfl (.model nofun (by simp))

/-- **One operation** fails for a refused call, the last one that works, or it fails for good. -/
theorem blamed_of_transition {m m' : Model} {operation : Operation}
    {xs : List (Exchange interface)} {outcome : Outcome}
    (h : Transition m operation xs outcome m') : Blamed (faultOf? outcome.result) xs := by
  cases h with
  | asked query => exact .of_onlyFatal (m.onlyFatal_answer query)
  | setInput hsets | setInputFloats hsets =>
    rw [Outcome.plain_result, faultOf?_map]
    exact blamed_of_setsInput hsets
  | run hruns =>
    rw [Outcome.plain_result, faultOf?_map]
    exact blamed_of_runs hruns
  | setNumThreads | useCpuAffinity => exact .of_onlyFatal (.error rfl)

/-! ## §3. Below -/

/-- The same at the C functions: a function that works returned a status other than 0 and was the
last one to work, the last error was read right after it, and the whole failed with the name of the
function and the text; or no function that works did so, and the whole, if it failed, failed for
good. -/
inductive Attributed : Option Fault → List (Exchange Abi.interface) → Prop
  | refused {before after : List (Exchange Abi.interface)} {y : Exchange Abi.interface}
      {text : Option (List UInt8)} (earlier : ∀ z ∈ before, ¬ Abi.Refused z)
      (refused : Abi.Refused y) (later : ∀ z ∈ after, ¬ z.call.Works) :
      Attributed (some (.treelite y.call.function (errorText text)))
        (before ++ y :: ⟨Abi.Call.lastError, text⟩ :: after)
  | accepted {failure? : Option Fault} {ys : List (Exchange Abi.interface)}
      (fatal : ∀ fault, failure? = some fault → fault.severity = .fatal)
      (accepted : ∀ z ∈ ys, ¬ Abi.Refused z) : Attributed failure? ys

/-- A failure is recoverable exactly if a C function that works was refused. -/
theorem Attributed.recoverable_iff {failure? : Option Fault} {ys : List (Exchange Abi.interface)}
    (h : Attributed failure? ys) :
    (∃ fault, failure? = some fault ∧ fault.severity = .recoverable) ↔ ∃ y ∈ ys, Abi.Refused y := by
  cases h with
  | refused _ hrefused _ => exact iff_of_true ⟨_, rfl, rfl⟩ ⟨_, by simp, hrefused⟩
  | accepted hfatal haccepted =>
    refine iff_of_false ?_ ?_
    · rintro ⟨fault, hfault, hrecoverable⟩
      rw [hfatal fault hfault] at hrecoverable
      cases hrecoverable
    · rintro ⟨y, hy, hrefused⟩
      exact haccepted y hy hrefused

namespace Served

variable {xs : List (Exchange interface)} {ys : List (Exchange Abi.interface)}

/-- Where no call works, no C function does. -/
theorem not_works (h : Served xs ys) (hxs : ∀ x ∈ xs, ¬ x.call.Works) :
    ∀ y ∈ ys, ¬ y.call.Works := by
  intro y hy
  obtain ⟨x, hx, chunk, hserves, hy⟩ := h.exists_serves hy
  have hidle := hxs x hx
  -- A call is served by its own function, and reading the last error does not count as work.
  cases hserves with
  | accepted =>
    rw [List.mem_singleton.mp hy]
    exact fun hworks => hidle (works_toAbi_iff.mp hworks)
  | refused =>
    rcases List.mem_pair.mp hy with rfl | rfl
    · exact fun hworks => hidle (works_toAbi_iff.mp hworks)
    · exact id

/-- Where no call that works is refused, no C function that works is. -/
theorem not_refused (h : Served xs ys)
    (hxs : ∀ x ∈ xs, x.call.Works → fault? x.call x.reply = none) :
    ∀ y ∈ ys, ¬ Abi.Refused y := by
  intro y hy hrefused
  obtain ⟨x, hx, chunk, hserves, hy⟩ := h.exists_serves hy
  have hnone := hxs x hx
  cases hserves with
  | accepted haccepted =>
    rw [List.mem_singleton.mp hy] at hrefused
    exact hrefused.2 haccepted
  | refused _ text htold =>
    rcases List.mem_pair.mp hy with rfl | rfl
    · cases htold.symm.trans (hnone (works_toAbi_iff.mp hrefused.1))
    · -- Reading the last error is no work.
      exact hrefused.1

/-- **The blame** is the same above and below. -/
theorem attributed {failure? : Option Fault} (h : Served xs ys) (hblamed : Blamed failure? xs) :
    Attributed failure? ys := by
  cases hblamed with
  | model hfatal haccepted => exact .accepted hfatal (h.not_refused haccepted)
  | @engine before after x fault hearlier hworks hrefused hlater =>
    -- The record below is cut where the refused call is served.
    obtain ⟨ys, zs, rfl, hbefore, hrest⟩ := h.of_append
    cases hrest with
    | @cons _ _ chunk zs hfirst hafter =>
      cases hfirst with
      | accepted _ hsilent => cases hrefused.symm.trans hsilent
      | @refused call _ answer hstatus text htold =>
        cases hrefused.symm.trans htold
        have hfunction : Abi.Refused ⟨call.toAbi, answer⟩ := ⟨works_toAbi_iff.mpr hworks, hstatus⟩
        exact .refused (hbefore.not_refused hearlier) hfunction (hafter.not_works hlater)

end Served

end Treelite

/-! ## §4. Loading -/

namespace Machine

open Treelite (Attributed reported?)

/-- **Loading** fails for a refused C function, the last one that works, or for good: without an
artifact or a library no function is called at all. -/
theorem loadTreelite_attributed {ρ σ : Type} (m : Machine ρ σ) (E : Engines ρ σ)
    (dirs : List Path) (device : Device) (config : Config)
    (hpath : ∀ artifact, (Treelite.locate m.files dirs).1 = .ok artifact →
      '\x00' ∉ artifact.modelLib.display.toList) :
    ∃ ys, (m.loadTreelite E dirs device config).2.treelite.engine.exchanges
        = m.treelite.engine.exchanges ++ ys ∧
      Attributed (reported? (m.loadTreelite E dirs device config).1) ys := by
  have hlocated := Treelite.onlyFatal_locate m.files dirs
  have hbound := m.files.onlyFatal_bindLibrary config.treeliteRuntimeLibrary Treelite.symbols
  -- What fails before the engine is there calls nothing.
  have hnothing {fault : Fault} (hfatal : fault.severity = .fatal) :
      ∃ ys, m.treelite.engine.exchanges = m.treelite.engine.exchanges ++ ys ∧
        Attributed (some fault) ys := by
    refine ⟨[], (List.append_nil _).symm, .accepted ?_ (by simp)⟩
    rintro _ ⟨⟩
    exact hfatal
  unfold loadTreelite
  rcases hlocate : Treelite.locate m.files dirs with ⟨fault | artifact, events⟩
  · rw [hlocate] at hlocated
    exact hnothing (hlocated fault rfl)
  · rw [hlocate] at hpath
    dsimp only
    split
    · rename_i fault hrefused
      exact hnothing (hbound fault hrefused)
    · have hstepwise : Treelite.Stepwise (σ := σ) (Treelite.build artifact device
          (config.workerThreads m.environment.texts).1) :=
        .of_matches (fun h => Treelite.build_matches h (hpath artifact rfl) device _)
      obtain ⟨xs, ys, hbuilding, hys, hserved⟩ := Treelite.exists_served_of_satisfies hstepwise
        (Treelite.build_satisfies artifact device _) E.treelite _
      exact ⟨ys, hys, hserved.attributed (Treelite.blamed_of_building hbuilding)⟩

end Machine

end ModelAdapter
