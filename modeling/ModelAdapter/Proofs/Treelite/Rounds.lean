import ModelAdapter.Proofs.Treelite.Readiness

/-! # A round of inference forgets what came before

Setting an input begins a round, and what a model does in a round depends on the
input alone: not on earlier inputs, not on earlier predictions, and not on
operations that failed.  This is a statement about two sessions.  They may have
different engines, and different operations behind them; once both have set the
same input, and as long as their engines answer the predictions alike, nothing
that either model answers tells which of the two it is.

  * **Rounds** (`Round`): all that a model with an input holds, apart from its
    device, its files and its handles.  It decides every answer but that for the
    device (`answer_of_round`).
  * **One session**: an operation that sets the input begins the same round in
    every model of the same schema; a run takes a round on by what the engine
    replies to one prediction (`Round.Run`); any other operation leaves it
    (`inRound_of_reaches`).
  * **Two sessions**: runs with like replies lead from one round to one round
    (`Round.Ran.unique`).
-/

namespace ModelAdapter.Treelite

/-! ## §1. Rounds -/

/-- What a model with an input holds, apart from its device, its files and its handles. -/
structure Round where
  schema : Schema
  matrix : Csr
  output : List Binary32
  outputReady : Bool

namespace Round

/-- The round that an input begins: nothing is left in the output. -/
def begun (schema : Schema) (matrix : Csr) : Round where
  schema := schema
  matrix := matrix
  output := []
  outputReady := false

/-- The slots that the next run hands to the engine. -/
def slots (r : Round) : List Binary32 :=
  resize r.output (wrap (r.matrix.numRow * r.schema.numOutputGroup)) Binary32.zero

/-- The round after a run that got a reply. -/
def after (r : Round) (reply : Except Fault Nat × List Binary32) : Round :=
  { r with output := overwrite r.slots reply.2
           outputReady := r.outputReady || reply.1.isOk }

/-- The first run of a round hands over a slot for each row and output group, all of them zero. -/
theorem slots_begun (schema : Schema) (matrix : Csr) :
    (begun schema matrix).slots
      = List.replicate (wrap (matrix.numRow * schema.numOutputGroup)) Binary32.zero := by
  simp [slots, begun, resize]

end Round

/-- The round that a model is in, if it has an input. -/
def Model.round? (m : Model) : Option Round :=
  m.input.map (fun input => ⟨m.schema, input.matrix, m.output, m.outputReady⟩)

/-- The round decides every answer but that for the device. -/
theorem answer_of_round {m m' : Model} {r : Round} (h : m.round? = some r)
    (h' : m'.round? = some r) {query : Query} (hquery : query ≠ .device) :
    m.answer query = m'.answer query := by
  obtain ⟨device, artifact, predictor, schema, input, output, outputReady⟩ := m
  obtain ⟨device', artifact', predictor', schema', input', output', outputReady'⟩ := m'
  obtain ⟨⟨matrix, batch⟩, rfl, rfl⟩ := Option.map_eq_some_iff.mp h
  obtain ⟨⟨matrix', batch'⟩, rfl, hround⟩ := Option.map_eq_some_iff.mp h'
  -- The two models are left to differ in device, files and handles.
  cases hround
  cases query with
  | device => exact absurd rfl hquery
  | _ => rfl

theorem unready_of_begun {m : Model} {schema : Schema} {matrix : Csr}
    (h : m.round? = some (.begun schema matrix)) (buffer : List UInt8) :
    m.answer (.getOutput 0 buffer) = .filled (.error .outputNotReady, buffer) := by
  obtain ⟨input, hset, hround⟩ := Option.map_eq_some_iff.mp h
  have hready : m.outputReady = false := congrArg Round.outputReady hround
  rw [answer_getOutput, outputBytes_of_unready hset hready]
  rfl

/-! ## §2. One session -/

/-- One run takes a round on by the reply to one prediction over its slots. -/
inductive Round.Run (r : Round) : Step interface → Round → Prop
  | predicted (predictor batch : Handle) (reply : Except Fault Nat × List Binary32) :
      Run r
        { operation := .run
          outcome := .plain (reply.1.map (fun _ => .done))
          exchanges := [⟨Call.predictBatch predictor batch false false r.slots, reply⟩] }
        (r.after reply)

/-- Several runs, one after the other. -/
inductive Round.Ran : Round → List (Step interface) → Round → Prop
  | done (r : Round) : Ran r [] r
  | run {r mid r' : Round} {s : Step interface} {rest : List (Step interface)}
      (first : r.Run s mid) (others : Ran mid rest r') : Ran r (s :: rest) r'

theorem Round.Ran.concat {r mid r' : Round} {runs : List (Step interface)} {s : Step interface}
    (h : Ran r runs mid) (hlast : mid.Run s r') : Ran r (runs ++ [s]) r' := by
  induction h with
  | done r => exact .run hlast (.done r')
  | run hfirst _ ih => exact .run hfirst (ih hlast)

theorem Round.Run.matrix_eq {r r' : Round} {s : Step interface} (h : r.Run s r') :
    r'.matrix = r.matrix := by
  cases h
  rfl

theorem Round.Ran.matrix_eq {r r' : Round} {runs : List (Step interface)} (h : Ran r runs r') :
    r'.matrix = r.matrix := by
  induction h with
  | done => rfl
  | run hfirst _ ih => exact ih.trans hfirst.matrix_eq

theorem matrix_of_round {m : Model} {input : Input} {schema : Schema} {matrix : Csr} {r : Round}
    {runs : List (Step interface)} (hset : m.input = some input) (hround : m.round? = some r)
    (hran : Round.Ran (.begun schema matrix) runs r) : input.matrix = matrix := by
  obtain ⟨input', hset', rfl⟩ := Option.map_eq_some_iff.mp hround
  cases hset.symm.trans hset'
  exact hran.matrix_eq

section
variable {m m' : Model} {r : Round} {s : Step interface}

/-- An operation that sets the input begins a round of the matrix that was handed over. -/
theorem round_of_sets (h : Transition m s.operation s.exchanges s.outcome m')
    (hsets : s.setsInput = true) :
    ∃ payload matrix, s.operation.payload? = some payload ∧
      m.readMatrix payload.shape payload.bytes = .ok matrix ∧
      m'.round? = some (.begun m.schema matrix) := by
  obtain ⟨payload, matrix, batch, _, hpayload, hread, -, -, rfl⟩ := setsInput_inv h hsets
  exact ⟨payload, matrix, hpayload, hread, rfl⟩

/-- A run takes the round of a model on. -/
theorem round_of_run (h : Transition m s.operation s.exchanges s.outcome m')
    (hrun : s.isRun = true) (hround : m.round? = some r) :
    ∃ r', r.Run s r' ∧ m'.round? = some r' := by
  obtain ⟨operation, outcome, exchanges⟩ := s
  obtain ⟨input, hset, rfl⟩ := Option.map_eq_some_iff.mp hround
  cases h with
  | run hruns =>
    -- There is an input, since there is a round, so the run put its call.
    cases hruns with
    | noInput hunset => cases hset.symm.trans hunset
    | predicted hset' result left =>
      cases hset.symm.trans hset'
      have hpredicted := Round.Run.predicted (r := ⟨m.schema, input.matrix, m.output,
        m.outputReady⟩) m.predictor input.batch (result, left)
      refine ⟨_, ?_, congrArg (Option.map _) hset⟩
      cases result <;> exact hpredicted
  | asked | setInput | setInputFloats | setNumThreads | useCpuAffinity => cases hrun

theorem readMatrix_congr (h : m.schema = m'.schema) (shape : List Int) (bytes : List UInt8) :
    m.readMatrix shape bytes = m'.readMatrix shape bytes := by
  unfold Model.readMatrix Model.checkShape
  rw [h]

/-- No operation changes the schema. -/
theorem schema_of_transition (h : Transition m s.operation s.exchanges s.outcome m') :
    m'.schema = m.schema := by
  -- Only setting an input and running change the model at all.
  cases hsets : s.setsInput with
  | true =>
    obtain ⟨_, _, _, _, -, -, -, -, rfl⟩ := setsInput_inv h hsets
    rfl
  | false =>
    cases hrun : s.isRun with
    | true =>
      obtain ⟨_, -, hruns⟩ := isRun_inv h hrun
      generalize s.exchanges = xs at hruns
      cases hruns <;> rfl
    | false => rw [eq_of_other h hsets hrun]

/-- What a model says of its round: it began with the input of `s`, and `runs` took it on. -/
def InRound (m : Model) (s : Step interface) (runs : List (Step interface)) : Prop :=
  ∃ payload matrix r, s.operation.payload? = some payload ∧
    m.readMatrix payload.shape payload.bytes = .ok matrix ∧
    Round.Ran (.begun m.schema matrix) runs r ∧ m.round? = some r

/-- **The round of a model** is told by the input that was set last and the runs since then. -/
theorem inRound_of_reaches {m₀ : Model} {steps : List (Step interface)}
    (h : Reaches Transition m₀ steps m) :
    ∀ {s : Step interface}, latestInput steps = some s → InRound m s (runsSinceInput steps) := by
  -- On the operations; each one begins a round, takes it on, or changes nothing.
  induction h with
  | start =>
    intro s hlatest
    cases hlatest
  | @step steps m m' last hbefore hlast ih =>
    intro s hlatest
    have hschema : m'.schema = m.schema := schema_of_transition hlast
    cases hsets : last.setsInput with
    | true =>
      rw [latestInput_of_sets hsets] at hlatest
      cases hlatest
      obtain ⟨payload, matrix, hpayload, hread, hround⟩ := round_of_sets hlast hsets
      rw [runsSinceInput_of_sets hsets]
      refine ⟨payload, matrix, _, hpayload, ?_, .done _, ?_⟩
      · rw [readMatrix_congr hschema]
        exact hread
      · rw [hschema]
        exact hround
    | false =>
      rw [latestInput_of_not_sets hsets] at hlatest
      obtain ⟨payload, matrix, r, hpayload, hread, hran, hround⟩ := ih hlatest
      rw [← readMatrix_congr hschema] at hread
      rw [← hschema] at hran
      cases hrun : last.isRun with
      | true =>
        obtain ⟨r', hnext, hround'⟩ := round_of_run hlast hrun hround
        rw [runsSinceInput_of_run hsets hrun]
        exact ⟨payload, matrix, r', hpayload, hread, hran.concat hnext, hround'⟩
      | false =>
        rw [runsSinceInput_of_other hsets hrun]
        refine ⟨payload, matrix, r, hpayload, hread, hran, ?_⟩
        rw [eq_of_other hlast hsets hrun]
        exact hround

end

/-- A model has nothing of earlier rounds in its output: before the first run of the round nothing
can be read, and that run hands over zeros, one for each row and output group. -/
structure FromScratch (m : Model) (matrix : Csr) (runs : List (Step interface)) : Prop where
  unready : runs = [] → ∀ buffer,
    m.answer (.getOutput 0 buffer) = .filled (.error .outputNotReady, buffer)
  zeroed : ∀ first rest, runs = first :: rest → ∃ predictor batch reply,
    first.exchanges = [⟨Call.predictBatch predictor batch false false (List.replicate
      (wrap (matrix.numRow * m.schema.numOutputGroup)) Binary32.zero), reply⟩]

theorem fromScratch_of_inRound {m : Model} {s : Step interface} {runs : List (Step interface)}
    (h : InRound m s runs) : ∃ input, m.input = some input ∧ FromScratch m input.matrix runs := by
  obtain ⟨_, matrix, r, -, -, hran, hround⟩ := h
  obtain ⟨input, hset, -⟩ := Option.map_eq_some_iff.mp hround
  rw [← matrix_of_round hset hround hran] at hran
  refine ⟨input, hset, ?_, ?_⟩
  · intro hnone buffer
    -- Without a run the round is as it began.
    rw [hnone] at hran
    cases hran
    exact unready_of_begun hround buffer
  · intro first rest hruns
    rw [hruns] at hran
    -- The first run is handed the slots of a new round.
    cases hran with
    | run hfirst _ =>
      obtain ⟨predictor, batch, reply⟩ := hfirst
      rw [← Round.slots_begun]
      exact ⟨predictor, batch, reply, rfl⟩

/-! ## §3. Two sessions -/

/-- A way to predict: the reply to a call, from the matrix of the batch and the slots handed
over. -/
abbrev Predictor := Csr → List Binary32 → Except Fault Nat × List Binary32

/-- The engine answered the predictions of an operation as `f` does for a matrix. -/
def AnsweredBy (f : Predictor) (matrix : Csr) (s : Step interface) : Prop :=
  ∀ predictor batch verbose margin slots reply,
    (⟨Call.predictBatch predictor batch verbose margin slots, reply⟩ : Exchange interface)
      ∈ s.exchanges → reply = f matrix slots

/-- Two engines answered the predictions of two operations alike, each for its own matrix. -/
def AnsweredAlike (matrix matrix' : Csr) (s s' : Step interface) : Prop :=
  ∃ f, AnsweredBy f matrix s ∧ AnsweredBy f matrix' s'

/-- Two runs in the same round that are answered alike come out alike. -/
theorem Round.Run.unique {r r₁ r₂ : Round} {s s' : Step interface} (h : r.Run s r₁)
    (h' : r.Run s' r₂) (halike : AnsweredAlike r.matrix r.matrix s s') :
    s.outcome = s'.outcome ∧ r₁ = r₂ := by
  obtain ⟨f, hs, hs'⟩ := halike
  obtain ⟨predictor, batch, reply⟩ := h
  obtain ⟨predictor', batch', reply'⟩ := h'
  -- Both calls handed over the slots of the round, so `f` gave one reply to both.
  have hreply : reply = f r.matrix r.slots := hs _ _ _ _ _ _ (List.mem_singleton_self _)
  have hreply' : reply' = f r.matrix r.slots := hs' _ _ _ _ _ _ (List.mem_singleton_self _)
  rw [hreply, hreply']
  exact ⟨rfl, rfl⟩

/-- Two lists of runs in the same round that are answered alike, one by one, come out alike. -/
theorem Round.Ran.unique {runs runs' : List (Step interface)} {matrix : Csr}
    (halike : List.Forall₂ (AnsweredAlike matrix matrix) runs runs') :
    ∀ {r r₁ r₂ : Round}, r.matrix = matrix → Ran r runs r₁ → Ran r runs' r₂ →
      runs.map (·.outcome) = runs'.map (·.outcome) ∧ r₁ = r₂ := by
  induction halike with
  | nil =>
    intro r r₁ r₂ _ h h'
    cases h
    cases h'
    exact ⟨rfl, rfl⟩
  | @cons s s' runs runs' hfirst _ ih =>
    intro r r₁ r₂ hmatrix h h'
    subst hmatrix
    cases h with
    | run hs hrest =>
      cases h' with
      | run hs' hrest' =>
        -- The first two runs lead to one round, and the others start from there.
        obtain ⟨houtcome, rfl⟩ := hs.unique hs' hfirst
        obtain ⟨houtcomes, hround⟩ := ih hs.matrix_eq hrest hrest'
        refine ⟨?_, hround⟩
        rw [List.map_cons, List.map_cons, houtcome, houtcomes]

/-- Two models of one schema, in rounds that the same payload began, hold one matrix; and if their
runs since then were answered alike, they are in one round. -/
theorem rounds_agree {m m' : Model} {s s' : Step interface} {runs runs' : List (Step interface)}
    {input input' : Input} (hschema : m.schema = m'.schema)
    (hpayload : s.operation.payload? = s'.operation.payload?)
    (h : InRound m s runs) (h' : InRound m' s' runs')
    (hset : m.input = some input) (hset' : m'.input = some input') :
    input.matrix = input'.matrix ∧
      (List.Forall₂ (AnsweredAlike input.matrix input'.matrix) runs runs' →
        runs.map (·.outcome) = runs'.map (·.outcome) ∧
        ∃ r, m.round? = some r ∧ m'.round? = some r) := by
  obtain ⟨payload, matrix, r, hs, hread, hran, hround⟩ := h
  obtain ⟨payload', matrix', r', hs', hread', hran', hround'⟩ := h'
  -- One payload, read with one schema, is one matrix.
  obtain rfl : payload = payload' := Option.some.inj (hs.symm.trans (hpayload.trans hs'))
  rw [readMatrix_congr hschema, hread'] at hread
  obtain rfl : matrix' = matrix := Except.ok.inj hread
  have hmatrix : input.matrix = matrix' := matrix_of_round hset hround hran
  have hmatrix' : input'.matrix = matrix' := matrix_of_round hset' hround' hran'
  refine ⟨hmatrix.trans hmatrix'.symm, ?_⟩
  intro halike
  rw [hmatrix, hmatrix'] at halike
  rw [hschema] at hran
  obtain ⟨houtcomes, rfl⟩ := Round.Ran.unique halike rfl hran hran'
  exact ⟨houtcomes, r, hround, hround'⟩

/-! ## §4. Whole sessions -/

/-- **Rounds forget what came before.**  Two sessions, of any two engines and with any operations,
end with models of one schema, and the input of both was set last with the same payload.  Then both
hold one matrix, and nothing of earlier rounds.  If the runs since then were answered alike (as they
are when there was none), they came out alike, and the two models answer every question alike but
that for the device. -/
theorem lives_agree_on_round {σ τ : Type} (E : Engine interface σ) (F : Engine interface τ)
    (engine : σ) (engine' : τ) (artifact artifact' : Artifact) (device device' : Device)
    (threads threads' : Int32) (operations operations' : List Operation) :
    let (l, _) := (lifecycle artifact device threads).life operations E (.start engine)
    let (l', _) := (lifecycle artifact' device' threads').life operations' F (.start engine')
    ∀ m m' s s', l.model = .ok m → l'.model = .ok m' → m.schema = m'.schema →
      latestInput l.steps = some s → latestInput l'.steps = some s' →
      s.operation.payload? = s'.operation.payload? →
      ∃ input input', m.input = some input ∧ m'.input = some input' ∧
        input.matrix = input'.matrix ∧
        FromScratch m input.matrix (runsSinceInput l.steps) ∧
        FromScratch m' input'.matrix (runsSinceInput l'.steps) ∧
        (List.Forall₂ (AnsweredAlike input.matrix input'.matrix)
            (runsSinceInput l.steps) (runsSinceInput l'.steps) →
          (runsSinceInput l.steps).map (·.outcome) = (runsSinceInput l'.steps).map (·.outcome) ∧
          ∀ query, query ≠ .device → m.answer query = m'.answer query) := by
  have h := life_lived E engine artifact device threads operations
  have h' := life_lived F engine' artifact' device' threads' operations'
  generalize (lifecycle artifact device threads).life operations E (.start engine) = x at h ⊢
  generalize (lifecycle artifact' device' threads').life operations' F (.start engine') = x' at h' ⊢
  obtain ⟨l, w⟩ := x
  obtain ⟨l', w'⟩ := x'
  obtain ⟨-, hlived⟩ := h
  obtain ⟨-, hlived'⟩ := h'
  intro m m' s s' hm hm' hschema hlatest hlatest' hpayload
  obtain ⟨_, -, hrun⟩ := hlived.of_model hm
  obtain ⟨_, -, hrun'⟩ := hlived'.of_model hm'
  -- Each model is in the round that its latest input began, and the two inputs are one.
  have hround := inRound_of_reaches hrun hlatest
  have hround' := inRound_of_reaches hrun' hlatest'
  obtain ⟨input, hset, hscratch⟩ := fromScratch_of_inRound hround
  obtain ⟨input', hset', hscratch'⟩ := fromScratch_of_inRound hround'
  obtain ⟨hmatrix, hagree⟩ := rounds_agree hschema hpayload hround hround' hset hset'
  refine ⟨input, input', hset, hset', hmatrix, hscratch, hscratch', ?_⟩
  intro halike
  obtain ⟨houtcomes, r, hr, hr'⟩ := hagree halike
  refine ⟨houtcomes, ?_⟩
  intro query hquery
  exact answer_of_round hr hr' hquery

/-- The prediction that a script makes when it does not let it fail. -/
def scripted (width : Nat) : Predictor := fun matrix slots =>
  (.ok (Script.predictions width matrix).length, overwrite slots (Script.predictions width matrix))

/-- A value that was predicted for another one before is read as in a session that begins with
it. -/
theorem round_after_other_round :
    let (l, _) := (lifecycle ⟨"model.so", none⟩ .cpu (-1)).life
      [.setInputFloats "data" [1, 1] [⟨0x3F800000⟩], .run,
        .setInputFloats "data" [1, 1] [⟨0x40000000⟩], .run]
      (Script.direct { schema := ⟨1, 1, 1⟩, failures := fun _ => [] }) (.start .start)
    let (l', _) := (lifecycle ⟨"other.so", none⟩ .cpu 4).life
      [.run, .setInputFloats "data" [1, 1] [⟨0x40000000⟩], .run] faltering (.start .start)
    ∃ m m', l.model = .ok m ∧ l'.model = .ok m' ∧
      m.answer (.getOutputFloats 0) = m'.answer (.getOutputFloats 0) := by
  have h := lives_agree_on_round (Script.direct { schema := ⟨1, 1, 1⟩, failures := fun _ => [] })
    faltering .start .start ⟨"model.so", none⟩ ⟨"other.so", none⟩ .cpu .cpu (-1) 4
    [.setInputFloats "data" [1, 1] [⟨0x3F800000⟩], .run,
      .setInputFloats "data" [1, 1] [⟨0x40000000⟩], .run]
    [.run, .setInputFloats "data" [1, 1] [⟨0x40000000⟩], .run]
  obtain ⟨input, input', hset, hset', -, -, -, hagree⟩ := h _ _ _ _ rfl rfl rfl rfl rfl rfl
  cases hset
  cases hset'
  -- Each session made one run since then, and its engine answered as scripts do.
  refine ⟨_, _, rfl, rfl, (hagree (.cons ⟨scripted 1, ?_, ?_⟩ .nil)).2 _ (by decide)⟩
  · intro _ _ _ _ _ _ hx
    cases List.mem_singleton.mp hx
    rfl
  · intro _ _ _ _ _ _ hx
    cases List.mem_singleton.mp hx
    rfl

end ModelAdapter.Treelite
