import ModelAdapter.Proofs.Replay
import ModelAdapter.Proofs.Treelite.Transitions

/-! # Replaying models of the tree-ensemble engine

The relations say what a model can do.  Here they are shown to say no more than that:
every way of going that they allow is the one that is taken over an engine which gives
the replies in question (`build_retraces`, `operate_retraces`, `close_retraces`).  So a
life that they allow is the session over every such engine (`life_retraces`).
-/

namespace ModelAdapter.Treelite

open Drive (Retraces)

section
variable {σ : Type}

theorem release_retraces {input : Option Input} {xs : List (Exchange interface)}
    (h : Released input xs) : (release (σ := σ) input).Retraces () xs := by
  cases h with
  | nothing => exact .pure ()
  | batch input reply =>
    apply Retraces.ask_bind
    rcases reply with fault | done
    · exact .log (.batchKept fault)
    · exact .pure ()

theorem close_retraces {input : Option Input} {predictor : Handle} {xs : List (Exchange interface)}
    (h : Closed input predictor xs) : (close (σ := σ) input predictor).Retraces () xs := by
  obtain ⟨hreleased, reply⟩ := h
  apply (release_retraces hreleased).bind
  apply Retraces.ask_bind
  rcases reply with fault | done
  · exact .log_bind (.log .treeliteClosed)
  · exact .log .treeliteClosed

theorem querySchema_retraces {predictor : Handle} {result : Except Report Schema}
    {xs : List (Exchange interface)} (h : Queried predictor result xs) :
    (querySchema (σ := σ) predictor).Retraces result xs := by
  -- Each case is as many questions as were answered before it ended.
  cases h with
  | noFeatures fault => exact .ask_bind (.pure _)
  | noGroups features fault => exact .ask_bind (.ask_bind (.pure _))
  | noWidth features groups fault => exact .ask_bind (.ask_bind (.ask_bind (.pure _)))
  | tooWide features groups width hwide =>
    refine .ask_bind (.ask_bind (.ask_bind ?_))
    simp only [hwide, if_true]
    exact .pure _
  | known features groups width hfits =>
    refine .ask_bind (.ask_bind (.ask_bind ?_))
    simp only [Nat.not_lt.mpr hfits, if_false]
    exact .pure _

theorem build_retraces {artifact : Artifact} {device : Device} {threads : Int32}
    {result : Except Report Model} {xs : List (Exchange interface)}
    (h : Building artifact device threads result xs) :
    (build (σ := σ) artifact device threads).Retraces result xs := by
  cases h with
  | notLoaded fault => exact .ask_bind (.pure _)
  | notQueried hqueried hclosed =>
    apply Retraces.ask_bind
    apply (querySchema_retraces hqueried).bind
    exact (close_retraces hclosed).bind_last (.pure _)
  | ready hqueried =>
    apply Retraces.ask_bind
    apply (querySchema_retraces hqueried).bind_last
    exact .log_bind (.pure _)

theorem setInput_retraces {m m' : Model} {shape : List Int} {bytes : List UInt8}
    {xs : List (Exchange interface)} {result : Except Fault Unit}
    (h : SetsInput m shape bytes xs result m') :
    (m.setInput (σ := σ) shape bytes).Retraces (result, m') xs := by
  unfold Model.setInput
  cases h with
  | refused hunread =>
    rw [hunread]
    exact .pure _
  | notAssembled hread fault =>
    rw [hread]
    exact .ask_bind (.pure _)
  | replaced hread batch hreleased =>
    rw [hread]
    apply Retraces.ask_bind
    exact (release_retraces hreleased).bind_last (.pure _)

theorem run_retraces {m m' : Model} {xs : List (Exchange interface)} {result : Except Fault Unit}
    (h : Runs m xs result m') : (m.run (σ := σ)).Retraces (result, m') xs := by
  unfold Model.run
  cases h with
  | noInput hunset =>
    rw [hunset]
    exact .pure _
  | predicted hset reply left =>
    rw [hset]
    apply Retraces.ask_bind
    -- Only a success changes whether the output can be read.
    rcases reply with fault | count
    · simp only [Except.isOk, Except.toBool, Bool.or_false]
      exact .pure _
    · simp only [Except.isOk, Except.toBool, Bool.or_true]
      exact .pure _

theorem operate_retraces {m m' : Model} {operation : Operation} {xs : List (Exchange interface)}
    {outcome : Outcome} (h : Transition m operation xs outcome m') :
    (m.operate (σ := σ) operation).Retraces (outcome, m') xs := by
  cases h with
  | asked | setNumThreads | useCpuAffinity => exact .pure _
  | setInput hsets | setInputFloats hsets => exact (setInput_retraces hsets).bind_last (.pure _)
  | run hruns => exact (run_retraces hruns).bind_last (.pure _)

/-- A life that the relations allow happens over every engine that replays its exchanges. -/
theorem life_retraces {artifact : Artifact} {device : Device} {threads : Int32}
    {operations : List Operation} {l : Life interface Model}
    (h : LivedModel artifact device threads operations l) :
    ((lifecycle (σ := σ) artifact device threads).life operations).Retraces l l.exchanges :=
  Lifecycle.life_retraces build_retraces operate_retraces close_retraces h

end

end ModelAdapter.Treelite
