import ModelAdapter.Proofs.Hexagon.Binding
import ModelAdapter.Proofs.Treelite.Binding

/-! # The C functions cannot be told from the engine behind them

Both engines are reached through C functions, and a script for rehearsing can be
followed behind these or behind the interface.  A whole session goes the same on
either side: it is built or refused alike, every operation has the same outcome, the
same is logged, and each call is one call of a C function.  The one thing more that
is done behind the C functions is to read the text of the last error.
-/

namespace ModelAdapter

/-- Two sessions went alike, one of which called C functions: those that `functions` tells are the
calls of the other one. -/
structure WentAlike {I J : Interface} {σ τ μ : Type} (toAbi : I.Call → J.Call)
    (functions : List (Exchange J) → List J.Call) (r : Life I μ × World I σ)
    (r' : Life I μ × World I (World J τ)) : Prop where
  lives : r'.1 = r.1
  exchanges : r'.2.exchanges = r.2.exchanges
  events : r'.2.events = r.2.events
  functions : functions r'.2.engine.exchanges = r.2.calls.map toAbi

/-- **The binding is transparent.**  Let one script be followed behind the interface and behind the
C functions, with texts that are C strings and numbers that fit.  Then for either engine every
session goes alike on both sides, with one call of a C function for each call but for readings of
the last error. -/
theorem binding_transparent :
    (∀ (s : Treelite.Script Fault) (c : Treelite.Script Treelite.Script.Failure)
        (artifact : Treelite.Artifact) (device : Device) (threads : Int32)
        (operations : List Operation),
      Treelite.Script.Corresponds s c → '\x00' ∉ artifact.modelLib.display.toList →
      WentAlike Treelite.Call.toAbi Treelite.works
        ((Treelite.lifecycle artifact device threads).life operations s.direct (.start .start))
        ((Treelite.lifecycle artifact device threads).life operations
          (Treelite.binding c.exported) (.start (.start .start)))) ∧
    (∀ (s : Hexagon.Script Hexagon.Script.Described)
        (c : Hexagon.Script (Int32 × Hexagon.Abi.RawSpec)) (artifact : Hexagon.Artifact)
        (device : Device) (debugLevel : Int32) (operations : List Operation),
      Hexagon.Script.Corresponds s c →
      WentAlike Hexagon.Call.toAbi Hexagon.functions
        ((Hexagon.lifecycle artifact device debugLevel).life operations s.direct (.start 0))
        ((Hexagon.lifecycle artifact device debugLevel).life operations
          (Hexagon.binding c.exported) (.start (.start 0)))) := by
  constructor
  · intro s c artifact device threads operations hsame hpath
    -- What the C functions keep of the script mirrors what the script keeps, from the start on.
    have hagrees := Treelite.life_agrees (Treelite.binding_inStep hsame) hpath device threads
      operations
    obtain ⟨hlives, halike⟩ := hagrees _ _ (.start Treelite.mirrors_start)
    exact ⟨hlives.symm, halike.exchanges.symm, halike.events.symm, halike.engines.functions⟩
  · intro s c artifact device debugLevel operations hsame
    have hagrees := Hexagon.life_agrees (Hexagon.binding_inStep hsame) artifact device debugLevel
      operations
    obtain ⟨hlives, halike⟩ := hagrees _ _ (.start Hexagon.mirrors_start)
    exact ⟨hlives.symm, halike.exchanges.symm, halike.events.symm, halike.engines.functions⟩

/-- A script whose first prediction fails with a text. -/
def refusing : Treelite.Script Fault where
  schema := ⟨1, 1, 1⟩
  failures r :=
    if r = .predictBatch then [some (.treelite "TreelitePredictorPredictBatch" "no")] else []

/-- The same behind the C functions, where other bytes stand behind the text. -/
def refusingAbi : Treelite.Script Treelite.Script.Failure where
  schema := ⟨1, 1, 1⟩
  failures r := if r = .predictBatch then [some ⟨-1, some [0x6E, 0x6F, 0, 0x21]⟩] else []

/-- A script of one input. -/
def oneInput : Hexagon.Script Hexagon.Script.Described where
  inputs := [.ok (some ⟨"x", 1, [2], 2, 2⟩)]
  outputs := []
  input := [8, 9]
  output := []
  log := []
  logStatus := 1
  initStatus := 0
  graph := 7
  exec := []
  nullInput := false
  nullOutput := true
  endStatus := 1

/-- The same behind the C functions. -/
def oneInputAbi : Hexagon.Script (Int32 × Hexagon.Abi.RawSpec) :=
  { oneInput with
    inputs := [(0, { name := some [0x78], dim := 1, shape := some [2], size := 2, bytes := 2 })]
    outputs := [] }

/-- The text of a failure and the description of a tensor come through the C functions. -/
theorem text_and_description_come_through :
    ((Treelite.lifecycle ⟨"model.so", none⟩ .cpu 1).life
        [.setInputFloats "data" [1, 1] [⟨0x3F800000⟩], .run]
        (Treelite.binding refusingAbi.exported) (.start (.start .start))).1.steps.map (·.outcome)
      = [.ok .done, .error (.treelite "TreelitePredictorPredictBatch" "no")] ∧
    ((Hexagon.lifecycle ⟨".", "m_hexagon_model.so", none⟩ .cpu 0).life
        [.ask (.inputName 0), .ask (.getInput "x" [0, 0, 0])]
        (Hexagon.binding oneInputAbi.exported) (.start (.start 0))).1.steps.map (·.outcome)
      = [.ok (.text "x"), .filled (.ok (), [8, 9, 0])] := by
  constructor
  · -- Behind the C functions the text ends at the first NUL, whatever stands behind it.
    have hsame : Treelite.Script.Corresponds refusing refusingAbi := by
      refine ⟨rfl, ?_⟩
      intro r n
      by_cases hr : r = .predictBatch
      · subst hr
        rcases n with _ | n
        · exact .refuses (by decide) ⟨by decide, [0, 0x21], by decide, .inr rfl⟩
        · exact .succeeds
      · simp only [refusing, refusingAbi, hr, if_false]
        exact .succeeds
    rw [(binding_transparent.1 refusing refusingAbi _ _ _ _ hsame (by decide)).lives]
    rfl
  · -- The one description is the first answer, and no number has an output.
    have hsame : Hexagon.Script.Corresponds oneInput oneInputAbi := by
      refine ⟨?_, fun _ => .absent _ (by decide), rfl⟩
      intro id
      rcases id with _ | id
      · exact .described ⟨⟨_, rfl, by decide, [], by decide, .inl rfl⟩, rfl, by decide, by decide,
          by decide, .inr ⟨[2], [], rfl, by decide⟩⟩
      · exact .absent _ (by decide)
    rw [(binding_transparent.2 oneInput oneInputAbi _ _ _ _ hsame).lives]
    rfl

end ModelAdapter
