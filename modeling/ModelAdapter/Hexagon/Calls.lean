import ModelAdapter.Engine
import ModelAdapter.Hexagon.Spec

/-! # The calls of the DSP engine

A model of the DSP engine understands six calls.

  * `init` opens the session; `close` ends it.
  * `exec` runs the graph of a session over its buffers.
  * `readLog` copies the diagnostic log into a buffer; the reply holds what is
    in the buffer afterwards, up to the last byte that the engine wrote.
  * `inputSpec` and `outputSpec` describe the tensor of a given number, and
    reply with nothing past the last one.

A status other than zero is a failure.
-/

namespace ModelAdapter.Hexagon

inductive Call
  | init (debugLevel : Int32)
  | exec (session : Session) (memory : Memory)
  | close (graph : Int32)
  | readLog (graph : Int32) (capacity : Nat)
  | inputSpec (id : Nat)
  | outputSpec (id : Nat)

/-- The reply that each call brings. -/
def Reply : Call → Type
  | .init _ => Except InitFailure Opened
  | .exec _ _ => Except Int32 Unit × Memory
  | .close _ => Unit
  | .readLog _ _ => Except Int32 Unit × List UInt8
  | .inputSpec _ => Except Fault (Option TensorSpec)
  | .outputSpec _ => Except Fault (Option TensorSpec)

def interface : Interface := ⟨Call, Reply⟩

def ask {σ : Type} (call : Call) : Drive interface σ (Reply call) :=
  Drive.ask (I := interface) call

end ModelAdapter.Hexagon
