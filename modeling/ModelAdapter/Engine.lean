import ModelAdapter.Event

/-! # Engines, and computations that drive them

An engine is foreign code.  All that is known of it is the set of calls it
understands and the kind of reply that each call brings (`Interface`); what it
replies, and how a call changes it, is up to the engine (`Engine`).

A computation that drives an engine (`Drive`) can put a call to it and can log
an event.  The calls and their replies are kept in order, and so are the events,
so a statement about what the engine is asked is a statement about a list.

  * **State** (`World`): the engine, the exchanges so far, the events so far.
  * **Steps**: `ask` puts one call; `log` records one event.
-/

namespace ModelAdapter

/-! ## §1. Engines -/

/-- The calls that an engine understands, and the reply that each call brings. -/
structure Interface where
  Call : Type
  Reply : Call → Type

/-- One call and the reply it got. -/
structure Exchange (I : Interface) where
  call : I.Call
  reply : I.Reply call

/-- An engine with inner states `σ`: what it replies to a call, and the state it is in
afterwards. -/
structure Engine (I : Interface) (σ : Type) where
  respond : (call : I.Call) → σ → I.Reply call × σ

/-! ## §2. Driving an engine -/

/-- What a computation over an engine can observe and change. -/
structure World (I : Interface) (σ : Type) where
  /-- The inner state of the engine. -/
  engine : σ
  /-- The calls so far with their replies, the first one first. -/
  exchanges : List (Exchange I) := []
  /-- The events so far, the first one first. -/
  events : List Event := []

/-- A computation that drives an engine. -/
abbrev Drive (I : Interface) (σ : Type) := ReaderT (Engine I σ) (StateM (World I σ))

namespace Drive

variable {I : Interface} {σ : Type}

/-- Puts a call to the engine and hands on its reply. -/
def ask (call : I.Call) : Drive I σ (I.Reply call) := fun E w =>
  match E.respond call w.engine with
  | (reply, next) =>
      (reply, { w with engine := next, exchanges := w.exchanges ++ [⟨call, reply⟩] })

def log (event : Event) : Drive I σ Unit := fun _ w =>
  ((), { w with events := w.events ++ [event] })

end Drive

/-! ## §3. Engines on top of engines -/

/-- An engine each of whose calls is a computation that drives another engine.  Its inner
state is the world of that other engine. -/
def Engine.over {I J : Interface} {σ : Type}
    (serve : (call : I.Call) → Drive J σ (I.Reply call)) (E : Engine J σ) :
    Engine I (World J σ) where
  respond call w := serve call E w

namespace World

variable {I : Interface} {σ : Type}

/-- An engine that nothing has been asked of. -/
def start (engine : σ) : World I σ := { engine }

def calls (w : World I σ) : List I.Call := w.exchanges.map (·.call)

/-- Adds events that were logged before the engine came into play. -/
def logged (w : World I σ) (events : List Event) : World I σ :=
  { w with events := w.events ++ events }

end World

end ModelAdapter
