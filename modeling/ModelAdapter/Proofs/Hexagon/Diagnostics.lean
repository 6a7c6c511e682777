import ModelAdapter.Buffer
import ModelAdapter.Hexagon.Script
import ModelAdapter.Proofs.Hexagon.Matching
import ModelAdapter.Proofs.Text.Utf8

/-! # The diagnostic log

The DSP engine keeps a log of its own.  When a session was opened, or could not be, the
adapter has the log copied into a buffer of zeros and passes it on as an event under a
channel of its own.  Nothing is known of what the engine writes there: it need not end
with a NUL, it may begin with one, and it need not be text.

  * **The buffer** (`logBuffer`, `BeforeNul`): what it holds afterwards, and how much of
    that is the log.
  * **Passing on** (`PassedOn`): one event if the log was read and does not begin with a
    NUL, and none otherwise.
  * **Building** (`log_is_passed_on`): the log is passed on while the session is opened.
    Of what follows nothing is passed on, and nothing depends on the log.
-/

namespace ModelAdapter

/-- Whether an event is passed on from the log of the DSP engine. -/
def Event.isDiagnostic (event : Event) : Bool := event.channel? == some "dlr::hexagon::nn"

theorem Event.isDiagnostic_eq_false_iff {event : Event} :
    event.isDiagnostic = false ↔ event.channel? = none := by
  cases event <;> simp [isDiagnostic, channel?]

namespace Hexagon

open Drive (Matches)

/-! ## §1. The buffer -/

/-- What the log buffer holds when the engine has written to it.  It was all zeros before, and what
does not fit is not written. -/
def logBuffer (written : List UInt8) : List UInt8 :=
  overwrite (List.replicate logCapacity 0) written

/-- The bytes of a buffer before its first NUL, or all of them if there is none. -/
structure BeforeNul (buffer text : List UInt8) : Prop where
  nonzero : 0 ∉ text
  ended : buffer = text ∨ ∃ rest, buffer = text ++ 0 :: rest

theorem beforeNul_terminated (buffer : List UInt8) :
    BeforeNul buffer (Utf8.terminated buffer) := by
  -- On the bytes up to the first NUL.
  induction buffer with
  | nil => exact ⟨List.not_mem_nil, .inl rfl⟩
  | cons byte rest ih =>
    by_cases hbyte : byte = 0
    · subst hbyte
      exact ⟨List.not_mem_nil, .inr ⟨rest, rfl⟩⟩
    · have hkept : Utf8.terminated (byte :: rest) = byte :: Utf8.terminated rest := by
        simp [Utf8.terminated, hbyte]
      rw [hkept]
      refine ⟨?_, ?_⟩
      · simp [ih.nonzero, Ne.symm hbyte]
      · simpa using ih.ended

/-- What is taken for the text of the log is what the buffer holds before its first NUL. -/
theorem logText_eq (written : List UInt8) :
    logText written = Utf8.terminated (logBuffer written) := by
  unfold logText logBuffer overwrite Utf8.terminated
  rw [List.length_replicate, List.drop_replicate, List.takeWhile_append, List.takeWhile_replicate]
  split
  case isTrue hall =>
    -- No byte of the log is a NUL, and those behind it are.
    rw [List.takeWhile_eq_self_iff.mpr (List.takeWhile_eq_self_iff.mp _)]
    · simp
    · exact (List.takeWhile_prefix _).eq_of_length hall
  case isFalse => rfl

theorem logBuffer_ne_nil (written : List UInt8) : logBuffer written ≠ [] := by
  rw [← List.length_pos_iff, logBuffer, length_overwrite, List.length_replicate, logCapacity]
  omega

/-- There is no text if the buffer begins with a NUL. -/
theorem logText_eq_nil_iff (written : List UInt8) :
    logText written = [] ↔ (logBuffer written).head? = some 0 := by
  rw [logText_eq]
  cases hbuffer : logBuffer written with
  | nil => exact absurd hbuffer (logBuffer_ne_nil written)
  | cons byte rest =>
    by_cases hbyte : byte = 0
    · simp [Utf8.terminated, hbyte]
    · simp [Utf8.terminated, hbyte]

/-! ## §2. Passing on -/

/-- A log is passed on as one event if it could be read and the buffer does not begin with a NUL,
and as none otherwise.  The text is what stands before the first NUL. -/
structure PassedOn (read : Except Int32 Unit × List UInt8) (told : List Event) : Prop where
  one_iff : told.length = 1 ↔ read.1 = .ok () ∧ (logBuffer read.2).head? ≠ some 0
  otherwise : told.length ≠ 1 → told = []
  channel : ∀ event ∈ told, event.channel? = some "dlr::hexagon::nn"
  text : ∀ event ∈ told, ∃ text, BeforeNul (logBuffer read.2) text ∧
    event = .engineLog (Utf8.decode text)

/-- The event that comes of a log. -/
def told : Except Int32 Unit × List UInt8 → Option Event
  | (.ok (), written) =>
      if logText written = [] then none else some (.engineLog (Utf8.decode (logText written)))
  | (.error _, _) => none

theorem told_passedOn (read : Except Int32 Unit × List UInt8) :
    PassedOn read (told read).toList := by
  obtain ⟨status | ⟨⟩, written⟩ := read
  · exact ⟨by simp [told], fun _ => rfl, by simp [told], by simp [told]⟩
  · have hnil := logText_eq_nil_iff written
    -- A log that was read is passed on unless it begins with a NUL.
    by_cases htext : logText written = []
    · have htold : told (.ok (), written) = none := if_pos htext
      rw [htold]
      exact ⟨by simp [hnil.mp htext], fun _ => rfl, by simp, by simp⟩
    · have htold : told (.ok (), written) = some (.engineLog (Utf8.decode (logText written))) :=
        if_neg htext
      have hbefore : BeforeNul (logBuffer written) (logText written) := by
        rw [logText_eq]
        exact beforeNul_terminated _
      rw [htold]
      refine ⟨?_, ?_, ?_, ?_⟩
      · simp [mt hnil.mpr htext]
      · simp
      · simp [Event.channel?]
      · simp only [Option.toList_some, List.mem_singleton, forall_eq]
        exact ⟨_, hbefore, rfl⟩

section
variable {σ : Type}

/-- To pass the log on is one call, and the event that comes of the reply, if any. -/
theorem drainLog_eq (graph : Int32) : drainLog (σ := σ) graph =
    (ask (.readLog graph logCapacity) >>= fun read => Drive.logAny (told read)) := by
  refine congrArg (ask (.readLog graph logCapacity) >>= ·) (funext fun read => ?_)
  obtain ⟨status | ⟨⟩, written⟩ := read
  · rfl
  · cases htext : logText written with
    | nil => simp [told, htext, Drive.logAny]
    | cons byte rest => simp [told, htext, Drive.logAny]

theorem drainLog_next (graph : Int32) (E : Engine interface σ) (w : World interface σ) :
    (drainLog graph E w).2
      = { engine := (E.respond (Call.readLog graph logCapacity) w.engine).2
          exchanges := w.exchanges ++ [⟨Call.readLog graph logCapacity,
            (E.respond (Call.readLog graph logCapacity) w.engine).1⟩]
          events := w.events
            ++ (told (E.respond (Call.readLog graph logCapacity) w.engine).1).toList } := by
  rw [drainLog_eq]
  exact Drive.logAny_next _ E _

/-! ## §3. Everything else -/

/-- The event that comes of a call, if it was for the log. -/
def toldBy : Exchange interface → Option Event
  | ⟨.readLog _ _, read⟩ => told read
  | _ => none

theorem toldBy_of_works {call : Call} (h : call.Works) (reply : Reply call) :
    toldBy ⟨call, reply⟩ = none := by
  cases call with
  | readLog => exact h.elim
  | _ => rfl

theorem isDiagnostic_of_told {read : Except Int32 Unit × List UInt8} {event : Event}
    (h : told read = some event) : event.isDiagnostic = true := by
  have hchannel := (told_passedOn read).channel event (by simp [h])
  simp [Event.isDiagnostic, hchannel]

/-- What was exchanged and logged from one world to another.  What was passed on is what comes of
the calls for the log. -/
structure Accounted (w w' : World interface σ) (xs : List (Exchange interface))
    (logged : List Event) : Prop where
  exchanges : w'.exchanges = w.exchanges ++ xs
  events : w'.events = w.events ++ logged
  passedOn : logged.filter Event.isDiagnostic = xs.filterMap toldBy

/-- **Each step** passes on what comes of its calls for the log. -/
theorem accounted_kept (E : Engine interface σ) (w₀ : World interface σ) :
    Matching E E (fun w w' => w = w' ∧ ∃ xs logged, Accounted w₀ w xs logged) where
  work call hworks := by
    rintro w _ ⟨rfl, xs, logged, hw⟩
    -- Nothing but the log is passed on.
    have hnone : toldBy ⟨call, (E.respond call w.engine).1⟩ = none := toldBy_of_works hworks _
    refine ⟨rfl, rfl, xs ++ [⟨call, (E.respond call w.engine).1⟩], logged, ?_, hw.events, ?_⟩
    · show w.exchanges ++ [_] = _
      rw [hw.exchanges, List.append_assoc]
    · rw [List.filterMap_append, hw.passedOn, List.filterMap_cons_none hnone]
      simp
  drainLog graph := by
    rintro w _ ⟨rfl, xs, logged, hw⟩
    refine ⟨rfl, rfl, ?_⟩
    rw [drainLog_next]
    -- Whatever the reply is, what is told of it is logged.
    generalize (E.respond (Call.readLog graph logCapacity) w.engine).1 = read
    refine ⟨xs ++ [⟨Call.readLog graph logCapacity, read⟩], logged ++ (told read).toList,
      ?_, ?_, ?_⟩
    · simp [hw.exchanges]
    · simp [hw.events]
    · rw [List.filter_append, List.filterMap_append, hw.passedOn]
      cases htold : told read with
      | none => simp [toldBy, htold]
      | some event => simp [toldBy, htold, isDiagnostic_of_told htold]
  log event hevent := by
    rintro w _ ⟨rfl, xs, logged, hw⟩
    -- The adapter's own events are no part of the account.
    have hquiet : event.isDiagnostic = false := Event.isDiagnostic_eq_false_iff.mpr hevent
    refine ⟨rfl, rfl, xs, logged ++ [event], hw.exchanges, ?_, ?_⟩
    · show w.events ++ [event] = _
      rw [hw.events, List.append_assoc]
    · simp [hw.passedOn, hquiet]

/-! ## §4. Opening, and what follows -/

/-- The graph that the engine names when a session is opened, or when it cannot be. -/
def graphOf : Except InitFailure Opened → Int32
  | .ok opened => opened.session.graph
  | .error failure => failure.graph

/-- Calls that come after the log: questions about the tensors, and the end of the session. -/
def Call.Follows : Call → Prop
  | .inputSpec _ | .outputSpec _ | .close _ => True
  | _ => False

theorem works_of_follows {call : Call} (h : call.Follows) : call.Works := by
  cases call with
  | readLog => exact h.elim
  | _ => trivial

/-- What comes of opening a session, whatever the log was. -/
def Model.opened (m : Model) (debugLevel : Int32) :
    Except InitFailure Opened → Except Report Unit × Model
  | .ok ⟨session, memory⟩ => (.ok (), { m with session := some session, memory })
  | .error failure =>
      (.error ((Report.bare (.backendStatus "dlr_hexagon_model_init" failure.status)).note
        ("debug level " ++ toString debugLevel.toInt)), m)

theorem openSession_eq (m : Model) (debugLevel : Int32) :
    m.openSession (σ := σ) debugLevel =
      (ask (.init debugLevel) >>= fun opening =>
        drainLog (graphOf opening) >>= fun _ => pure (m.opened debugLevel opening)) := by
  refine congrArg (ask (.init debugLevel) >>= ·) (funext fun opening => ?_)
  rcases opening with failure | ⟨session, memory⟩
  · rfl
  · rfl

/-- While the session is opened there are two calls, and at most one event, that of the log. -/
theorem openSession_next (m : Model) (debugLevel : Int32) (E : Engine interface σ)
    (w : World interface σ) :
    ∃ (opening : Except InitFailure Opened) (read : Except Int32 Unit × List UInt8),
      (m.openSession debugLevel E w).1 = m.opened debugLevel opening ∧
      (m.openSession debugLevel E w).2.exchanges = w.exchanges ++
        [⟨Call.init debugLevel, opening⟩, ⟨Call.readLog (graphOf opening) logCapacity, read⟩] ∧
      (m.openSession debugLevel E w).2.events = w.events ++ (told read).toList := by
  rw [openSession_eq]
  let opening : Except InitFailure Opened := (E.respond (Call.init debugLevel) w.engine).1
  let w' : World interface σ := (ask (.init debugLevel) E w).2
  refine ⟨opening, (E.respond (Call.readLog (graphOf opening) logCapacity) w'.engine).1, rfl,
    ?_, ?_⟩
  · show (drainLog (graphOf opening) E w').2.exchanges = _
    rw [drainLog_next]
    exact List.append_assoc w.exchanges _ _
  · show (drainLog (graphOf opening) E w').2.events = _
    rw [drainLog_next]
    rfl

theorem mem_described {question : Question} {specs : List TensorSpec} {x : Exchange interface} :
    ∀ {id : Nat}, x ∈ described question id specs → ∃ id reply, x = question id reply := by
  induction specs with
  | nil =>
    intro id hx
    cases hx
  | cons spec rest ih =>
    intro id hx
    rcases List.mem_cons.mp hx with rfl | hx
    · exact ⟨id, _, rfl⟩
    · exact ih hx

/-- Nothing but questions of one kind is asked in a row. -/
theorem Scanned.mem {question : Question} {ids id : Nat} {result : Except Fault (List TensorSpec)}
    {xs : List (Exchange interface)} (h : Scanned question ids id result xs)
    {x : Exchange interface} (hx : x ∈ xs) : ∃ id reply, x = question id reply := by
  cases h with
  | ended specs | failed specs =>
    rcases List.mem_append.mp hx with hx | hx
    · exact mem_described hx
    · exact ⟨_, _, List.mem_singleton.mp hx⟩
  | exhausted specs => exact mem_described hx

theorem follows_of_discovers {m m' : Model} {xs : List (Exchange interface)}
    {result : Except Report Unit} (h : Discovers m xs result m') :
    ∀ x ∈ xs, x.call.Follows := by
  -- All the questions of a scan are of one kind.
  have hscan {question : Question} (hfollows : ∀ id reply, (question id reply).call.Follows)
      {result : Except Fault (List TensorSpec)} {ys : List (Exchange interface)}
      (hscanned : Scanned question specLimit 0 result ys) : ∀ x ∈ ys, x.call.Follows := by
    intro x hx
    obtain ⟨id, reply, rfl⟩ := hscanned.mem hx
    exact hfollows id reply
  have hinput : ∀ id reply, (inputQuestion id reply).call.Follows := fun _ _ => trivial
  have houtput : ∀ id reply, (outputQuestion id reply).call.Follows := fun _ _ => trivial
  cases h with
  | noInputs hinputs => exact hscan hinput hinputs
  | noOutputs hinputs houtputs | discovered hinputs houtputs =>
    intro x hx
    rcases List.mem_append.mp hx with hx | hx
    · exact hscan hinput hinputs x hx
    · exact hscan houtput houtputs x hx

theorem follows_of_closing (m : Model) : ∀ x ∈ m.closing, x.call.Follows := by
  unfold Model.closing closing
  intro x hx
  cases hsession : m.session with
  | none => simp [hsession] at hx
  | some session =>
    by_cases hgraph : session.graph = 0
    · simp [hsession, hgraph] at hx
    · obtain rfl : x = ⟨Call.close session.graph, ()⟩ := by simpa [hsession, hgraph] using hx
      exact trivial

/-- Once a session was opened, nothing but the tensors is asked for. -/
theorem afterOpening_satisfies (r : Except Report Unit × Model) :
    (afterOpening (σ := σ) r).Satisfies (fun _ xs => ∀ x ∈ xs, x.call.Follows) := by
  rcases r with ⟨report | ⟨⟩, m⟩
  · apply (drop_satisfies m).bind
    rintro _ xs rfl
    refine .pure ?_
    rw [List.append_nil]
    exact follows_of_closing m
  -- With a session the tensors are discovered, and it is closed again if that fails.
  apply (discover_satisfies m).bind
  intro r xs hdiscovers
  rcases r with ⟨report | ⟨⟩, m'⟩
  · apply (drop_satisfies m').bind
    rintro _ ys rfl
    refine .pure ?_
    rw [List.append_nil]
    exact List.forall_mem_append.mpr
      ⟨follows_of_discovers hdiscovers, follows_of_closing m'⟩
  · apply Drive.Satisfies.log_bind
    refine .pure ?_
    rw [List.append_nil]
    exact follows_of_discovers hdiscovers

/-- **What follows the opening** is told of nowhere in the log's channel. -/
theorem afterOpening_quiet (r : Except Report Unit × Model) (E : Engine interface σ)
    (w : World interface σ) :
    ∃ later quiet, (afterOpening r E w).2.exchanges = w.exchanges ++ later ∧
      (∀ x ∈ later, x.call.Follows) ∧
      (afterOpening r E w).2.events = w.events ++ quiet ∧
      ∀ event ∈ quiet, event.channel? = none := by
  have hmatches := afterOpening_matches (accounted_kept E w) r
  obtain ⟨-, -, later, quiet, hlater, hquiet, hpassed⟩ :=
    hmatches w w ⟨rfl, [], [], (List.append_nil _).symm, (List.append_nil _).symm, rfl⟩
  obtain ⟨xs, hxs, hfollow⟩ := afterOpening_satisfies r E w
  obtain rfl : later = xs := List.append_cancel_left (hlater.symm.trans hxs)
  refine ⟨later, quiet, hlater, hfollow, hquiet, ?_⟩
  -- None of the calls is for the log.
  have hnone : later.filterMap toldBy = [] := by
    rw [List.filterMap_eq_nil_iff]
    intro x hx
    exact toldBy_of_works (works_of_follows (hfollow x hx)) x.reply
  rw [hnone, List.filter_eq_nil_iff] at hpassed
  intro event hevent
  exact Event.isDiagnostic_eq_false_iff.mp (Bool.eq_false_iff.mpr (hpassed event hevent))

/-! ## §5. Another log -/

/-- The same engine with something else to say when the log is read. -/
def saying (say : Int32 → Nat → σ → Except Int32 Unit × List UInt8) (E : Engine interface σ) :
    Engine interface σ where
  respond
    | .readLog graph capacity, s =>
        (say graph capacity s, (E.respond (.readLog graph capacity) s).2)
    | call, s => E.respond call s

/-- Two worlds that may differ in the replies to the calls for the log, and in what was passed
on. -/
structure LikeButLog (w w' : World interface σ) : Prop where
  engine : w.engine = w'.engine
  calls : w.calls = w'.calls
  events : w.events.filter (fun event => !event.isDiagnostic)
    = w'.events.filter (fun event => !event.isDiagnostic)

theorem calls_concat {w w' : World interface σ} (h : w.calls = w'.calls)
    {x x' : Exchange interface} (hcall : x.call = x'.call) :
    (w.exchanges ++ [x]).map (·.call) = (w'.exchanges ++ [x']).map (·.call) := by
  rw [List.map_append, List.map_append]
  exact congrArg₂ (· ++ [·]) h hcall

/-- **No step** can tell what the log was. -/
theorem saying_kept (say : Int32 → Nat → σ → Except Int32 Unit × List UInt8)
    (E : Engine interface σ) : Matching E (saying say E) LikeButLog where
  work call hworks := by
    intro w w' h
    -- The engines differ in what they say when the log is read, and only in that.
    have hsame : (saying say E).respond call w'.engine = E.respond call w.engine := by
      rw [h.engine]
      cases call with
      | readLog => exact hworks.elim
      | _ => rfl
    have hask : ask call (saying say E) w'
        = ((E.respond call w.engine).1,
          { w' with engine := (E.respond call w.engine).2
                    exchanges := w'.exchanges ++ [⟨call, (E.respond call w.engine).1⟩] }) := by
      rw [← hsame]
      rfl
    rw [hask]
    exact ⟨rfl, rfl, calls_concat h.calls rfl, h.events⟩
  drainLog graph := by
    intro w w' h
    refine ⟨rfl, ?_⟩
    rw [drainLog_next, drainLog_next]
    refine ⟨congrArg (fun s => (E.respond (.readLog graph logCapacity) s).2) h.engine, ?_, ?_⟩
    · exact calls_concat h.calls rfl
    · -- Whatever is passed on is set aside in the comparison.
      have hpassed (read : Except Int32 Unit × List UInt8) :
          (told read).toList.filter (fun event => !event.isDiagnostic) = [] := by
        cases htold : told read with
        | none => rfl
        | some event => simp [isDiagnostic_of_told htold]
      show (w.events ++ _).filter _ = (w'.events ++ _).filter _
      rw [List.filter_append, List.filter_append]
      exact congrArg₂ (· ++ ·) h.events ((hpassed _).trans (hpassed _).symm)
  log event _ := by
    intro w w' h
    refine ⟨rfl, h.engine, h.calls, ?_⟩
    show (w.events ++ [event]).filter _ = (w'.events ++ [event]).filter _
    rw [List.filter_append, List.filter_append, h.events]

/-! ## §6. Building -/

/-- **The log is passed on** once, whatever the engine leaves in the buffer and whether the session
is opened or not.  When the opening is over, the log was asked for and what it told is an event;
only then are the tensors asked for, and of what follows nothing is passed on.  If the session could
not be opened, that is reported.  The log makes no difference: an engine that replies something else
when it is read leads to the same model or report, with the same calls and the same events beside
it. -/
theorem log_is_passed_on (E : Engine interface σ) (w : World interface σ) (artifact : Artifact)
    (device : Device) (debugLevel : Int32) :
    let opened := (Model.unopened artifact device).openSession debugLevel E w
    let built := build artifact device debugLevel E w
    ∃ (opening : Except InitFailure Opened) (read : Except Int32 Unit × List UInt8)
        (passed quiet : List Event) (later : List (Exchange interface)),
      opened.2.exchanges = w.exchanges ++
        [⟨Call.init debugLevel, opening⟩, ⟨Call.readLog (graphOf opening) logCapacity, read⟩] ∧
      opened.2.events = w.events ++ passed ∧ PassedOn read passed ∧
      built = afterOpening opened.1 E opened.2 ∧
      built.2.exchanges = opened.2.exchanges ++ later ∧ (∀ x ∈ later, x.call.Follows) ∧
      built.2.events = opened.2.events ++ quiet ∧ (∀ event ∈ quiet, event.channel? = none) ∧
      (∀ failure, opening = .error failure → later = [] ∧
        built.1 = .error ((Report.bare
          (.backendStatus "dlr_hexagon_model_init" failure.status)).note
            ("debug level " ++ toString debugLevel.toInt))) ∧
      ∀ say, (build artifact device debugLevel (saying say E) w).1 = built.1 ∧
        LikeButLog built.2 (build artifact device debugLevel (saying say E) w).2 := by
  intro opened built
  obtain ⟨opening, read, hopened, hexchanges, hevents⟩ :=
    openSession_next (Model.unopened artifact device) debugLevel E w
  have hbuilt : built = afterOpening opened.1 E opened.2 := by
    show build artifact device debugLevel E w = _
    rw [build_eq]
    rfl
  obtain ⟨later, quiet, hlater, hfollow, hquiet, hnone⟩ := afterOpening_quiet opened.1 E opened.2
  rw [← hbuilt] at hlater hquiet
  refine ⟨opening, read, (told read).toList, quiet, later, hexchanges, hevents, told_passedOn read,
    hbuilt, hlater, hfollow, hquiet, hnone, ?_, ?_⟩
  · rintro failure rfl
    -- There is no session to close, so giving the model up makes no call.
    rw [show opened.1 = _ from hopened] at hbuilt
    rw [hbuilt] at hlater ⊢
    exact ⟨List.self_eq_append_right.mp hlater, rfl⟩
  · intro say
    obtain ⟨hresult, hlike⟩ :=
      build_matches (saying_kept say E) artifact device debugLevel w w ⟨rfl, rfl, rfl⟩
    exact ⟨hresult.symm, hlike⟩

end

/-- A script of an engine that cannot be opened, and says so before a NUL, with a byte that is no
text. -/
def reticent : Script Script.Described where
  inputs := []
  outputs := []
  input := []
  output := []
  log := [0x6E, 0xFF, 0x6F, 0x00, 0xFF]
  logStatus := 0
  initStatus := 5
  graph := 7
  exec := []
  nullInput := false
  nullOutput := false
  endStatus := 1

/-- What it says is passed on and nothing else is; that it cannot be opened is reported, as it is
when the log cannot be read. -/
theorem log_of_failed_opening :
    let silent := saying (fun _ _ _ => (.error 1, [])) reticent.direct
    let built := build ⟨".", "m_hexagon_model.so", none⟩ .cpu 3 reticent.direct (.start 0)
    let built' := build ⟨".", "m_hexagon_model.so", none⟩ .cpu 3 silent (.start 0)
    built.1
      = .error ((Report.bare (.backendStatus "dlr_hexagon_model_init" 5)).note "debug level 3") ∧
      PassedOn (.ok (), [0x6E, 0xFF, 0x6F, 0x00, 0xFF]) [.engineLog "n\uFFFDo"] ∧
      (∃ quiet, built.2.events = .engineLog "n\uFFFDo" :: quiet ∧
        ∀ event ∈ quiet, event.channel? = none) ∧
      built'.1 = built.1 ∧ built'.2.calls = built.2.calls := by
  intro silent built built'
  obtain ⟨opening, read, passed, quiet, later, hcalls, hevents, hpassed, -, -, -, hquiet, hnone,
    hfailed, hsame⟩ :=
      log_is_passed_on reticent.direct (.start 0) ⟨".", "m_hexagon_model.so", none⟩ .cpu 3
  have hasked : [(⟨Call.init 3, .error ⟨7, 5⟩⟩ : Exchange interface),
      ⟨Call.readLog 7 logCapacity, (.ok (), [0x6E, 0xFF, 0x6F, 0x00, 0xFF])⟩]
        = [⟨Call.init 3, opening⟩, ⟨Call.readLog (graphOf opening) logCapacity, read⟩] := hcalls
  cases hasked
  -- The stray byte is told as a replacement character.
  have htext : Utf8.decode [0x6E, 0xFF, 0x6F] = "n\uFFFDo" := Utf8.decode_stray rfl "n" "o"
  have hone : [.engineLog (Utf8.decode [0x6E, 0xFF, 0x6F])] = passed := hevents
  rw [htext] at hone
  subst hone
  obtain ⟨-, hreport⟩ := hfailed ⟨7, 5⟩ rfl
  obtain ⟨hresult, hlike⟩ := hsame (fun _ _ _ => (.error 1, []))
  exact ⟨hreport, hpassed, ⟨quiet, hquiet, hnone⟩, hresult, hlike.calls.symm⟩

end Hexagon

end ModelAdapter
