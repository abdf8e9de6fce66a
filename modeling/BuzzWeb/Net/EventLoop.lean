import BuzzWeb.Net.FrameOutcome
import BuzzWeb.Net.WritePipeline

/-!
# The event loop

All sessions on one single-threaded executor, one completion handler at a time, in any order.  A
session is a chain of operations (TLS handshake, WebSocket accept, reads), a write pipeline, and
the tasks posted to it.  A handler may run whenever its operation is outstanding.  In particular
the handler of a successful read may run after the session failed or was closed, because the read
may have completed before.

`Handled` lists the handlers and what they do.  The loop contains the server of
`BuzzWeb.Net.Server` and drives it: `serverEvent` names the event of the server that a handler
amounts to.
-/

namespace BuzzWeb
namespace Net

open Domain App

/-- The operation that the chain of a session is waiting for. -/
inductive Phase where
  | handshaking
  | accepting
  | reading
  | stopped
deriving DecidableEq, Repr

structure SessionState where
  phase : Phase
  pipeline : WritePipeline Json

structure EventLoop where
  server : Server
  /-- The sessions constructed so far. -/
  sessions : ParticipantId → Option SessionState

namespace EventLoop

/-- The result of a read: `error::closed`, another error, or a frame. -/
inductive ReadResult where
  | closed (order : HashOrder)
  | error (order : HashOrder)
  | frame (frame : Frame) (draws : Nat → Draw)

/-- A new connection, or a handler that runs.  The walk orders are used by the clean-up when the
handler gets there. -/
inductive Event where
  | start (session : ParticipantId) (tls : Bool)
  | handshake (session : ParticipantId) (error : Bool) (order : HashOrder)
  | accept (session : ParticipantId) (error : Bool) (order : HashOrder)
  | read (session : ParticipantId) (result : ReadResult)
  | write (session : ParticipantId) (index : Nat) (error : Bool) (order : HashOrder)
  | task (session : ParticipantId) (order : HashOrder)
  | close (session : ParticipantId)

/-- The tasks that the posted messages are for one session. -/
def tasksFor (session : ParticipantId) (posts : List Posted) : List (Task Json) :=
  posts.filterMap fun post => if post.1 = session then some (.send post.2) else none

/-- Every `Send` posts its task to the recipient's executor. -/
def postAll (sessions : ParticipantId → Option SessionState) (posts : List Posted) :
    ParticipantId → Option SessionState := fun session =>
  (sessions session).map fun state =>
    { state with pipeline := (tasksFor session posts).foldl WritePipeline.post state.pipeline }

def setSession (loop : EventLoop) (session : ParticipantId) (state : SessionState) : EventLoop :=
  { loop with sessions := Function.update loop.sessions session (some state) }

/-- Run a handler of `SessionBase`. -/
def runHandler (loop : EventLoop) (handler : Throwing World Unit) : EventLoop × List Posted :=
  let result := loop.server.run handler
  (⟨result.1, postAll loop.sessions result.2⟩, result.2)

/-- `Fail`: the flag, then the clean-up. -/
def fail (loop : EventLoop) (session : ParticipantId) (state : SessionState)
    (order : HashOrder) : EventLoop × List Posted :=
  (loop.setSession session { state with pipeline := state.pipeline.fail }).runHandler
    (Session.removeFromRegistry order session)

/-- `OnTlsHandshake`. -/
def onTlsHandshake (loop : EventLoop) (session : ParticipantId) (pipeline : WritePipeline Json)
    (error : Bool) (order : HashOrder) : EventLoop × List Posted :=
  if error then loop.fail session ⟨.stopped, pipeline⟩ order
  else (loop.setSession session ⟨.accepting, pipeline⟩, [])

/-- `OnWebSocketAccept`. -/
def onWebSocketAccept (loop : EventLoop) (session : ParticipantId)
    (pipeline : WritePipeline Json) (error : Bool) (order : HashOrder) : EventLoop × List Posted :=
  if error then loop.fail session ⟨.stopped, pipeline⟩ order
  else
    ({ loop with server := loop.server.connect session }.setSession session ⟨.reading, pipeline⟩,
      [])

/-- `OnRead`.  A frame is handled whatever `closing_` and `registered_` are, and the next read is
started. -/
def onRead (parse : ByteArray → ParseResult) (loop : EventLoop) (session : ParticipantId)
    (pipeline : WritePipeline Json) : ReadResult → EventLoop × List Posted
  | .closed order =>
      (loop.setSession session ⟨.stopped, pipeline⟩).runHandler
        (Session.removeFromRegistry order session)
  | .error order => loop.fail session ⟨.stopped, pipeline⟩ order
  | .frame frame draws => loop.runHandler (Session.onFrame parse draws session frame)

/-- The completion handler of a write. -/
def onWrite (loop : EventLoop) (session : ParticipantId) (state : SessionState) (error : Bool)
    (order : HashOrder) : EventLoop × List Posted :=
  if error then loop.fail session state order
  else (loop.setSession session { state with pipeline := state.pipeline.onWrite false }, [])

/-- A posted task. -/
def runTask (loop : EventLoop) (session : ParticipantId) (state : SessionState)
    (order : HashOrder) : Task Json → EventLoop × List Posted
  | .send message =>
      (loop.setSession session { state with pipeline := state.pipeline.runSend message }, [])
  | .close =>
      -- The lambda of `Close` returns early on a session that is closing.
      if state.pipeline.closing then (loop.setSession session state, [])
      else loop.fail session state order

/-- The loop.  An event whose operation is not outstanding cannot happen. -/
def machine (parse : ByteArray → ParseResult) : EventMachine EventLoop Event Posted where
  init := ⟨⟨∅, ∅, ∅, ∅⟩, fun _ => none⟩
  step loop event :=
    match event with
    | .start session tls =>
        match loop.sessions session with
        | some _ => none
        | none =>
            some (loop.setSession session
              ⟨if tls then .handshaking else .accepting, .fresh⟩, [])
    | .handshake session error order =>
        match loop.sessions session with
        | some ⟨.handshaking, pipeline⟩ => some (loop.onTlsHandshake session pipeline error order)
        | _ => none
    | .accept session error order =>
        match loop.sessions session with
        | some ⟨.accepting, pipeline⟩ =>
            some (loop.onWebSocketAccept session pipeline error order)
        | _ => none
    | .read session result =>
        match loop.sessions session with
        | some ⟨.reading, pipeline⟩ => some (loop.onRead parse session pipeline result)
        | _ => none
    | .write session index error order =>
        match loop.sessions session with
        | none => none
        | some state =>
            match state.pipeline.outstanding[index]? with
            | none => none
            | some _ =>
                -- The operation is over when its handler runs.
                some (loop.onWrite session
                  { state with pipeline := { state.pipeline with
                      outstanding := state.pipeline.outstanding.eraseIdx index } } error order)
    | .task session order =>
        match loop.sessions session with
        | none => none
        | some state =>
            -- Tasks of one session run in the order they were posted.
            match state.pipeline.posted with
            | [] => none
            | task :: rest =>
                some (loop.runTask session
                  { state with pipeline := { state.pipeline with posted := rest } } order task)
    | .close session =>
        match loop.sessions session with
        | none => none
        | some state =>
            some (loop.setSession session { state with pipeline := state.pipeline.post .close },
              [])

/-! ## What a handler does -/

variable {parse : ByteArray → ParseResult}

/-- The complete list of handlers: what the session was waiting for, the loop they leave, and the
messages they post. -/
inductive Handled (parse : ByteArray → ParseResult) (loop : EventLoop) :
    Event → EventLoop → List Posted → Prop
  | started {session : ParticipantId} {tls : Bool} (hnew : loop.sessions session = none) :
      Handled parse loop (.start session tls)
        (loop.setSession session ⟨if tls then .handshaking else .accepting, .fresh⟩) []
  | handshakeDone {session : ParticipantId} {order : HashOrder} {pipeline : WritePipeline Json}
      (hstate : loop.sessions session = some ⟨.handshaking, pipeline⟩) :
      Handled parse loop (.handshake session false order)
        (loop.setSession session ⟨.accepting, pipeline⟩) []
  | handshakeFailed {session : ParticipantId} {order : HashOrder} {pipeline : WritePipeline Json}
      (hstate : loop.sessions session = some ⟨.handshaking, pipeline⟩) :
      Handled parse loop (.handshake session true order)
        (loop.fail session ⟨.stopped, pipeline⟩ order).1
        (loop.fail session ⟨.stopped, pipeline⟩ order).2
  | accepted {session : ParticipantId} {order : HashOrder} {pipeline : WritePipeline Json}
      (hstate : loop.sessions session = some ⟨.accepting, pipeline⟩) :
      Handled parse loop (.accept session false order)
        ({ loop with server := loop.server.connect session }.setSession session
          ⟨.reading, pipeline⟩) []
  | acceptFailed {session : ParticipantId} {order : HashOrder} {pipeline : WritePipeline Json}
      (hstate : loop.sessions session = some ⟨.accepting, pipeline⟩) :
      Handled parse loop (.accept session true order)
        (loop.fail session ⟨.stopped, pipeline⟩ order).1
        (loop.fail session ⟨.stopped, pipeline⟩ order).2
  | readClosed {session : ParticipantId} {order : HashOrder} {pipeline : WritePipeline Json}
      (hstate : loop.sessions session = some ⟨.reading, pipeline⟩) :
      Handled parse loop (.read session (.closed order))
        ((loop.setSession session ⟨.stopped, pipeline⟩).runHandler
          (Session.removeFromRegistry order session)).1
        ((loop.setSession session ⟨.stopped, pipeline⟩).runHandler
          (Session.removeFromRegistry order session)).2
  | readFailed {session : ParticipantId} {order : HashOrder} {pipeline : WritePipeline Json}
      (hstate : loop.sessions session = some ⟨.reading, pipeline⟩) :
      Handled parse loop (.read session (.error order))
        (loop.fail session ⟨.stopped, pipeline⟩ order).1
        (loop.fail session ⟨.stopped, pipeline⟩ order).2
  | readFrame {session : ParticipantId} {frame : Frame} {draws : Nat → Draw}
      {pipeline : WritePipeline Json}
      (hstate : loop.sessions session = some ⟨.reading, pipeline⟩) :
      Handled parse loop (.read session (.frame frame draws))
        (loop.runHandler (Session.onFrame parse draws session frame)).1
        (loop.runHandler (Session.onFrame parse draws session frame)).2
  | written {session : ParticipantId} {index : Nat} {order : HashOrder} {state : SessionState}
      {message : Json} (hstate : loop.sessions session = some state)
      (hwrite : state.pipeline.outstanding[index]? = some message) :
      Handled parse loop (.write session index false order)
        (loop.setSession session ⟨state.phase, WritePipeline.onWrite
          { state.pipeline with outstanding := state.pipeline.outstanding.eraseIdx index }
            false⟩) []
  | writeFailed {session : ParticipantId} {index : Nat} {order : HashOrder} {state : SessionState}
      {message : Json} (hstate : loop.sessions session = some state)
      (hwrite : state.pipeline.outstanding[index]? = some message) :
      Handled parse loop (.write session index true order)
        (loop.fail session ⟨state.phase,
          { state.pipeline with outstanding := state.pipeline.outstanding.eraseIdx index }⟩ order).1
        (loop.fail session ⟨state.phase,
          { state.pipeline with outstanding := state.pipeline.outstanding.eraseIdx index }⟩ order).2
  | sent {session : ParticipantId} {order : HashOrder} {state : SessionState} {message : Json}
      {rest : List (Task Json)} (hstate : loop.sessions session = some state)
      (hposted : state.pipeline.posted = .send message :: rest) :
      Handled parse loop (.task session order)
        (loop.setSession session ⟨state.phase,
          WritePipeline.runSend { state.pipeline with posted := rest } message⟩) []
  | closedAgain {session : ParticipantId} {order : HashOrder} {state : SessionState}
      {rest : List (Task Json)} (hstate : loop.sessions session = some state)
      (hposted : state.pipeline.posted = .close :: rest)
      (hclosing : state.pipeline.closing = true) :
      Handled parse loop (.task session order)
        (loop.setSession session ⟨state.phase, { state.pipeline with posted := rest }⟩) []
  | closed {session : ParticipantId} {order : HashOrder} {state : SessionState}
      {rest : List (Task Json)} (hstate : loop.sessions session = some state)
      (hposted : state.pipeline.posted = .close :: rest)
      (hopen : state.pipeline.closing = false) :
      Handled parse loop (.task session order)
        (loop.fail session ⟨state.phase, { state.pipeline with posted := rest }⟩ order).1
        (loop.fail session ⟨state.phase, { state.pipeline with posted := rest }⟩ order).2
  | closeRequested {session : ParticipantId} {state : SessionState}
      (hstate : loop.sessions session = some state) :
      Handled parse loop (.close session)
        (loop.setSession session ⟨state.phase, state.pipeline.post .close⟩) []

/-- Every step of the loop is one of these handlers. -/
theorem handled_of_step {loop loop' : EventLoop} {event : Event} {posts : List Posted}
    (hstep : (machine parse).step loop event = some (loop', posts)) :
    Handled parse loop event loop' posts := by
  cases event with
  | start session tls =>
      simp only [machine] at hstep
      split at hstep
      · cases hstep
      · next hnew =>
          obtain ⟨rfl, rfl⟩ := Prod.mk.inj (Option.some.inj hstep)
          exact .started hnew
  | handshake session error order =>
      simp only [machine] at hstep
      split at hstep
      · next pipeline hstate =>
          have hresult := Option.some.inj hstep
          cases error with
          | true =>
              obtain ⟨rfl, rfl⟩ := Prod.mk.inj hresult
              exact .handshakeFailed hstate
          | false =>
              obtain ⟨rfl, rfl⟩ := Prod.mk.inj hresult
              exact .handshakeDone hstate
      · cases hstep
  | accept session error order =>
      simp only [machine] at hstep
      split at hstep
      · next pipeline hstate =>
          have hresult := Option.some.inj hstep
          cases error with
          | true =>
              obtain ⟨rfl, rfl⟩ := Prod.mk.inj hresult
              exact .acceptFailed hstate
          | false =>
              obtain ⟨rfl, rfl⟩ := Prod.mk.inj hresult
              exact .accepted hstate
      · cases hstep
  | read session result =>
      simp only [machine] at hstep
      split at hstep
      · next pipeline hstate =>
          have hresult := Option.some.inj hstep
          cases result with
          | closed order =>
              obtain ⟨rfl, rfl⟩ := Prod.mk.inj hresult
              exact .readClosed hstate
          | error order =>
              obtain ⟨rfl, rfl⟩ := Prod.mk.inj hresult
              exact .readFailed hstate
          | frame frame draws =>
              obtain ⟨rfl, rfl⟩ := Prod.mk.inj hresult
              exact .readFrame hstate
      · cases hstep
  | write session index error order =>
      simp only [machine] at hstep
      split at hstep
      · cases hstep
      · next state hstate =>
          split at hstep
          · cases hstep
          · next message hwrite =>
              have hresult := Option.some.inj hstep
              cases error with
              | true =>
                  obtain ⟨rfl, rfl⟩ := Prod.mk.inj hresult
                  exact .writeFailed hstate hwrite
              | false =>
                  obtain ⟨rfl, rfl⟩ := Prod.mk.inj hresult
                  exact .written hstate hwrite
  | task session order =>
      simp only [machine] at hstep
      split at hstep
      · cases hstep
      · next state hstate =>
          split at hstep
          · cases hstep
          · next task rest hposted =>
              have hresult := Option.some.inj hstep
              cases task with
              | send message =>
                  obtain ⟨rfl, rfl⟩ := Prod.mk.inj hresult
                  have hsent : Handled parse loop (.task session order) _ _ :=
                    .sent hstate hposted
                  exact hsent
              | close =>
                  simp only [runTask] at hresult
                  split_ifs at hresult with hclosing
                  · obtain ⟨rfl, rfl⟩ := Prod.mk.inj hresult
                    exact .closedAgain hstate hposted hclosing
                  · obtain ⟨rfl, rfl⟩ := Prod.mk.inj hresult
                    exact .closed hstate hposted (Bool.eq_false_iff.mpr hclosing)
  | close session =>
      simp only [machine] at hstep
      split at hstep
      · cases hstep
      · next state hstate =>
          obtain ⟨rfl, rfl⟩ := Prod.mk.inj (Option.some.inj hstep)
          exact .closeRequested hstate

/-! ## What a handler does to the server -/

/-- The event of the server that a handler amounts to, when it amounts to one. -/
def serverEvent (loop : EventLoop) : Event → Option Server.Event
  | .start _ _ => none
  | .handshake session error order => if error then some (.disconnect session order) else none
  | .accept session error order =>
      if error then some (.disconnect session order) else some (.connect session)
  | .read session (.closed order) => some (.disconnect session order)
  | .read session (.error order) => some (.disconnect session order)
  | .read session (.frame frame draws) => some (.frame session frame draws)
  | .write session _ error order => if error then some (.disconnect session order) else none
  | .task session order =>
      match loop.sessions session with
      | some ⟨_, ⟨false, _, _, .close :: _⟩⟩ => some (.disconnect session order)
      | _ => none
  | .close _ => none

/-- Of the posted tasks only a `Close` on a session that is not closing reaches the server. -/
theorem serverEvent_task {loop : EventLoop} {session : ParticipantId} {order : HashOrder}
    {state : SessionState} {task : Task Json} {rest : List (Task Json)}
    (hstate : loop.sessions session = some state)
    (hposted : state.pipeline.posted = task :: rest) :
    loop.serverEvent (.task session order) =
      match task, state.pipeline.closing with
      | .close, false => some (.disconnect session order)
      | _, _ => none := by
  obtain ⟨phase, ⟨closing, queue, outstanding, posted⟩⟩ := state
  simp only at hposted
  subst hposted
  cases task <;> cases closing <;> simp [serverEvent, hstate]

/-- The server took the event, or stood still. -/
def Drives (parse : ByteArray → ParseResult) (loop : EventLoop) (event : Option Server.Event)
    (loop' : EventLoop) (posts : List Posted) : Prop :=
  match event with
  | none => loop'.server = loop.server ∧ posts = []
  | some event => (Server.machine parse).step loop.server event = some (loop'.server, posts)

/-- The operation that a session waits for, if the session exists. -/
def phaseOf (loop : EventLoop) (session : ParticipantId) : Option Phase :=
  (loop.sessions session).map SessionState.phase

@[simp] theorem phaseOf_setSession (loop : EventLoop) (session other : ParticipantId)
    (state : SessionState) :
    (loop.setSession session state).phaseOf other =
      if other = session then some state.phase else loop.phaseOf other := by
  by_cases hsame : other = session
  · subst hsame
    simp [phaseOf, setSession]
  · simp [phaseOf, setSession, hsame]

@[simp] theorem phaseOf_runHandler (loop : EventLoop) (handler : Throwing World Unit)
    (session : ParticipantId) :
    (loop.runHandler handler).1.phaseOf session = loop.phaseOf session := by
  simp only [phaseOf, runHandler, postAll, Option.map_map]
  rfl

/-- A session is accepted once: before its accept it is not among the accepted sessions, and it
only reads after it. -/
structure Aligned (loop : EventLoop) : Prop where
  before : ∀ session, session ∈ loop.server.accepted →
    loop.phaseOf session = some .reading ∨ loop.phaseOf session = some .stopped
  reading : ∀ session, loop.phaseOf session = some .reading → session ∈ loop.server.accepted

theorem Aligned.runHandler {loop : EventLoop} (haligned : loop.Aligned)
    (handler : Throwing World Unit) : (loop.runHandler handler).1.Aligned := by
  constructor
  · intro session haccepted
    rw [phaseOf_runHandler]
    exact haligned.before session haccepted
  · intro session hphase
    rw [phaseOf_runHandler] at hphase
    exact haligned.reading session hphase

/-- Stopping a session, keeping its phase, or moving one that is not accepted yet. -/
theorem Aligned.setSession {loop : EventLoop} (haligned : loop.Aligned) {session : ParticipantId}
    {state : SessionState}
    (hphase : state.phase = .stopped ∨ loop.phaseOf session = some state.phase ∨
      (state.phase ≠ .reading ∧ session ∉ loop.server.accepted)) :
    (loop.setSession session state).Aligned := by
  constructor
  · intro other haccepted
    have hother := haligned.before other haccepted
    rw [phaseOf_setSession]
    split_ifs with hsame
    · subst hsame
      rcases hphase with hstopped | hkept | ⟨-, hnew⟩
      · exact Or.inr (by rw [hstopped])
      · rw [← hkept]
        exact hother
      · exact absurd haccepted hnew
    · exact hother
  · intro other hreading
    rw [phaseOf_setSession] at hreading
    split_ifs at hreading with hsame
    · subst hsame
      have hstate : state.phase = .reading := Option.some.inj hreading
      rcases hphase with hstopped | hkept | ⟨hnot, -⟩
      · rw [hstopped] at hstate
        cases hstate
      · exact haligned.reading other (hkept.trans hreading)
      · exact absurd hstate hnot
    · exact haligned.reading other hreading

theorem Aligned.fail {loop : EventLoop} (haligned : loop.Aligned) {session : ParticipantId}
    {state : SessionState}
    (hphase : state.phase = .stopped ∨ loop.phaseOf session = some state.phase)
    (order : HashOrder) : (loop.fail session state order).1.Aligned := by
  refine Aligned.runHandler (haligned.setSession ?_) _
  rcases hphase with hstopped | hkept
  · exact Or.inl hstopped
  · exact Or.inr (Or.inl hkept)

/-- A successful accept: the session becomes accepted and starts to read. -/
theorem Aligned.connect {loop : EventLoop} (haligned : loop.Aligned) (session : ParticipantId)
    (pipeline : WritePipeline Json) :
    (EventLoop.setSession { loop with server := loop.server.connect session } session
      ⟨.reading, pipeline⟩).Aligned := by
  constructor
  · intro other haccepted
    rw [phaseOf_setSession]
    split_ifs with hsame
    · exact Or.inl rfl
    · rcases Finset.mem_insert.mp haccepted with rfl | hold
      · exact absurd rfl hsame
      · exact haligned.before other hold
  · intro other hreading
    rw [phaseOf_setSession] at hreading
    split_ifs at hreading with hsame
    · rw [hsame]
      exact Finset.mem_insert_self _ _
    · exact Finset.mem_insert_of_mem (haligned.reading other hreading)

/-- Every handler drives the server by its server event, and sessions stay aligned. -/
theorem Aligned.step {loop loop' : EventLoop} {event : Event} {posts : List Posted}
    (haligned : loop.Aligned)
    (hstep : (machine parse).step loop event = some (loop', posts)) :
    loop'.Aligned ∧ Drives parse loop (loop.serverEvent event) loop' posts := by
  have hnotAccepted {session : ParticipantId} {phase : Option Phase}
      (hphase : loop.phaseOf session = phase) (hnot : phase ≠ some .reading)
      (hnot' : phase ≠ some .stopped) : session ∉ loop.server.accepted := by
    intro haccepted
    rcases haligned.before session haccepted with hreading | hstopped
    · exact hnot (hphase.symm.trans hreading)
    · exact hnot' (hphase.symm.trans hstopped)
  -- Handlers of writes and tasks leave the chain of the session alone.
  have hkept {session : ParticipantId} {state : SessionState}
      (hstate : loop.sessions session = some state) :
      loop.phaseOf session = some state.phase := by
    simp [phaseOf, hstate]
  cases handled_of_step hstep with
  | started hnew =>
      rename_i session tls
      have hphase : loop.phaseOf session = none := by simp [phaseOf, hnew]
      refine ⟨haligned.setSession (Or.inr (Or.inr ⟨?_, ?_⟩)), rfl, rfl⟩
      · cases tls <;> decide
      · exact hnotAccepted hphase (by decide) (by decide)
  | handshakeDone hstate =>
      rename_i session order pipeline
      have hphase : loop.phaseOf session = some .handshaking := by simp [phaseOf, hstate]
      refine ⟨haligned.setSession (Or.inr (Or.inr ⟨by simp, ?_⟩)), rfl, rfl⟩
      exact hnotAccepted hphase (by decide) (by decide)
  | handshakeFailed hstate => exact ⟨haligned.fail (Or.inl rfl) _, rfl⟩
  | accepted hstate =>
      rename_i session order pipeline
      have hphase : loop.phaseOf session = some .accepting := by simp [phaseOf, hstate]
      -- An accept is outstanding once, so the session was not accepted before.
      have hnew := hnotAccepted hphase (by decide) (by decide)
      exact ⟨haligned.connect session pipeline, if_neg hnew⟩
  | acceptFailed hstate => exact ⟨haligned.fail (Or.inl rfl) _, rfl⟩
  | readClosed hstate => exact ⟨(haligned.setSession (Or.inl rfl)).runHandler _, rfl⟩
  | readFailed hstate => exact ⟨haligned.fail (Or.inl rfl) _, rfl⟩
  | readFrame hstate =>
      rename_i session frame draws pipeline
      have hphase : loop.phaseOf session = some .reading := by simp [phaseOf, hstate]
      -- Only accepted sessions read, so the server takes the frame.
      exact ⟨haligned.runHandler _, if_pos (haligned.reading session hphase)⟩
  | written hstate hwrite =>
      have hphase := hkept hstate
      exact ⟨haligned.setSession (Or.inr (Or.inl hphase)), rfl, rfl⟩
  | writeFailed hstate hwrite =>
      have hphase := hkept hstate
      refine ⟨haligned.fail ?_ _, rfl⟩
      exact Or.inr hphase
  | sent hstate hposted =>
      have hphase := hkept hstate
      refine ⟨haligned.setSession (Or.inr (Or.inl hphase)), ?_⟩
      rw [serverEvent_task hstate hposted]
      exact ⟨rfl, rfl⟩
  | closedAgain hstate hposted hclosing =>
      have hphase := hkept hstate
      refine ⟨haligned.setSession (Or.inr (Or.inl hphase)), ?_⟩
      rw [serverEvent_task hstate hposted, hclosing]
      exact ⟨rfl, rfl⟩
  | closed hstate hposted hopen =>
      have hphase := hkept hstate
      refine ⟨haligned.fail ?_ _, ?_⟩
      · exact Or.inr hphase
      · rw [serverEvent_task hstate hposted, hopen]
        rfl
  | closeRequested hstate =>
      have hphase := hkept hstate
      exact ⟨haligned.setSession (Or.inr (Or.inl hphase)), rfl, rfl⟩

theorem aligned_of_run {history : List (EventMachine.Step EventLoop Event Posted)}
    {loop : EventLoop} (hrun : (machine parse).Run history loop) : loop.Aligned := by
  refine hrun.stateInvariant ?_ fun _ _ _ _ haligned hstep => (haligned.step hstep).1
  constructor
  · intro session haccepted
    exact absurd haccepted (Finset.notMem_empty session)
  · intro session hreading
    cases hreading

/-- **The loop refines the server.**  What the sessions of a run post, and the server it ends in,
are those of a run of the server alone. -/
theorem server_run {history : List (EventMachine.Step EventLoop Event Posted)} {loop : EventLoop}
    (hrun : (machine parse).Run history loop) :
    ∃ serverHistory, (Server.machine parse).Run serverHistory loop.server ∧
      EventMachine.trace serverHistory = EventMachine.trace history := by
  induction hrun with
  | nil => exact ⟨[], .nil, rfl⟩
  | snoc hprev hlast ih =>
      rename_i history loop event loop' posts
      -- The server takes one step or none for each handler.
      obtain ⟨serverHistory, hserver, htrace⟩ := ih
      have hdrives := ((aligned_of_run hprev).step hlast).2
      cases hevent : loop.serverEvent event with
      | none =>
          rw [hevent] at hdrives
          obtain ⟨hsame, rfl⟩ := hdrives
          refine ⟨serverHistory, ?_, ?_⟩
          · rw [hsame]
            exact hserver
          · rw [htrace, EventMachine.trace_concat, List.append_nil]
      | some serverEvent =>
          rw [hevent] at hdrives
          refine ⟨_, hserver.snoc hdrives, ?_⟩
          rw [EventMachine.trace_concat, EventMachine.trace_concat, htrace]

/-! ## The pipelines of the sessions -/

/-- Every session's pipeline is one that the pipeline machine reaches. -/
def PipelinesReachable (loop : EventLoop) : Prop :=
  ∀ session state, loop.sessions session = some state →
    (WritePipeline.machine Json).Reachable state.pipeline

/-- Posting tasks, one after the other. -/
theorem reachable_foldl_post {pipeline : WritePipeline Json}
    (hreach : (WritePipeline.machine Json).Reachable pipeline) (tasks : List (Task Json)) :
    (WritePipeline.machine Json).Reachable (tasks.foldl WritePipeline.post pipeline) := by
  induction tasks generalizing pipeline with
  | nil => exact hreach
  | cons task rest ih => exact ih (EventMachine.Reachable.step (e := .post task) hreach rfl)

theorem PipelinesReachable.setSession {loop : EventLoop} (hall : loop.PipelinesReachable)
    (session : ParticipantId) {phase : Phase} {pipeline : WritePipeline Json}
    (hreach : (WritePipeline.machine Json).Reachable pipeline) :
    (loop.setSession session ⟨phase, pipeline⟩).PipelinesReachable := by
  intro other state' hother
  by_cases hsame : other = session
  · subst hsame
    have hstate : ⟨phase, pipeline⟩ = state' := by simpa [EventLoop.setSession] using hother
    rw [← hstate]
    exact hreach
  · exact hall other state' (by simpa [EventLoop.setSession, hsame] using hother)

theorem PipelinesReachable.runHandler {loop : EventLoop} (hall : loop.PipelinesReachable)
    (handler : Throwing World Unit) : (loop.runHandler handler).1.PipelinesReachable := by
  intro session state hsession
  simp only [EventLoop.runHandler, postAll, Option.map_eq_some_iff] at hsession
  obtain ⟨before, hbefore, rfl⟩ := hsession
  exact reachable_foldl_post (hall session before hbefore) _

theorem PipelinesReachable.fail {loop : EventLoop} (hall : loop.PipelinesReachable)
    (session : ParticipantId) {phase : Phase} {pipeline : WritePipeline Json}
    (hreach : (WritePipeline.machine Json).Reachable pipeline.fail) (order : HashOrder) :
    (loop.fail session ⟨phase, pipeline⟩ order).1.PipelinesReachable :=
  (hall.setSession session hreach).runHandler _

theorem PipelinesReachable.step {loop loop' : EventLoop} {event : Event} {posts : List Posted}
    (hall : loop.PipelinesReachable)
    (hstep : (machine parse).step loop event = some (loop', posts)) :
    loop'.PipelinesReachable := by
  have hfail {pipeline : WritePipeline Json}
      (hreach : (WritePipeline.machine Json).Reachable pipeline) :
      (WritePipeline.machine Json).Reachable pipeline.fail :=
    EventMachine.Reachable.step (e := .readFailed) hreach rfl
  have hran {session : ParticipantId} {state : SessionState} {task : Task Json}
      {rest : List (Task Json)} (hstate : loop.sessions session = some state)
      (hposted : state.pipeline.posted = task :: rest) :
      (WritePipeline.machine Json).Reachable
        (WritePipeline.runTask { state.pipeline with posted := rest } task) :=
    EventMachine.Reachable.step (e := .runPosted) (hall session state hstate)
      (by simp only [WritePipeline.machine, hposted]; rfl)
  cases handled_of_step hstep with
  | started hnew => exact hall.setSession _ .init
  | handshakeDone hstate => exact hall.setSession _ (hall _ _ hstate)
  | handshakeFailed hstate => exact hall.fail _ (hfail (hall _ _ hstate)) _
  | accepted hstate =>
      rename_i session order pipeline
      have hconnected : PipelinesReachable
          { loop with server := loop.server.connect session } := hall
      exact hconnected.setSession session (hall _ _ hstate)
  | acceptFailed hstate => exact hall.fail _ (hfail (hall _ _ hstate)) _
  | readClosed hstate => exact (hall.setSession _ (hall _ _ hstate)).runHandler _
  | readFailed hstate => exact hall.fail _ (hfail (hall _ _ hstate)) _
  | readFrame hstate => exact hall.runHandler _
  | written hstate hwrite =>
      rename_i session index order state message
      have hwritten := EventMachine.Reachable.step (e := .writeCompleted index false)
        (hall session state hstate) (by simp only [WritePipeline.machine, hwrite]; rfl)
      exact hall.setSession session hwritten
  | writeFailed hstate hwrite =>
      rename_i session index order state message
      have hwritten := EventMachine.Reachable.step (e := .writeCompleted index true)
        (hall session state hstate) (by simp only [WritePipeline.machine, hwrite]; rfl)
      exact hall.fail session hwritten order
  | sent hstate hposted => exact hall.setSession _ (hran hstate hposted)
  | closedAgain hstate hposted hclosing =>
      rename_i session order state rest
      -- A session that is closing already is left as it is by the task.
      have hsame : WritePipeline.fail { state.pipeline with posted := rest } =
          { state.pipeline with posted := rest } := by
        simp [WritePipeline.fail, hclosing]
      refine hall.setSession session ?_
      rw [← hsame]
      exact hran hstate hposted
  | closed hstate hposted hopen => exact hall.fail _ (hran hstate hposted) _
  | closeRequested hstate =>
      have hposted := EventMachine.Reachable.step (e := .post .close) (hall _ _ hstate) rfl
      exact hall.setSession _ hposted

/-- **Each session of the loop runs its write pipeline**, whatever the other sessions do. -/
theorem pipelines_of_run {history : List (EventMachine.Step EventLoop Event Posted)}
    {loop : EventLoop} (hrun : (machine parse).Run history loop) : loop.PipelinesReachable := by
  refine hrun.stateInvariant ?_ fun _ _ _ _ hall hstep => hall.step hstep
  intro session state hsession
  cases hsession

end EventLoop
end Net
end BuzzWeb
