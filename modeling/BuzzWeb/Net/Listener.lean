import Mathlib
import BuzzWeb.Net.SocketDelivery

/-!
# The listener, and what TLS guards

`net/Listener` and `Server::Run`: one accept is outstanding at a time, every accepted connection
becomes a session, and all sessions are TLS sessions or all are plain ones, as the configuration
says.  The other handlers are those of the event loop, so a run of the listening server is a run of
the loop (`loop_run`) in which sessions are started by accepts only.

With TLS, nothing is read from a client and nothing is sent to it before its handshake succeeded.
-/

namespace BuzzWeb
namespace Net

open Domain App

namespace EventLoop

variable {parse : ByteArray → ParseResult}

/-! ## The chain of one session -/

/-- What a handler does to the chain of one session: it keeps the phase or stops it, starts it, or
moves it on. -/
inductive ChainMove (loop loop' : EventLoop) (event : Event) (session : ParticipantId) : Prop
  | kept
      (hphase : loop'.phaseOf session = loop.phaseOf session ∨
        loop.phaseOf session ≠ none ∧ loop'.phaseOf session = some .stopped)
      (haccepted : session ∈ loop'.server.accepted → session ∈ loop.server.accepted)
  | started {tls : Bool} (hevent : event = .start session tls)
      (hnew : loop.phaseOf session = none)
      (hphase : loop'.phaseOf session = some (if tls then .handshaking else .accepting))
      (haccepted : session ∈ loop'.server.accepted → session ∈ loop.server.accepted)
  | handshaken {order : HashOrder} (hevent : event = .handshake session false order)
      (hbefore : loop.phaseOf session = some .handshaking)
      (hphase : loop'.phaseOf session = some .accepting)
  | accepted {order : HashOrder} (hevent : event = .accept session false order)
      (hbefore : loop.phaseOf session = some .accepting)
      (hphase : loop'.phaseOf session = some .reading)

/-- Handlers that move no chain but may stop that of their own session. -/
theorem ChainMove.of_fail {loop : EventLoop} {event : Event} {owner : ParticipantId}
    {phase phase' : Phase} {pipeline : WritePipeline Json} {order : HashOrder}
    (hknown : loop.phaseOf owner = some phase') (hphase : phase = .stopped ∨ phase = phase')
    (session : ParticipantId) :
    ChainMove loop (loop.fail owner ⟨phase, pipeline⟩ order).1 event session := by
  refine .kept ?_ fun haccepted => haccepted
  rw [fail, phaseOf_runHandler, phaseOf_setSession]
  split_ifs with hsame
  · subst hsame
    rw [hknown]
    rcases hphase with rfl | rfl
    · exact Or.inr ⟨Option.some_ne_none _, rfl⟩
    · exact Or.inl rfl
  · exact Or.inl rfl

theorem ChainMove.of_setSession {loop : EventLoop} {event : Event} {owner : ParticipantId}
    {phase : Phase} {pipeline : WritePipeline Json} (hphase : loop.phaseOf owner = some phase)
    (session : ParticipantId) :
    ChainMove loop (loop.setSession owner ⟨phase, pipeline⟩) event session := by
  refine .kept (Or.inl ?_) fun haccepted => haccepted
  rw [phaseOf_setSession]
  split_ifs with hsame
  · rw [hsame, hphase]
  · rfl

theorem phaseOf_of_state {loop : EventLoop} {session : ParticipantId} {state : SessionState}
    (hstate : loop.sessions session = some state) :
    loop.phaseOf session = some state.phase := by
  rw [phaseOf, hstate]
  rfl

theorem chainMove_of_step {loop loop' : EventLoop} {event : Event} {posts : List Posted}
    (hstep : (machine parse).step loop event = some (loop', posts)) (session : ParticipantId) :
    ChainMove loop loop' event session := by
  -- A handler of one session leaves the chains of the others alone.
  have hother {owner : ParticipantId} {state : SessionState} (hne : session ≠ owner) :
      ChainMove loop (loop.setSession owner state) event session := by
    refine .kept (Or.inl ?_) fun haccepted => haccepted
    rw [phaseOf_setSession, if_neg hne]
  cases handled_of_step hstep with
  | @started owner tls hnew =>
      by_cases hsame : session = owner
      · subst hsame
        refine .started rfl ?_ ?_ fun haccepted => haccepted
        · rw [phaseOf, hnew]
          rfl
        · rw [phaseOf_setSession, if_pos rfl]
      · exact hother hsame
  | @handshakeDone owner order pipeline hstate =>
      by_cases hsame : session = owner
      · subst hsame
        refine .handshaken rfl (phaseOf_of_state hstate) ?_
        rw [phaseOf_setSession, if_pos rfl]
      · exact hother hsame
  | handshakeFailed hstate => exact .of_fail (phaseOf_of_state hstate) (Or.inl rfl) session
  | @accepted owner order pipeline hstate =>
      by_cases hsame : session = owner
      · subst hsame
        refine .accepted rfl (phaseOf_of_state hstate) ?_
        rw [phaseOf_setSession, if_pos rfl]
      · refine .kept (Or.inl ?_) fun haccepted => ?_
        · rw [phaseOf_setSession, if_neg hsame]
          rfl
        · exact (Finset.mem_insert.mp haccepted).resolve_left hsame
  | acceptFailed hstate => exact .of_fail (phaseOf_of_state hstate) (Or.inl rfl) session
  | @readClosed owner order pipeline hstate =>
      refine .kept ?_ fun haccepted => haccepted
      rw [phaseOf_runHandler, phaseOf_setSession]
      split_ifs with hsame
      · rw [hsame, phaseOf_of_state hstate]
        exact Or.inr ⟨Option.some_ne_none _, rfl⟩
      · exact Or.inl rfl
  | readFailed hstate => exact .of_fail (phaseOf_of_state hstate) (Or.inl rfl) session
  | readFrame hstate =>
      refine .kept (Or.inl ?_) fun haccepted => haccepted
      rw [phaseOf_runHandler]
  | written hstate hwrite =>
      have hphase := phaseOf_of_state hstate
      exact .of_setSession hphase session
  | writeFailed hstate hwrite =>
      have hphase := phaseOf_of_state hstate
      exact .of_fail hphase (Or.inr rfl) session
  | sent hstate hposted =>
      have hphase := phaseOf_of_state hstate
      exact .of_setSession hphase session
  | closedAgain hstate hposted hclosing =>
      have hphase := phaseOf_of_state hstate
      exact .of_setSession hphase session
  | closed hstate hposted hopen =>
      have hphase := phaseOf_of_state hstate
      exact .of_fail hphase (Or.inr rfl) session
  | closeRequested hstate =>
      have hphase := phaseOf_of_state hstate
      exact .of_setSession hphase session

theorem reading_of_frame {loop loop' : EventLoop} {session : ParticipantId} {frame : Frame}
    {draws : Nat → Draw} {posts : List Posted}
    (hstep : (machine parse).step loop (.read session (.frame frame draws)) =
      some (loop', posts)) : loop.phaseOf session = some .reading := by
  cases handled_of_step hstep with
  | readFrame hstate => exact phaseOf_of_state hstate

theorem accepting_of_accept {loop loop' : EventLoop} {session : ParticipantId} {error : Bool}
    {order : HashOrder} {posts : List Posted}
    (hstep : (machine parse).step loop (.accept session error order) = some (loop', posts)) :
    loop.phaseOf session = some .accepting := by
  cases handled_of_step hstep with
  | accepted hstate => exact phaseOf_of_state hstate
  | acceptFailed hstate => exact phaseOf_of_state hstate

theorem handshaking_of_handshake {loop loop' : EventLoop} {session : ParticipantId}
    {error : Bool} {order : HashOrder} {posts : List Posted}
    (hstep : (machine parse).step loop (.handshake session error order) = some (loop', posts)) :
    loop.phaseOf session = some .handshaking := by
  cases handled_of_step hstep with
  | handshakeDone hstate => exact phaseOf_of_state hstate
  | handshakeFailed hstate => exact phaseOf_of_state hstate

/-! ## Behind the handshake -/

/-- The handshake of the session succeeded in the history. -/
def Handshaken (history : List LoopStep)
    (session : ParticipantId) : Prop :=
  ∃ st ∈ history, ∃ order, st.event = .handshake session false order

/-- Only TLS sessions were started. -/
def OnlyTls (history : List LoopStep) : Prop :=
  ∀ st ∈ history, ∀ session tls, st.event = .start session tls → tls = true

/-- Sessions that are past the handshake have made it. -/
def Secured (history : List LoopStep) (loop : EventLoop) : Prop :=
  ∀ session, loop.phaseOf session = some .accepting ∨ loop.phaseOf session = some .reading ∨
    session ∈ loop.server.accepted → Handshaken history session

theorem Handshaken.concat {history : List LoopStep}
    {session : ParticipantId} (hbefore : Handshaken history session)
    (st : LoopStep) : Handshaken (history ++ [st]) session := by
  obtain ⟨earlier, hmem, hevent⟩ := hbefore
  exact ⟨earlier, List.mem_append_left _ hmem, hevent⟩

theorem secured_of_run {history : List LoopStep}
    {loop : EventLoop} (hrun : (machine parse).Run history loop) (htls : OnlyTls history) :
    Secured history loop := by
  induction hrun with
  | nil =>
      rintro session (hphase | hphase | haccepted)
      · cases hphase
      · cases hphase
      · cases haccepted
  | @snoc history loop event loop' posts hprev hlast ih =>
      have hbefore : Secured history loop :=
        ih fun st hmem => htls st (List.mem_append_left _ hmem)
      intro session hpast
      cases chainMove_of_step hlast session with
      | kept hphase haccepted =>
          refine (hbefore session ?_).concat _
          rcases hpast with hpast | hpast | hpast
          · rcases hphase with hkept | hstopped
            · exact Or.inl (hkept ▸ hpast)
            · rw [hstopped.2] at hpast
              cases hpast
          · rcases hphase with hkept | hstopped
            · exact Or.inr (Or.inl (hkept ▸ hpast))
            · rw [hstopped.2] at hpast
              cases hpast
          · exact Or.inr (Or.inr (haccepted hpast))
      | @started tls hevent hnew hphase haccepted =>
          -- A TLS session starts with its handshake.
          obtain rfl := htls _ (List.mem_append_right _ (List.mem_singleton_self _)) session tls
            hevent
          rw [hphase] at hpast
          rcases hpast with hpast | hpast | hpast
          · cases hpast
          · cases hpast
          · exact (hbefore session (Or.inr (Or.inr (haccepted hpast)))).concat _
      | handshaken hevent hhandshaking hphase =>
          exact ⟨_, List.mem_append_right _ (List.mem_singleton_self _), _, hevent⟩
      | accepted hevent haccepting hphase =>
          exact (hbefore session (Or.inl haccepting)).concat _

/-- Whoever is sent something is an accepted session. -/
theorem recipient_accepted_of_step {history : List LoopStep}
    {loop loop' : EventLoop} {event : Event} {posts : List Posted}
    (hrun : (machine parse).Run history loop)
    (hstep : (machine parse).step loop event = some (loop', posts)) {post : Posted}
    (hmem : post ∈ posts) : post.1 ∈ loop.server.accepted := by
  have hdrives := ((aligned_of_run hrun).step hstep).2
  cases hevent : loop.serverEvent event with
  | none =>
      rw [hevent] at hdrives
      rw [hdrives.2] at hmem
      cases hmem
  | some serverEvent =>
      rw [hevent] at hdrives
      exact Server.recipient_accepted (wellFormed_of_loop_run hrun) hdrives hmem

end EventLoop

/-! ## The listener -/

/-- The listening server: the event loop, whether the acceptor is open, and how many accepts are
outstanding. -/
structure Listening where
  loop : EventLoop
  isOpen : Bool
  accepts : Nat

namespace Listening

/-- A handler of the listener, or one of the loop. -/
inductive Event where
  | onAccept (error : Bool) (session : ParticipantId)
  | stop
  | handler (event : EventLoop.Event)

def acceptNext (listening : Listening) : Listening :=
  { listening with accepts := listening.accepts + 1 }

/-- `OnAccept`.  The session that is made of the connection has a new id. -/
def onAccept (parse : ByteArray → ParseResult) (tlsEnabled : Bool) (listening : Listening)
    (error : Bool) (session : ParticipantId) : Option (Listening × List Posted) :=
  if !listening.isOpen then
    some (listening, [])
  else if error then
    some (listening.acceptNext, [])
  else
    ((EventLoop.machine parse).step listening.loop (.start session tlsEnabled)).map fun result =>
      ({ listening with loop := result.1 }.acceptNext, result.2)

/-- `Start` has made the first accept; sessions are started by accepts only. -/
def machine (parse : ByteArray → ParseResult) (tlsEnabled : Bool) :
    EventMachine Listening Event Posted where
  init := ⟨(EventLoop.machine parse).init, true, 1⟩
  step listening event :=
    match event with
    | .onAccept error session =>
        match listening.accepts with
        | 0 => none
        | accepts + 1 =>
            -- The operation is over when its handler runs.
            onAccept parse tlsEnabled { listening with accepts := accepts } error session
    | .stop => some ({ listening with isOpen := false }, [])
    | .handler (.start _ _) => none
    | .handler event =>
        ((EventLoop.machine parse).step listening.loop event).map fun result =>
          ({ listening with loop := result.1 }, result.2)

variable {parse : ByteArray → ParseResult} {tlsEnabled : Bool}

/-- Everything a step can be. -/
theorem step_cases {listening listening' : Listening} {event : Event} {posts : List Posted}
    (hstep : (machine parse tlsEnabled).step listening event = some (listening', posts)) :
    (∃ error session accepts, event = .onAccept error session ∧ listening.accepts = accepts + 1 ∧
      listening.isOpen = false ∧ listening' = { listening with accepts := accepts } ∧
      posts = []) ∨
    (∃ session, event = .onAccept true session ∧ listening.accepts ≠ 0 ∧
      listening.isOpen = true ∧ listening' = listening ∧ posts = []) ∨
    (∃ session loop', event = .onAccept false session ∧ listening.accepts ≠ 0 ∧
      listening.isOpen = true ∧ listening' = { listening with loop := loop' } ∧
      (EventLoop.machine parse).step listening.loop (.start session tlsEnabled) =
        some (loop', posts)) ∨
    (event = .stop ∧ listening' = { listening with isOpen := false } ∧ posts = []) ∨
    (∃ handler loop', event = .handler handler ∧ (∀ session tls, handler ≠ .start session tls) ∧
      listening' = { listening with loop := loop' } ∧
      (EventLoop.machine parse).step listening.loop handler = some (loop', posts)) := by
  obtain ⟨loop, isOpen, accepts⟩ := listening
  cases event with
  | onAccept error session =>
      cases accepts with
      | zero => cases hstep
      | succ accepts =>
          cases isOpen with
          | false =>
              obtain ⟨rfl, rfl⟩ := Prod.mk.inj (Option.some.inj hstep)
              exact Or.inl ⟨error, session, accepts, rfl, rfl, rfl, rfl, rfl⟩
          | true =>
              cases error with
              | true =>
                  obtain ⟨rfl, rfl⟩ := Prod.mk.inj (Option.some.inj hstep)
                  exact Or.inr (Or.inl ⟨session, rfl, Nat.succ_ne_zero _, rfl, rfl, rfl⟩)
              | false =>
                  obtain ⟨⟨loop', posts'⟩, hstart, hresult⟩ := Option.map_eq_some_iff.mp hstep
                  obtain ⟨rfl, rfl⟩ := Prod.mk.inj hresult
                  exact Or.inr (Or.inr (Or.inl ⟨session, loop', rfl, Nat.succ_ne_zero _, rfl, rfl,
                    hstart⟩))
  | stop =>
      obtain ⟨rfl, rfl⟩ := Prod.mk.inj (Option.some.inj hstep)
      exact Or.inr (Or.inr (Or.inr (Or.inl ⟨rfl, rfl, rfl⟩)))
  | handler event =>
      have hnotStart : ∀ session tls, event ≠ .start session tls := by
        rintro session tls rfl
        cases hstep
      have hloop : ((EventLoop.machine parse).step loop event).map (fun result =>
          (Listening.mk result.1 isOpen accepts, result.2)) = some (listening', posts) := by
        cases event with
        | start session tls => exact absurd rfl (hnotStart session tls)
        | _ => exact hstep
      obtain ⟨⟨loop', posts'⟩, hhandler, hresult⟩ := Option.map_eq_some_iff.mp hloop
      obtain ⟨rfl, rfl⟩ := Prod.mk.inj hresult
      exact Or.inr (Or.inr (Or.inr (Or.inr ⟨event, loop', rfl, hnotStart, rfl, hhandler⟩)))

/-- A handler of the loop is a step of the loop. -/
theorem step_handler {listening listening' : Listening} {event : EventLoop.Event}
    {posts : List Posted}
    (hstep : (machine parse tlsEnabled).step listening (.handler event) =
      some (listening', posts)) :
    (EventLoop.machine parse).step listening.loop event = some (listening'.loop, posts) := by
  rcases step_cases hstep with ⟨_, _, _, hevent, -⟩ | ⟨_, hevent, -⟩ | ⟨_, _, hevent, -⟩ |
    ⟨hevent, -⟩ | ⟨handler, loop', hevent, -, rfl, hhandler⟩
  · cases hevent
  · cases hevent
  · cases hevent
  · cases hevent
  · injection hevent with hsame
    rw [hsame]
    exact hhandler

/-! ## The loop inside the listener -/

/-- A step of the listening server. -/
abbrev Step := EventMachine.Step Listening Event Posted

/-- The step of the loop that a step of the listening server is, if it is one. -/
def loopStep (tlsEnabled : Bool) (st : Step) : Option EventLoop.LoopStep :=
  match st.event with
  | .onAccept false session =>
      if st.pre.isOpen then
        some ⟨st.pre.loop, .start session tlsEnabled, st.output, st.post.loop⟩
      else none
  | .onAccept true _ => none
  | .stop => none
  | .handler event => some ⟨st.pre.loop, event, st.output, st.post.loop⟩

/-- The steps of the loop in a history. -/
def loopHistory (tlsEnabled : Bool) (history : List Step) : List EventLoop.LoopStep :=
  history.filterMap (loopStep tlsEnabled)

theorem loopHistory_concat (tlsEnabled : Bool) (history : List Step) (st : Step) :
    loopHistory tlsEnabled (history ++ [st]) =
      loopHistory tlsEnabled history ++ (loopStep tlsEnabled st).toList := by
  rw [loopHistory, List.filterMap_append]
  cases hst : loopStep tlsEnabled st <;> simp [loopHistory, hst]

/-- A run of the listening server is a run of the loop. -/
theorem loop_run {history : List Step} {listening : Listening}
    (hrun : (machine parse tlsEnabled).Run history listening) :
    (EventLoop.machine parse).Run (loopHistory tlsEnabled history) listening.loop := by
  induction hrun with
  | nil => exact .nil
  | @snoc history listening event listening' posts hprev hlast ih =>
      rw [loopHistory_concat]
      rcases step_cases hlast with ⟨error, session, accepts, rfl, -, hclosed, rfl, rfl⟩ |
        ⟨session, rfl, -, -, rfl, rfl⟩ | ⟨session, loop', rfl, -, hopen, rfl, hstart⟩ |
        ⟨rfl, rfl, rfl⟩ | ⟨handler, loop', rfl, -, rfl, hhandler⟩
      · have hnone : loopStep tlsEnabled ⟨listening, .onAccept error session, [],
            { listening with accepts := accepts }⟩ = none := by
          cases error <;> simp [loopStep, hclosed]
        rw [hnone, Option.toList_none, List.append_nil]
        exact ih
      · exact (List.append_nil (loopHistory tlsEnabled history)).symm ▸ ih
      · have hsome : loopStep tlsEnabled ⟨listening, .onAccept false session, posts,
            { listening with loop := loop' }⟩ =
              some ⟨listening.loop, .start session tlsEnabled, posts, loop'⟩ := by
          simp [loopStep, hopen]
        rw [hsome]
        exact ih.snoc hstart
      · exact (List.append_nil (loopHistory tlsEnabled history)).symm ▸ ih
      · exact ih.snoc hhandler

/-- The handshake of the session succeeded in the history. -/
def Handshaken (history : List Step) (session : ParticipantId) : Prop :=
  ∃ st ∈ history, ∃ order, st.event = .handler (.handshake session false order)

/-- The events of the loop's history come from those of the listening server. -/
theorem event_of_loopHistory {history : List Step} {inner : EventLoop.LoopStep}
    (hmem : inner ∈ loopHistory tlsEnabled history) :
    (∃ session, inner.event = .start session tlsEnabled) ∨
      ∃ st ∈ history, st.event = .handler inner.event := by
  obtain ⟨st, hst, hinner⟩ := List.mem_filterMap.mp hmem
  unfold loopStep at hinner
  split at hinner
  · split_ifs at hinner
    obtain rfl := Option.some.inj hinner
    exact Or.inl ⟨_, rfl⟩
  · cases hinner
  · cases hinner
  · next event hevent =>
      obtain rfl := Option.some.inj hinner
      exact Or.inr ⟨st, hst, hevent⟩

theorem handshaken_of_loopHistory {history : List Step} {session : ParticipantId}
    (hinner : EventLoop.Handshaken (loopHistory tlsEnabled history) session) :
    Handshaken history session := by
  obtain ⟨inner, hmem, order, hevent⟩ := hinner
  rcases event_of_loopHistory hmem with ⟨started, hstart⟩ | ⟨st, hst, hhandler⟩
  · rw [hstart] at hevent
    cases hevent
  · exact ⟨st, hst, order, hevent ▸ hhandler⟩

theorem secured_of_listening {history : List Step} {listening : Listening}
    (hrun : (machine parse true).Run history listening) {session : ParticipantId}
    (hpast : listening.loop.phaseOf session = some .accepting ∨
      listening.loop.phaseOf session = some .reading ∨
      session ∈ listening.loop.server.accepted) : Handshaken history session := by
  have htls : EventLoop.OnlyTls (loopHistory true history) := by
    intro inner hmem started tls hevent
    rcases event_of_loopHistory hmem with ⟨other, hstart⟩ | ⟨st, hst, hhandler⟩
    · rw [hevent] at hstart
      injection hstart
    · -- The loop's own handlers start nothing.
      obtain ⟨-, hstep⟩ := hrun.step_of_mem hst
      rw [hevent] at hhandler
      rw [hhandler] at hstep
      cases hstep
  exact handshaken_of_loopHistory (EventLoop.secured_of_run (loop_run hrun) htls session hpast)

/-- **Nothing passes before the handshake.**  In every run of the server with TLS: whoever is sent a
message, has a frame handled, has a WebSocket accept complete or is registered, has had its TLS
handshake succeed earlier in the run. -/
theorem nothing_before_handshake {history before after : List Step} {listening : Listening}
    {st : Step} (hrun : (machine parse true).Run history listening)
    (hsplit : history = before ++ st :: after) :
    (∀ post ∈ st.output, Handshaken before post.1) ∧
    (∀ session frame draws, st.event = .handler (.read session (.frame frame draws)) →
      Handshaken before session) ∧
    (∀ session error order, st.event = .handler (.accept session error order) →
      Handshaken before session) ∧
    ∀ session ∈ st.pre.loop.server.registered, Handshaken before session := by
  obtain ⟨hbefore, hstep⟩ := hrun.split hsplit
  have hloop := loop_run hbefore
  refine ⟨fun post hmem => ?_, fun session frame draws hevent => ?_,
    fun session error order hevent => ?_, fun session hregistered => ?_⟩
  · have haccepted : post.1 ∈ st.pre.loop.server.accepted := by
      rcases step_cases hstep with ⟨error, session, accepts, -, -, -, -, hnone⟩ |
        ⟨session, -, -, -, -, hnone⟩ | ⟨session, loop', -, -, -, -, hstart⟩ | ⟨-, -, hnone⟩ |
        ⟨handler, loop', -, -, -, hhandler⟩
      · rw [hnone] at hmem
        cases hmem
      · rw [hnone] at hmem
        cases hmem
      · exact EventLoop.recipient_accepted_of_step hloop hstart hmem
      · rw [hnone] at hmem
        cases hmem
      · exact EventLoop.recipient_accepted_of_step hloop hhandler hmem
    exact secured_of_listening hbefore (Or.inr (Or.inr haccepted))
  · rw [hevent] at hstep
    have hreading := EventLoop.reading_of_frame (step_handler hstep)
    exact secured_of_listening hbefore (Or.inr (Or.inl hreading))
  · rw [hevent] at hstep
    have haccepting := EventLoop.accepting_of_accept (step_handler hstep)
    exact secured_of_listening hbefore (Or.inl haccepting)
  · have hwell := EventLoop.wellFormed_of_loop_run hloop
    exact secured_of_listening hbefore
      (Or.inr (Or.inr (hwell.registered_accepted hregistered)))

/-- A connection, its handshake and its accept, and a binary frame. -/
def securedFrame (draws : Nat → Draw) : List Event :=
  [.onAccept false "p_1", .handler (.handshake "p_1" false .ascending),
    .handler (.accept "p_1" false .ascending),
    .handler (.read "p_1" (.frame (.binary .empty) draws))]

/-- The frame is answered behind the handshake. -/
theorem secured_frame_answered :
    ∃ history listening st, (machine Server.sampleParse true).exec (securedFrame fun _ => 0) =
        some (history, listening) ∧ history[3]? = some st ∧ st.output.map Prod.fst = ["p_1"] ∧
      ∀ post ∈ st.output, Handshaken (history.take 3) post.1 := by
  have hexec : (machine Server.sampleParse true).exec (securedFrame fun _ => 0) = some (_, _) := rfl
  refine ⟨_, _, _, hexec, rfl, rfl, ?_⟩
  exact (nothing_before_handshake (EventMachine.run_of_exec hexec) rfl).1

/-! ## The accept loop -/

/-- A step of the loop knows the sessions it knew, and one that it starts. -/
theorem known_of_loop_step {loop loop' : EventLoop} {event : EventLoop.Event}
    {posts : List Posted}
    (hstep : (EventLoop.machine parse).step loop event = some (loop', posts))
    (session : ParticipantId) :
    loop'.phaseOf session ≠ none ↔
      loop.phaseOf session ≠ none ∨ ∃ tls, event = .start session tls := by
  cases EventLoop.chainMove_of_step hstep session with
  | kept hphase haccepted =>
      have hnotStart : loop.phaseOf session = none → ¬ ∃ tls, event = .start session tls := by
        rintro hnone ⟨tls, rfl⟩
        cases EventLoop.handled_of_step hstep with
        | started hnew =>
            rw [EventLoop.phaseOf_setSession, if_pos rfl, hnone] at hphase
            rcases hphase with hsame | ⟨hknown, -⟩
            · cases hsame
            · exact hknown rfl
      rcases hphase with hkept | ⟨hknown, hstopped⟩
      · rw [hkept]
        refine ⟨Or.inl, ?_⟩
        rintro (hknown | hstart)
        · exact hknown
        · exact fun hnone => hnotStart hnone hstart
      · simp [hknown, hstopped]
  | started hevent hnew hphase haccepted => simp [hevent, hphase]
  | handshaken hevent hbefore hphase => simp [hbefore, hphase]
  | accepted hevent hbefore hphase => simp [hbefore, hphase]

/-- The session was made of a connection that was accepted before the listener was stopped. -/
def Connected (history : List Step) (session : ParticipantId) : Prop :=
  ∃ before st after, history = before ++ st :: after ∧ st.event = .onAccept false session ∧
    ∀ earlier ∈ before, earlier.event ≠ .stop

theorem connected_concat {history : List Step} {st : Step} {session : ParticipantId} :
    Connected (history ++ [st]) session ↔
      Connected history session ∨
        st.event = .onAccept false session ∧ ∀ earlier ∈ history, earlier.event ≠ .stop := by
  constructor
  · rintro ⟨before, found, after, hsplit, hevent, hearlier⟩
    rcases List.eq_nil_or_concat after with rfl | ⟨rest, last, rfl⟩
    · obtain ⟨rfl, hlast⟩ := List.append_inj' hsplit rfl
      obtain rfl := List.singleton_inj.mp hlast
      exact Or.inr ⟨hevent, hearlier⟩
    · rw [List.concat_eq_append, ← List.cons_append, ← List.append_assoc] at hsplit
      exact Or.inl ⟨before, found, rest, (List.append_inj' hsplit rfl).1, hevent, hearlier⟩
  · rintro (⟨before, found, after, rfl, hevent, hearlier⟩ | ⟨hevent, hearlier⟩)
    · exact ⟨before, found, after ++ [st], by simp, hevent, hearlier⟩
    · exact ⟨history, st, [], rfl, hevent, hearlier⟩

/-- A plain session never waits for a handshake. -/
theorem not_handshaking_of_plain {history : List Step} {listening : Listening}
    (hrun : (machine parse false).Run history listening) (session : ParticipantId) :
    listening.loop.phaseOf session ≠ some .handshaking := by
  revert session
  refine hrun.stateInvariant (I := fun listening => ∀ session,
    listening.loop.phaseOf session ≠ some .handshaking) (by simp [machine, EventLoop.machine,
      EventLoop.phaseOf]) ?_
  intro listening event listening' posts hall hstep session
  -- Whatever the loop does, only a TLS start makes a session wait for a handshake.
  have hloop {loop' : EventLoop} {inner : EventLoop.Event}
      (hinner : (EventLoop.machine parse).step listening.loop inner = some (loop', posts))
      (hplain : ∀ tls, inner = .start session tls → tls = false) :
      loop'.phaseOf session ≠ some .handshaking := by
    cases EventLoop.chainMove_of_step hinner session with
    | kept hphase haccepted =>
        rcases hphase with hkept | ⟨-, hstopped⟩
        · rw [hkept]
          exact hall session
        · rw [hstopped]
          decide
    | @started tls hevent hnew hphase haccepted =>
        rw [hphase, hplain tls hevent]
        decide
    | handshaken hevent hbefore hphase =>
        rw [hphase]
        decide
    | accepted hevent hbefore hphase =>
        rw [hphase]
        decide
  rcases step_cases hstep with ⟨error, other, accepts, -, -, -, rfl, -⟩ |
    ⟨other, -, -, -, rfl, -⟩ | ⟨other, loop', -, -, -, rfl, hstart⟩ | ⟨-, rfl, -⟩ |
    ⟨handler, loop', -, hnotStart, rfl, hhandler⟩
  · exact hall session
  · exact hall session
  · refine hloop hstart ?_
    rintro tls hsame
    injection hsame with _ htls
    exact htls.symm
  · exact hall session
  · refine hloop hhandler ?_
    rintro tls rfl
    exact absurd rfl (hnotStart session tls)

/-- While the listener is open one accept is outstanding, and never more. -/
theorem accepts_of_run {history : List Step} {listening : Listening}
    (hrun : (machine parse tlsEnabled).Run history listening) :
    (listening.isOpen = true → listening.accepts = 1) ∧ listening.accepts ≤ 1 := by
  refine hrun.stateInvariant (I := fun listening =>
    (listening.isOpen = true → listening.accepts = 1) ∧ listening.accepts ≤ 1)
    ⟨fun _ => rfl, le_refl 1⟩ ?_
  rintro listening event listening' posts ⟨hone, hmost⟩ hstep
  rcases step_cases hstep with ⟨error, session, accepts, -, haccepts, hclosed, rfl, -⟩ |
    ⟨session, -, -, -, rfl, -⟩ | ⟨session, loop', -, -, -, rfl, -⟩ | ⟨-, rfl, -⟩ |
    ⟨handler, loop', -, -, rfl, -⟩
  · refine ⟨fun hopen => absurd (hclosed.symm.trans hopen) Bool.false_ne_true, ?_⟩
    change accepts ≤ 1
    omega
  · exact ⟨hone, hmost⟩
  · exact ⟨hone, hmost⟩
  · exact ⟨fun hopen => absurd hopen Bool.false_ne_true, hmost⟩
  · exact ⟨hone, hmost⟩

/-- The listener is open until it is stopped. -/
theorem isOpen_of_run {history : List Step} {listening : Listening}
    (hrun : (machine parse tlsEnabled).Run history listening) :
    listening.isOpen = true ↔ ∀ st ∈ history, st.event ≠ .stop := by
  induction hrun with
  | nil => simp [machine]
  | @snoc history listening event listening' posts hprev hlast ih =>
      simp only [List.mem_append, List.mem_singleton, or_imp, forall_and, forall_eq, ← ih]
      rcases step_cases hlast with ⟨error, session, accepts, rfl, -, hclosed, rfl, -⟩ |
        ⟨session, rfl, -, -, rfl, -⟩ | ⟨session, loop', rfl, -, -, rfl, -⟩ | ⟨rfl, rfl, -⟩ |
        ⟨handler, loop', rfl, -, rfl, -⟩
      all_goals simp

/-- The sessions are those of the connections that were accepted while the listener was open. -/
theorem known_iff_connected {history : List Step} {listening : Listening}
    (hrun : (machine parse tlsEnabled).Run history listening) (session : ParticipantId) :
    listening.loop.phaseOf session ≠ none ↔ Connected history session := by
  induction hrun with
  | nil =>
      refine ⟨fun hknown => absurd rfl hknown, ?_⟩
      rintro ⟨before, st, after, hsplit, -⟩
      simp at hsplit
  | @snoc history listening event listening' posts hprev hlast ih =>
      rw [connected_concat, ← ih, ← isOpen_of_run hprev]
      rcases step_cases hlast with ⟨error, other, accepts, rfl, -, hclosed, rfl, -⟩ |
        ⟨other, rfl, -, -, rfl, -⟩ | ⟨other, loop', rfl, -, hopen, rfl, hstart⟩ | ⟨rfl, rfl, -⟩ |
        ⟨handler, loop', rfl, hnotStart, rfl, hhandler⟩
      · simp [hclosed]
      · simp
      · simp only [known_of_loop_step hstart session, hopen, and_true]
        refine or_congr_right ⟨?_, ?_⟩
        · rintro ⟨tls, hsame⟩
          injection hsame with hsession
          rw [hsession]
        · intro hsame
          injection hsame with _ hsession
          exact ⟨tlsEnabled, by rw [hsession]⟩
      · simp
      · have hno : ¬ ∃ tls, handler = .start session tls := by
          rintro ⟨tls, rfl⟩
          exact hnotStart session tls rfl
        simp [known_of_loop_step hhandler session, hno]

/-- **The accept loop.**  In every run: while the listener is open exactly one accept is outstanding,
and never more than one; it is open until it is stopped; the sessions are exactly those made of the
connections that were accepted before that; and without TLS no handshake is ever waited for. -/
theorem accept_loop {history : List Step} {listening : Listening}
    (hrun : (machine parse tlsEnabled).Run history listening) :
    (listening.isOpen = true → listening.accepts = 1) ∧ listening.accepts ≤ 1 ∧
    (listening.isOpen = true ↔ ∀ st ∈ history, st.event ≠ .stop) ∧
    (∀ session, listening.loop.phaseOf session ≠ none ↔ Connected history session) ∧
    (tlsEnabled = false → ∀ st ∈ history, ∀ session error order,
      st.event ≠ .handler (.handshake session error order)) := by
  have hplain : tlsEnabled = false → ∀ st ∈ history, ∀ session error order,
      st.event ≠ .handler (.handshake session error order) := by
    rintro rfl st hmem session error order hevent
    obtain ⟨⟨before, hbefore⟩, hstep⟩ := hrun.step_of_mem hmem
    rw [hevent] at hstep
    refine not_handshaking_of_plain hbefore session ?_
    exact EventLoop.handshaking_of_handshake (step_handler hstep)
  obtain ⟨hone, hmost⟩ := accepts_of_run hrun
  exact ⟨hone, hmost, isOpen_of_run hrun, fun session => known_iff_connected hrun session, hplain⟩

/-- A connection, the listener stopped, and one accept that was still outstanding. -/
theorem accept_loop_stopped :
    ∃ history listening, (machine Server.sampleParse false).exec
        [.onAccept false "p_1", .stop, .onAccept false "p_2"] = some (history, listening) ∧
      listening.accepts = 0 ∧ (listening.loop.phaseOf "p_1" ≠ none ↔ Connected history "p_1") ∧
      ¬ Connected history "p_2" := by
  have hexec : (machine Server.sampleParse false).exec
      [.onAccept false "p_1", .stop, .onAccept false "p_2"] = some (_, _) := rfl
  obtain ⟨-, -, -, hknown, -⟩ := accept_loop (EventMachine.run_of_exec hexec)
  refine ⟨_, _, hexec, rfl, hknown "p_1", fun hconnected => ?_⟩
  exact (hknown "p_2").mpr hconnected rfl

end Listening

end Net
end BuzzWeb
