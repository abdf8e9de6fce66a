import Mathlib
import BuzzWeb.Net.EventLoop
import BuzzWeb.Net.RosterReplay

/-!
# From the handlers to the sockets

What a handler posts for a session goes through the executor, the write queue and one write after
the other before it reaches the socket.  This module follows the messages all the way.  For every
run of the loop, what was written to the socket of a session, what waits in its queue and what
waits in its executor make up, in this order, what the handlers posted for it.

Two laws rest on this.  A session that is closing writes at most one more message.  And the roster
that a client reads off its socket is one that the room has had: it may be late, it is never
invented, and it is the present one as soon as nothing is waiting.
-/

namespace BuzzWeb
namespace Net

open Domain App ClientView

namespace Server

variable {parse : ByteArray → ParseResult}

/-- Handlers post to accepted sessions only: to the session they belong to, or to one they found in
the registry. -/
theorem recipient_accepted {server server' : Server} {event : Event} {posts : List Posted}
    (hwell : server.WellFormed)
    (hstep : (machine parse).step server event = some (server', posts)) {post : Posted}
    (hmem : post ∈ posts) : post.1 ∈ server.accepted := by
  have hfound {session : ParticipantId} (hregistry : session ∈ server.registry) :
      session ∈ server.accepted := by
    rw [hwell.registry_eq] at hregistry
    exact hwell.registered_accepted hregistry
  have hcopy {registry : SessionRegistry} (hsubset : registry ⊆ server.registry)
      {delivered : ControlDispatcherEvent}
      (hevent : post ∈ Session.eventPosts registry delivered) : post.1 ∈ server.accepted := by
    obtain ⟨recipient, message⟩ := post
    exact hfound (hsubset (mem_eventPosts.mp hevent).2.1)
  rcases step_cases hstep with ⟨session, -, -, -, rfl⟩ |
    ⟨session, frame, draws, -, haccepted, houtcome⟩ | ⟨session, order, -, -, -, rfl⟩ |
    ⟨session, order, -, -, -, rfl⟩
  · simp at hmem
  · cases houtcome with
    | refused hreply hok =>
        obtain rfl := List.mem_singleton.mp hmem
        exact haccepted
    | created hrequest hfresh =>
        obtain rfl := List.mem_singleton.mp hmem
        exact haccepted
    | joined hrequest hstored hadmits =>
        rcases List.mem_cons.mp hmem with rfl | hevent
        · exact haccepted
        · exact hcopy (Finset.Subset.refl _) hevent
    | left hrequest hstored hmember =>
        rcases List.mem_cons.mp hmem with rfl | hevent
        · exact haccepted
        · exact hcopy (Finset.Subset.refl _) hevent
    | relayed hrequest hself htarget hregistered =>
        rcases List.mem_cons.mp hmem with rfl | hreply
        · exact hfound hregistered
        · obtain rfl := List.mem_singleton.mp hreply
          exact haccepted
  · obtain ⟨delivered, -, hevent⟩ := List.mem_flatMap.mp hmem
    exact hcopy (Finset.erase_subset _ _) hevent
  · simp at hmem

/-- The list that a notice carries is the one that the step has stored. -/
theorem notice_list_stored {server server' : Server} {event : Event} {posts : List Posted}
    (hwell : server.WellFormed)
    (hstep : (machine parse).step server event = some (server', posts)) {code : RoomCode}
    {session : ParticipantId} {notice : Observation}
    (hsent : notice ∈ notices code session posts) :
    ∃ room, server'.rooms.lookup code = some room ∧ room.participants = notice.participants := by
  have heffect := roomEffect_of_step hwell hstep code session
  generalize server.rooms.lookup code = before at heffect
  generalize hafter : server'.rooms.lookup code = after at heffect
  generalize notices code session posts = sent at heffect hsent
  cases heffect with
  | same => simp at hsent
  | created =>
      split_ifs at hsent with hself
      · obtain rfl := List.mem_singleton.mp hsent
        exact ⟨_, rfl, rfl⟩
      · simp at hsent
  | joined hnew =>
      split_ifs at hsent with hself hhears
      · obtain rfl := List.mem_singleton.mp hsent
        exact ⟨_, rfl, rfl⟩
      · obtain rfl := List.mem_singleton.mp hsent
        exact ⟨_, rfl, rfl⟩
      · simp at hsent
  | left =>
      rename_i self room
      split_ifs at hsent with hhears
      · obtain rfl := List.mem_singleton.mp hsent
        -- Whoever hears of the leave is still in the room, so the room is kept.
        have hstays : (room.without self).hasParticipant session = true := by
          rw [Room.hasParticipant_without, hhears.2.2]
          simpa using hhears.2.1
        obtain ⟨listed, hlisted, -⟩ := (Room.hasParticipant_iff _ session).mp hstays
        exact ⟨_, remainingSlot_of_occupied (List.ne_nil_of_mem hlisted), rfl⟩
      · simp at hsent

end Server

namespace WritePipeline

variable {μ : Type}

/-- Everything that is still on its way to the socket, oldest first. -/
def backlog (pipeline : WritePipeline μ) : List μ :=
  pipeline.writeQueue ++ pipeline.waitingMessages

@[simp] theorem backlog_fail (pipeline : WritePipeline μ) :
    pipeline.fail.backlog = pipeline.backlog := rfl

theorem backlog_post_send (pipeline : WritePipeline μ) (message : μ) :
    (pipeline.post (.send message)).backlog = pipeline.backlog ++ [message] := by
  simp [backlog, post, waitingMessages, taskMessage?]

theorem backlog_post_close (pipeline : WritePipeline μ) :
    (pipeline.post .close).backlog = pipeline.backlog := by
  simp [backlog, post, waitingMessages, taskMessage?]

/-- Posting sends one after the other. -/
theorem backlog_foldl_post (pipeline : WritePipeline μ) (messages : List μ) :
    ((messages.map Task.send).foldl post pipeline).backlog = pipeline.backlog ++ messages := by
  induction messages generalizing pipeline with
  | nil => simp
  | cons message rest ih =>
      rw [List.map_cons, List.foldl_cons, ih, backlog_post_send, List.append_assoc]
      rfl

/-- The task of a `Send` moves its message from the executor to the end of the queue. -/
theorem backlog_runSend {pipeline : WritePipeline μ} {message : μ} {rest : List (Task μ)}
    (hposted : pipeline.posted = .send message :: rest) :
    (runSend { pipeline with posted := rest } message).backlog = pipeline.backlog := by
  simp [backlog, waitingMessages, hposted, taskMessage?]

/-- The task of a `Close` carries no message. -/
theorem backlog_dropClose {pipeline : WritePipeline μ} {rest : List (Task μ)}
    (hposted : pipeline.posted = .close :: rest) :
    backlog { pipeline with posted := rest } = pipeline.backlog := by
  simp [backlog, waitingMessages, hposted, taskMessage?, List.filterMap_cons]

/-- A completed write takes its message off the front. -/
theorem backlog_written {pipeline : WritePipeline μ} (hsound : pipeline.Sound) {index : Nat}
    {message : μ} (hwrite : pipeline.outstanding[index]? = some message) :
    pipeline.backlog = message ::
      (onWrite { pipeline with outstanding := pipeline.outstanding.eraseIdx index }
        false).backlog := by
  obtain ⟨-, rest, hqueue⟩ := hsound.completed hwrite
  simp [backlog, onWrite_writeQueue, waitingMessages, hqueue]

end WritePipeline

namespace EventLoop

variable {parse : ByteArray → ParseResult}

/-- A step of a history of the loop. -/
abbrev LoopStep := EventMachine.Step EventLoop Event Posted

/-- The messages that are for one session. -/
def messagesTo (session : ParticipantId) (posts : List Posted) : List Json :=
  posts.filterMap fun post => if post.1 = session then some post.2 else none

/-- What the handlers of a history posted for a session, in order. -/
def sentTo (session : ParticipantId) (history : List LoopStep) : List Json :=
  messagesTo session (EventMachine.trace history)

/-- The message whose write to the socket of the session a step has completed. -/
def writtenBy (session : ParticipantId) (st : LoopStep) : Option Json :=
  match st.event with
  | .write writer index false _ =>
      if writer = session then
        (st.pre.sessions session).bind fun state => state.pipeline.outstanding[index]?
      else none
  | _ => none

/-- What has been written to the socket of a session, in order. -/
def writtenTo (session : ParticipantId) (history : List LoopStep) : List Json :=
  history.filterMap (writtenBy session)

/-- What is on its way to the socket of a session. -/
def backlogOf (loop : EventLoop) (session : ParticipantId) : List Json :=
  match loop.sessions session with
  | none => []
  | some state => state.pipeline.backlog

theorem messagesTo_append (session : ParticipantId) (first second : List Posted) :
    messagesTo session (first ++ second) =
      messagesTo session first ++ messagesTo session second :=
  List.filterMap_append

theorem writtenTo_concat (session : ParticipantId) (history : List LoopStep) (st : LoopStep) :
    writtenTo session (history ++ [st]) =
      writtenTo session history ++ (writtenBy session st).toList := by
  rw [writtenTo, List.filterMap_append, List.filterMap_cons]
  cases writtenBy session st <;> rfl

theorem tasksFor_eq (session : ParticipantId) (posts : List Posted) :
    tasksFor session posts = (messagesTo session posts).map Task.send := by
  rw [tasksFor, messagesTo, List.map_filterMap]
  apply List.filterMap_congr
  intro post _
  split_ifs <;> rfl

@[simp] theorem backlogOf_setSession (loop : EventLoop) (session other : ParticipantId)
    (state : SessionState) :
    (loop.setSession session state).backlogOf other =
      if other = session then state.pipeline.backlog else loop.backlogOf other := by
  by_cases hsame : other = session
  · subst hsame
    simp [backlogOf, setSession]
  · simp [backlogOf, setSession, hsame]

/-- Replacing a session by one with the same backlog changes no backlog. -/
theorem backlogOf_setSession_same {loop : EventLoop} {session : ParticipantId}
    {state : SessionState} (hstate : loop.sessions session = some state) (phase : Phase)
    {pipeline : WritePipeline Json} (hsame : pipeline.backlog = state.pipeline.backlog)
    (other : ParticipantId) :
    (loop.setSession session ⟨phase, pipeline⟩).backlogOf other = loop.backlogOf other := by
  rw [backlogOf_setSession]
  split_ifs with hother
  · rw [hother, hsame, backlogOf, hstate]
  · rfl

/-- Every session a message is posted for exists. -/
def Addressed (loop : EventLoop) (posts : List Posted) : Prop :=
  ∀ post ∈ posts, ∃ state, loop.sessions post.1 = some state

theorem messagesTo_of_missing {loop : EventLoop} {posts : List Posted}
    (haddressed : loop.Addressed posts) {session : ParticipantId}
    (hmissing : loop.sessions session = none) : messagesTo session posts = [] := by
  rw [messagesTo, List.filterMap_eq_nil_iff]
  intro post hmem
  obtain ⟨state, hstate⟩ := haddressed post hmem
  rw [if_neg]
  rintro rfl
  rw [hmissing] at hstate
  cases hstate

/-- A handler adds to the backlogs what it posts. -/
theorem backlogOf_runHandler {loop : EventLoop} {handler : Throwing World Unit}
    (haddressed : loop.Addressed (loop.runHandler handler).2) (session : ParticipantId) :
    (loop.runHandler handler).1.backlogOf session =
      loop.backlogOf session ++ messagesTo session (loop.runHandler handler).2 := by
  cases hstate : loop.sessions session with
  | none =>
      rw [messagesTo_of_missing haddressed hstate]
      simp [backlogOf, runHandler, postAll, hstate]
  | some state =>
      simp only [backlogOf, runHandler, postAll, hstate, Option.map_some, tasksFor_eq]
      exact WritePipeline.backlog_foldl_post _ _

theorem Addressed.setSession {loop : EventLoop} {posts : List Posted}
    (haddressed : loop.Addressed posts) (session : ParticipantId) (state : SessionState) :
    (loop.setSession session state).Addressed posts := by
  intro post hmem
  obtain ⟨state', hstate'⟩ := haddressed post hmem
  by_cases hsame : post.1 = session
  · exact ⟨state, by simp [EventLoop.setSession, hsame]⟩
  · exact ⟨state', by simpa [EventLoop.setSession, hsame] using hstate'⟩

/-- Failing changes the backlogs by the posts of the clean-up. -/
theorem backlogOf_fail {loop : EventLoop} {session : ParticipantId} {state : SessionState}
    {order : HashOrder} (hstate : loop.sessions session = some state) {phase : Phase}
    {pipeline : WritePipeline Json} (hsame : pipeline.backlog = state.pipeline.backlog)
    (haddressed : loop.Addressed (loop.fail session ⟨phase, pipeline⟩ order).2)
    (other : ParticipantId) :
    (loop.fail session ⟨phase, pipeline⟩ order).1.backlogOf other =
      loop.backlogOf other ++ messagesTo other (loop.fail session ⟨phase, pipeline⟩ order).2 := by
  have hfailed : pipeline.fail.backlog = state.pipeline.backlog := hsame
  rw [fail, backlogOf_runHandler (haddressed.setSession session _),
    backlogOf_setSession_same hstate phase hfailed]

/-- Whatever a handler posts is for sessions that exist. -/
theorem addressed_of_step {loop loop' : EventLoop} {event : Event} {posts : List Posted}
    (haligned : loop.Aligned) (hwell : loop.server.WellFormed)
    (hstep : (machine parse).step loop event = some (loop', posts)) : loop.Addressed posts := by
  have hdrives := (haligned.step hstep).2
  intro post hmem
  cases hevent : loop.serverEvent event with
  | none =>
      rw [hevent] at hdrives
      rw [hdrives.2] at hmem
      cases hmem
  | some serverEvent =>
      rw [hevent] at hdrives
      have haccepted := Server.recipient_accepted hwell hdrives hmem
      -- An accepted session has a phase, so it is one of the loop.
      have hphase : ∃ phase, loop.phaseOf post.1 = some phase := by
        rcases haligned.before post.1 haccepted with hreading | hstopped
        · exact ⟨_, hreading⟩
        · exact ⟨_, hstopped⟩
      obtain ⟨phase, hphase⟩ := hphase
      obtain ⟨state, hstate, -⟩ := Option.map_eq_some_iff.mp hphase
      exact ⟨state, hstate⟩

/-- One step: what it wrote and what is then on its way are what was on its way and what it
posted. -/
theorem step_delivers {loop loop' : EventLoop} {event : Event} {posts : List Posted}
    (haligned : loop.Aligned) (hwell : loop.server.WellFormed)
    (hpipelines : loop.PipelinesReachable)
    (hstep : (machine parse).step loop event = some (loop', posts)) (session : ParticipantId) :
    (writtenBy session ⟨loop, event, posts, loop'⟩).toList ++ loop'.backlogOf session =
      loop.backlogOf session ++ messagesTo session posts := by
  have haddressed := addressed_of_step haligned hwell hstep
  cases handled_of_step hstep with
  | started hnew =>
      rename_i other tls
      rw [backlogOf_setSession]
      by_cases hsame : session = other
      · subst hsame
        simp [writtenBy, backlogOf, hnew, messagesTo, WritePipeline.backlog, WritePipeline.fresh,
          WritePipeline.waitingMessages]
      · simp [writtenBy, messagesTo, hsame]
  | handshakeDone hstate =>
      rw [backlogOf_setSession_same hstate _ rfl]
      simp [writtenBy, messagesTo]
  | handshakeFailed hstate => exact backlogOf_fail hstate rfl haddressed session
  | accepted hstate =>
      rename_i other order pipeline
      have hconnected : EventLoop.sessions { loop with server := loop.server.connect other } other =
          some ⟨.accepting, pipeline⟩ := hstate
      rw [backlogOf_setSession_same hconnected _ rfl]
      simp [writtenBy, messagesTo, backlogOf]
  | acceptFailed hstate => exact backlogOf_fail hstate rfl haddressed session
  | readClosed hstate =>
      rename_i other order pipeline
      have hposts := backlogOf_runHandler (haddressed.setSession other ⟨.stopped, pipeline⟩) session
      rw [hposts, backlogOf_setSession_same hstate _ rfl]
      simp [writtenBy]
  | readFailed hstate => exact backlogOf_fail hstate rfl haddressed session
  | readFrame hstate => exact backlogOf_runHandler haddressed session
  | written hstate hwrite =>
      rename_i other index order state message
      obtain ⟨earlier, hreach⟩ := hpipelines other state hstate
      have hpopped := WritePipeline.backlog_written (WritePipeline.sound_of_run hreach) hwrite
      rw [backlogOf_setSession]
      by_cases hsame : session = other
      · subst hsame
        simp [writtenBy, hstate, hwrite, backlogOf, hpopped, messagesTo]
      · simp [writtenBy, hsame, Ne.symm hsame, messagesTo]
  | writeFailed hstate hwrite =>
      rename_i other index order state message
      have hsame : WritePipeline.backlog { state.pipeline with
          outstanding := state.pipeline.outstanding.eraseIdx index } = state.pipeline.backlog := rfl
      exact backlogOf_fail hstate hsame haddressed session
  | sent hstate hposted =>
      rw [backlogOf_setSession_same hstate _ (WritePipeline.backlog_runSend hposted)]
      simp [writtenBy, messagesTo]
  | closedAgain hstate hposted hclosing =>
      rw [backlogOf_setSession_same hstate _ (WritePipeline.backlog_dropClose hposted)]
      simp [writtenBy, messagesTo]
  | closed hstate hposted hopen =>
      exact backlogOf_fail hstate (WritePipeline.backlog_dropClose hposted) haddressed session
  | closeRequested hstate =>
      rw [backlogOf_setSession_same hstate _ (WritePipeline.backlog_post_close _)]
      simp [writtenBy, messagesTo]

theorem wellFormed_of_loop_run {history : List LoopStep} {loop : EventLoop}
    (hrun : (machine parse).Run history loop) : loop.server.WellFormed := by
  obtain ⟨serverHistory, hserver, -⟩ := server_run hrun
  exact Server.wellFormed_of_run hserver

/-- Written, queued and waiting messages are the posted ones, over a whole run. -/
theorem delivered_of_run {history : List LoopStep} {loop : EventLoop}
    (hrun : (machine parse).Run history loop) (session : ParticipantId) :
    writtenTo session history ++ loop.backlogOf session = sentTo session history := by
  induction hrun with
  | nil => rfl
  | snoc hprev hlast ih =>
      have hstep := step_delivers (aligned_of_run hprev) (wellFormed_of_loop_run hprev)
        (pipelines_of_run hprev) hlast session
      rw [writtenTo_concat, List.append_assoc, hstep, ← List.append_assoc, ih, sentTo, sentTo,
        EventMachine.trace_concat, messagesTo_append]

/-- Sessions are never forgotten. -/
theorem session_kept {loop loop' : EventLoop} {event : Event} {posts : List Posted}
    (hstep : (machine parse).step loop event = some (loop', posts)) {session : ParticipantId}
    (hmissing : loop'.sessions session = none) : loop.sessions session = none := by
  have hphase : loop'.phaseOf session = none := by simp [phaseOf, hmissing]
  suffices hnone : loop.phaseOf session = none by simpa [phaseOf] using hnone
  have hset {other : ParticipantId} {state : SessionState}
      (hafter : (loop.setSession other state).phaseOf session = none) :
      loop.phaseOf session = none := by
    rw [phaseOf_setSession] at hafter
    split_ifs at hafter
    exact hafter
  cases handled_of_step hstep
  case accepted hstate =>
    rw [phaseOf_setSession] at hphase
    split_ifs at hphase
    exact hphase
  case readFrame hstate =>
    rw [phaseOf_runHandler] at hphase
    exact hphase
  case handshakeFailed | acceptFailed | readClosed | readFailed | writeFailed | closed =>
    exact hset ((phaseOf_runHandler _ _ _).symm.trans hphase)
  all_goals exact hset hphase

/-- Nothing is posted for a session that was never started. -/
theorem sentTo_of_missing {history : List LoopStep} {loop : EventLoop}
    (hrun : (machine parse).Run history loop) {session : ParticipantId}
    (hmissing : loop.sessions session = none) : sentTo session history = [] := by
  induction hrun with
  | nil => rfl
  | snoc hprev hlast ih =>
      have hbefore := session_kept hlast hmissing
      have haddressed := addressed_of_step (aligned_of_run hprev) (wellFormed_of_loop_run hprev)
        hlast
      rw [sentTo, EventMachine.trace_concat, messagesTo_append,
        messagesTo_of_missing haddressed hbefore, List.append_nil]
      exact ih hbefore

/-! ## A session that is closing -/

/-- `closing_` and the writes in progress. -/
def statusOf (loop : EventLoop) (session : ParticipantId) : Option (Bool × List Json) :=
  (loop.sessions session).map fun state => (state.pipeline.closing, state.pipeline.outstanding)

def isClosing (loop : EventLoop) (session : ParticipantId) : Bool :=
  (loop.statusOf session).any Prod.fst

/-- What was written to the socket of a session while it was closing. -/
def lateWritesTo (session : ParticipantId) (history : List LoopStep) : List Json :=
  writtenTo session (history.filter fun st => st.pre.isClosing session)

@[simp] theorem statusOf_setSession (loop : EventLoop) (session other : ParticipantId)
    (state : SessionState) :
    (loop.setSession session state).statusOf other =
      if other = session then some (state.pipeline.closing, state.pipeline.outstanding)
      else loop.statusOf other := by
  by_cases hsame : other = session
  · subst hsame
    simp [statusOf, setSession]
  · simp [statusOf, setSession, hsame]

theorem status_foldl_post (pipeline : WritePipeline Json) (tasks : List (Task Json)) :
    (tasks.foldl WritePipeline.post pipeline).closing = pipeline.closing ∧
      (tasks.foldl WritePipeline.post pipeline).outstanding = pipeline.outstanding := by
  induction tasks generalizing pipeline with
  | nil => exact ⟨rfl, rfl⟩
  | cons task rest ih => exact ih (pipeline.post task)

/-- Posting tasks leaves the flag and the writes alone. -/
@[simp] theorem statusOf_runHandler (loop : EventLoop) (handler : Throwing World Unit)
    (session : ParticipantId) :
    (loop.runHandler handler).1.statusOf session = loop.statusOf session := by
  cases hstate : loop.sessions session with
  | none => simp [statusOf, runHandler, postAll, hstate]
  | some state =>
      obtain ⟨hclosing, houtstanding⟩ := status_foldl_post state.pipeline
        (tasksFor session (loop.server.run handler).2)
      simp [statusOf, runHandler, postAll, hstate, hclosing, houtstanding]

/-- A closing pipeline starts no write. -/
theorem doWrite_of_closing {μ : Type} {pipeline : WritePipeline μ}
    (hclosing : pipeline.closing = true) : pipeline.doWrite = pipeline := by
  unfold WritePipeline.doWrite
  split
  · rfl
  · rw [if_pos hclosing]

theorem runSend_of_closing {μ : Type} {pipeline : WritePipeline μ}
    (hclosing : pipeline.closing = true) (message : μ) :
    (pipeline.runSend message).closing = true ∧
      (pipeline.runSend message).outstanding = pipeline.outstanding := by
  have hqueued : WritePipeline.doWrite { pipeline with
      writeQueue := pipeline.writeQueue ++ [message] } =
        { pipeline with writeQueue := pipeline.writeQueue ++ [message] } :=
    doWrite_of_closing hclosing
  simp only [WritePipeline.runSend, hqueued]
  split_ifs <;> exact ⟨hclosing, rfl⟩

theorem onWrite_of_closing {μ : Type} {pipeline : WritePipeline μ}
    (hclosing : pipeline.closing = true) :
    (pipeline.onWrite false).closing = true ∧
      (pipeline.onWrite false).outstanding = pipeline.outstanding := by
  have hpopped : WritePipeline.doWrite { pipeline with
      writeQueue := pipeline.writeQueue.tail } =
        { pipeline with writeQueue := pipeline.writeQueue.tail } :=
    doWrite_of_closing hclosing
  simp only [WritePipeline.onWrite, Bool.false_eq_true, if_false, hpopped]
  split_ifs <;> exact ⟨hclosing, rfl⟩

/-- When the session was closing it still is, and `n` of the writes that were in progress are
over. -/
def StaysClosing (loop loop' : EventLoop) (session : ParticipantId) (n : Nat) : Prop :=
  ∀ outstanding, loop.statusOf session = some (true, outstanding) →
    ∃ outstanding', loop'.statusOf session = some (true, outstanding') ∧
      n + outstanding'.length ≤ outstanding.length

theorem StaysClosing.setSession {loop : EventLoop} {session other : ParticipantId}
    {state : SessionState} (hstate : loop.sessions other = some state) {phase : Phase}
    {pipeline : WritePipeline Json} {n : Nat} (hother : session ≠ other → n = 0)
    (hkept : state.pipeline.closing = true → pipeline.closing = true ∧
      n + pipeline.outstanding.length ≤ state.pipeline.outstanding.length) :
    StaysClosing loop (loop.setSession other ⟨phase, pipeline⟩) session n := by
  intro outstanding hstatus
  rw [statusOf_setSession]
  by_cases hsame : session = other
  · subst hsame
    have hread : state.pipeline.closing = true ∧ state.pipeline.outstanding = outstanding := by
      simpa [statusOf, hstate] using hstatus
    obtain ⟨hclosing, rfl⟩ := hread
    obtain ⟨hclosing', hle⟩ := hkept hclosing
    exact ⟨pipeline.outstanding, by rw [if_pos rfl, hclosing'], hle⟩
  · refine ⟨outstanding, by rw [if_neg hsame, hstatus], ?_⟩
    rw [hother hsame, Nat.zero_add]

theorem StaysClosing.runHandler {loop loop' : EventLoop} {session : ParticipantId} {n : Nat}
    (hstays : StaysClosing loop loop' session n) (handler : Throwing World Unit) :
    StaysClosing loop (loop'.runHandler handler).1 session n := by
  intro outstanding hstatus
  rw [statusOf_runHandler]
  exact hstays outstanding hstatus

theorem StaysClosing.fail {loop : EventLoop} {session other : ParticipantId}
    {state : SessionState} (hstate : loop.sessions other = some state) {phase : Phase}
    {pipeline : WritePipeline Json} {order : HashOrder}
    (hle : pipeline.outstanding.length ≤ state.pipeline.outstanding.length) :
    StaysClosing loop (loop.fail other ⟨phase, pipeline⟩ order).1 session 0 := by
  refine StaysClosing.runHandler (StaysClosing.setSession hstate (fun _ => rfl) ?_) _
  intro hclosing
  refine ⟨rfl, ?_⟩
  rw [Nat.zero_add]
  exact hle

/-- A closing session stays so, and every message it writes is one of the writes in progress. -/
theorem staysClosing_of_step {loop loop' : EventLoop} {event : Event} {posts : List Posted}
    (hstep : (machine parse).step loop event = some (loop', posts)) (session : ParticipantId) :
    StaysClosing loop loop' session
      (writtenBy session ⟨loop, event, posts, loop'⟩).toList.length := by
  have hsame (pipeline : WritePipeline Json) (hclosing : pipeline.closing = true) :
      pipeline.closing = true ∧ 0 + pipeline.outstanding.length ≤ pipeline.outstanding.length :=
    ⟨hclosing, by omega⟩
  cases handled_of_step hstep with
  | started hnew =>
      rename_i other tls
      intro outstanding hstatus
      have hne : session ≠ other := by
        rintro rfl
        simp [statusOf, hnew] at hstatus
      exact ⟨outstanding, by rw [statusOf_setSession, if_neg hne, hstatus], by simp [writtenBy]⟩
  | handshakeDone hstate => exact .setSession hstate (fun _ => rfl) (hsame _)
  | handshakeFailed hstate => exact .fail hstate le_rfl
  | accepted hstate =>
      rename_i other order pipeline
      have hconnected : EventLoop.sessions { loop with server := loop.server.connect other } other =
          some ⟨.accepting, pipeline⟩ := hstate
      exact StaysClosing.setSession hconnected (fun _ => rfl) (hsame _)
  | acceptFailed hstate => exact .fail hstate le_rfl
  | readClosed hstate =>
      exact (StaysClosing.setSession hstate (fun _ => rfl) (hsame _)).runHandler _
  | readFailed hstate => exact .fail hstate le_rfl
  | readFrame hstate =>
      intro outstanding hstatus
      exact ⟨outstanding, by rw [statusOf_runHandler, hstatus], by simp [writtenBy]⟩
  | written hstate hwrite =>
      rename_i other index order state message
      refine .setSession hstate ?_ ?_
      · intro hne
        simp [writtenBy, Ne.symm hne]
      · intro hclosing
        let popped : WritePipeline Json :=
          { state.pipeline with outstanding := state.pipeline.outstanding.eraseIdx index }
        have hpopped : popped.closing = true := hclosing
        obtain ⟨hstill, hwrites⟩ := onWrite_of_closing hpopped
        refine ⟨hstill, ?_⟩
        -- The write that completed was one of those in progress.
        obtain ⟨hindex, -⟩ := List.getElem?_eq_some_iff.mp hwrite
        have herased : popped.outstanding.length = state.pipeline.outstanding.length - 1 :=
          List.length_eraseIdx_of_lt hindex
        have hone (written : Option Json) : written.toList.length +
            (state.pipeline.outstanding.length - 1) ≤ state.pipeline.outstanding.length := by
          have hle : written.toList.length ≤ 1 := Option.length_toList_le
          omega
        rw [hwrites, herased]
        exact hone _
  | writeFailed hstate hwrite => exact .fail hstate (List.length_eraseIdx_le _ _)
  | sent hstate hposted =>
      refine .setSession hstate (fun _ => rfl) ?_
      intro hclosing
      rename_i other order state message rest
      let ran : WritePipeline Json := { state.pipeline with posted := rest }
      have hran : ran.closing = true := hclosing
      obtain ⟨hstill, hwrites⟩ := runSend_of_closing hran message
      refine ⟨hstill, ?_⟩
      rw [hwrites]
      exact le_of_eq (Nat.zero_add _)
  | closedAgain hstate hposted hclosing => exact .setSession hstate (fun _ => rfl) (hsame _)
  | closed hstate hposted hopen => exact .fail hstate le_rfl
  | closeRequested hstate => exact .setSession hstate (fun _ => rfl) (hsame _)

theorem isClosing_eq_false_iff (loop : EventLoop) (session : ParticipantId) :
    loop.isClosing session = false ↔
      ∀ outstanding, loop.statusOf session ≠ some (true, outstanding) := by
  unfold isClosing
  rcases loop.statusOf session with _ | ⟨closing, outstanding⟩
  · simp
  · cases closing <;> simp

theorem lateWritesTo_concat (session : ParticipantId) (history : List LoopStep) (st : LoopStep) :
    lateWritesTo session (history ++ [st]) = lateWritesTo session history ++
      if st.pre.isClosing session then (writtenBy session st).toList else [] := by
  rw [lateWritesTo, List.filter_append]
  cases hclosing : st.pre.isClosing session with
  | true => simp [hclosing, writtenTo_concat, lateWritesTo]
  | false => simp [hclosing, lateWritesTo]

/-- No session has two writes in progress. -/
theorem outstanding_le_one {loop : EventLoop} (hpipelines : loop.PipelinesReachable)
    {session : ParticipantId} {closing : Bool} {outstanding : List Json}
    (hstatus : loop.statusOf session = some (closing, outstanding)) : outstanding.length ≤ 1 := by
  obtain ⟨state, hstate, hread⟩ := Option.map_eq_some_iff.mp hstatus
  obtain ⟨earlier, hreach⟩ := hpipelines session state hstate
  obtain ⟨-, rfl⟩ := Prod.mk.inj hread
  rcases (WritePipeline.sound_of_run hreach).writing with hidle | ⟨front, rest, -, hwrite⟩
  · simp [hidle]
  · simp [hwrite]

/-- Late writes are paid for by the writes in progress when the session began to close. -/
structure LateBound (session : ParticipantId) (history : List LoopStep) (loop : EventLoop) :
    Prop where
  opened : loop.isClosing session = false → lateWritesTo session history = []
  closing : ∀ outstanding, loop.statusOf session = some (true, outstanding) →
    (lateWritesTo session history).length + outstanding.length ≤ 1

theorem lateBound_of_run {history : List LoopStep} {loop : EventLoop}
    (hrun : (machine parse).Run history loop) (session : ParticipantId) :
    LateBound session history loop := by
  induction hrun with
  | nil => exact ⟨fun _ => rfl, fun outstanding hstatus => by cases hstatus⟩
  | snoc hprev hlast ih =>
      rename_i history loop event loop' posts
      have hstays := staysClosing_of_step hlast session
      constructor
      · intro hopen
        -- A session that is open after the step was open before it.
        have hbefore : loop.isClosing session = false := by
          rw [isClosing_eq_false_iff] at hopen ⊢
          intro outstanding hstatus
          obtain ⟨outstanding', hstatus', -⟩ := hstays outstanding hstatus
          exact hopen outstanding' hstatus'
        rw [lateWritesTo_concat, hbefore, ih.opened hbefore]
        rfl
      · intro outstanding' hstatus'
        rw [lateWritesTo_concat]
        by_cases hbefore : loop.isClosing session = false
        · have hone := outstanding_le_one (pipelines_of_run (hprev.snoc hlast)) hstatus'
          simpa [hbefore, ih.opened hbefore] using hone
        · have hclosing : ∃ outstanding, loop.statusOf session = some (true, outstanding) := by
            rw [isClosing_eq_false_iff] at hbefore
            push Not at hbefore
            exact hbefore
          obtain ⟨outstanding, hstatus⟩ := hclosing
          obtain ⟨outstanding'', hstatus'', hle⟩ := hstays outstanding hstatus
          obtain rfl : outstanding'' = outstanding' := by
            simpa using hstatus''.symm.trans hstatus'
          have hbound := ih.closing outstanding hstatus
          rw [if_pos (by simpa using hbefore), List.length_append]
          omega

/-- **Delivery in order.**  After every run of the loop, for every session: what was written to its
socket, what is in its queue and what waits in its executor are, in this order, all messages that
the handlers posted for it; nothing was posted for a session that does not exist; and while a
session was closing at most one message was written to it. -/
theorem socket_delivery {history : List LoopStep} {loop : EventLoop}
    (hrun : (machine parse).Run history loop) (session : ParticipantId) :
    (∀ state, loop.sessions session = some state →
      writtenTo session history ++ state.pipeline.writeQueue ++ state.pipeline.waitingMessages =
        sentTo session history) ∧
    (loop.sessions session = none →
      sentTo session history = [] ∧ writtenTo session history = []) ∧
    (lateWritesTo session history).length ≤ 1 := by
  have hdelivered := delivered_of_run hrun session
  refine ⟨?_, ?_, ?_⟩
  · intro state hstate
    have hbacklog : loop.backlogOf session =
        state.pipeline.writeQueue ++ state.pipeline.waitingMessages := by
      simp [backlogOf, hstate, WritePipeline.backlog]
    rw [← hdelivered, hbacklog, List.append_assoc]
  · intro hmissing
    have hnone := sentTo_of_missing hrun hmissing
    refine ⟨hnone, ?_⟩
    rw [hnone] at hdelivered
    exact (List.append_eq_nil_iff.mp hdelivered).1
  · have hbound := lateBound_of_run hrun session
    by_cases hopen : loop.isClosing session = false
    · rw [hbound.opened hopen]
      exact Nat.zero_le 1
    · rw [isClosing_eq_false_iff] at hopen
      push Not at hopen
      obtain ⟨outstanding, hstatus⟩ := hopen
      have hle := hbound.closing outstanding hstatus
      omega

/-- Two binary frames are answered; the first answer has been written, the second waits. -/
theorem socket_delivery_of_two_answers :
    let events : List Event := [.start "p_1" false, .accept "p_1" false .ascending,
      .read "p_1" (.frame (.binary .empty) fun _ => 0),
      .read "p_1" (.frame (.binary .empty) fun _ => 0), .task "p_1" .ascending,
      .write "p_1" 0 false .ascending]
    ∃ history loop state, (machine Server.sampleParse).exec events = some (history, loop) ∧
      loop.sessions "p_1" = some state ∧
      writtenTo "p_1" history ++ state.pipeline.writeQueue ++ state.pipeline.waitingMessages =
        sentTo "p_1" history ∧
      (writtenTo "p_1" history).length = 1 ∧ (sentTo "p_1" history).length = 2 := by
  intro events
  have hexec : (machine Server.sampleParse).exec events = some (_, _) := rfl
  refine ⟨_, _, _, hexec, rfl, ?_, rfl, rfl⟩
  exact (socket_delivery (EventMachine.run_of_exec hexec) "p_1").1 _ rfl

/-! ## What a client reads off its socket -/

/-- The notices about a room among some messages. -/
def noticesIn (code : RoomCode) (messages : List Json) : List Observation :=
  messages.filterMap fun message =>
    (observe message).filter fun notice => notice.roomCode = code

theorem noticesIn_append (code : RoomCode) (first second : List Json) :
    noticesIn code (first ++ second) = noticesIn code first ++ noticesIn code second :=
  List.filterMap_append

theorem notices_eq_noticesIn (code : RoomCode) (session : ParticipantId) (posts : List Posted) :
    Server.notices code session posts = noticesIn code (messagesTo session posts) := by
  rw [Server.notices, noticesIn, messagesTo, List.filterMap_filterMap]
  apply List.filterMap_congr
  intro post _
  unfold Server.noticeOf
  split_ifs <;> rfl

/-- Every notice that was posted carries a list that the room had after some step. -/
theorem list_was_stored {history : List LoopStep} {loop : EventLoop}
    (hrun : (machine parse).Run history loop) {code : RoomCode} {session : ParticipantId}
    {notice : Observation} (hsent : notice ∈ noticesIn code (sentTo session history)) :
    ∃ st ∈ history, ∃ room, st.post.server.rooms.lookup code = some room ∧
      room.participants = notice.participants := by
  induction hrun with
  | nil => simp [sentTo, messagesTo, noticesIn] at hsent
  | snoc hprev hlast ih =>
      rename_i history loop event loop' posts
      rw [sentTo, EventMachine.trace_concat, messagesTo_append, noticesIn_append] at hsent
      rcases List.mem_append.mp hsent with hold | hnew
      · obtain ⟨st, hmem, hstored⟩ := ih hold
        exact ⟨st, List.mem_append_left _ hmem, hstored⟩
      · rw [← notices_eq_noticesIn] at hnew
        have hdrives := ((aligned_of_run hprev).step hlast).2
        cases hevent : loop.serverEvent event with
        | none =>
            rw [hevent] at hdrives
            simp [hdrives.2, Server.notices] at hnew
        | some serverEvent =>
            rw [hevent] at hdrives
            obtain ⟨room, hstored⟩ := Server.notice_list_stored (wellFormed_of_loop_run hprev)
              hdrives hnew
            exact ⟨_, List.mem_append_right _ (List.mem_singleton.mpr rfl), room, hstored⟩

/-- **Rosters on the socket.**  For every run of the loop, session and room: the roster that the
client has from what was written to its socket is one that the room has had; and for a registered
member it is the present one when nothing is on its way. -/
theorem socket_roster {history : List LoopStep} {loop : EventLoop}
    (hrun : (machine parse).Run history loop) (code : RoomCode) (session : ParticipantId) :
    (∀ roster, replay (noticesIn code (writtenTo session history)) = some roster →
      ∃ st ∈ history, ∃ room, st.post.server.rooms.lookup code = some room ∧
        room.participants = roster) ∧
    (∀ room, loop.server.rooms.lookup code = some room → session ∈ loop.server.registry →
      room.hasParticipant session = true → loop.backlogOf session = [] →
      replay (noticesIn code (writtenTo session history)) = some room.participants) := by
  obtain ⟨serverHistory, hserver, htrace⟩ := server_run hrun
  have hnotices : Server.noticesOf code session serverHistory =
      noticesIn code (sentTo session history) := by
    rw [Server.noticesOf, htrace, notices_eq_noticesIn, sentTo]
  have hdelivered := delivered_of_run hrun session
  constructor
  · intro roster hroster
    rcases List.eq_nil_or_concat (noticesIn code (writtenTo session history)) with
      hnone | ⟨before, last, hread⟩
    · rw [hnone] at hroster
      cases hroster
    · -- What was read is the beginning of what was posted.
      have hsplit : noticesIn code (sentTo session history) =
          before ++ last :: noticesIn code (loop.backlogOf session) := by
        rw [← hdelivered, noticesIn_append, hread, List.concat_eq_append, List.append_assoc]
        rfl
      have hlist := Server.own_lists_of_run hserver code session (hnotices.trans hsplit)
      rw [hread, List.concat_eq_append, hlist] at hroster
      obtain rfl := Option.some.inj hroster
      have hsent : last ∈ noticesIn code (sentTo session history) := by
        rw [hsplit]
        exact List.mem_append_right _ List.mem_cons_self
      exact list_was_stored hrun hsent
  · intro room hstored hregistered hmember hdrained
    have hagrees := Server.agrees_of_run hserver code room session hstored hregistered hmember
    rw [hdrained, List.append_nil] at hdelivered
    rw [hdelivered, ← hnotices]
    exact hagrees

/-- Ann's room, and then Bob in it; Ann has read the create result but not yet the event: her
roster is the one that the room had before Bob joined. -/
theorem socket_roster_before_event :
    let events : List Event := [.start "p_1" false, .accept "p_1" false .ascending,
      .start "p_2" false, .accept "p_2" false .ascending,
      .read "p_1" (.frame (.text Server.createText.toUTF8) fun _ => 0),
      .read "p_2" (.frame (.text Server.joinText.toUTF8) fun _ => 0),
      .task "p_1" .ascending, .write "p_1" 0 false .ascending]
    ∃ history loop, (machine Server.sampleParse).exec events = some (history, loop) ∧
      replay (noticesIn "000000" (writtenTo "p_1" history)) = some [⟨"p_1", "Ann"⟩] ∧
      ∃ st ∈ history, ∃ room, st.post.server.rooms.lookup "000000" = some room ∧
        room.participants = [⟨"p_1", "Ann"⟩] := by
  intro events
  have hexec : (machine Server.sampleParse).exec events = some (_, _) := rfl
  refine ⟨_, _, hexec, rfl, ?_⟩
  exact (socket_roster (EventMachine.run_of_exec hexec) "000000" "p_1").1 _ rfl

end EventLoop
end Net
end BuzzWeb
