import Mathlib
import BuzzWeb.Net.SocketDelivery

/-!
# A session left to itself

What happens to the messages of an open session when its peer keeps reading and nobody else posts
to it: its tasks run, its writes complete, in any order that the loop allows.  There are only so
many such handlers, and when none of them can run any more, everything that was ever posted for
the session has been written.  So no message is stuck behind a write that was never started.
-/

namespace BuzzWeb
namespace Net

open Domain App

namespace EventLoop

variable {parse : ByteArray → ParseResult}

/-- A posted task of the session runs, or one of its writes completes. -/
inductive Advances (session : ParticipantId) : Event → Prop
  | task (order : HashOrder) : Advances session (.task session order)
  | write (index : Nat) (order : HashOrder) : Advances session (.write session index false order)

/-- The handlers that a pipeline still needs: two for a task in the executor, one for a message in
the queue. -/
def work (pipeline : WritePipeline Json) : Nat :=
  2 * pipeline.posted.length + pipeline.writeQueue.length

def workOf (loop : EventLoop) (session : ParticipantId) : Nat :=
  ((loop.sessions session).map fun state => work state.pipeline).getD 0

/-- The session exists, it is not closing, and no `Close` is waiting for it. -/
def Open (loop : EventLoop) (session : ParticipantId) : Prop :=
  ∃ state, loop.sessions session = some state ∧ state.pipeline.closing = false ∧
    Task.close ∉ state.pipeline.posted

theorem sessions_setSession_self (loop : EventLoop) (session : ParticipantId)
    (state : SessionState) : (loop.setSession session state).sessions session = some state :=
  Function.update_self _ _ _

@[simp] theorem workOf_setSession (loop : EventLoop) (session : ParticipantId)
    (state : SessionState) :
    (loop.setSession session state).workOf session = work state.pipeline := by
  simp [workOf, setSession]

theorem workOf_eq {loop : EventLoop} {session : ParticipantId} {state : SessionState}
    (hstate : loop.sessions session = some state) :
    loop.workOf session = work state.pipeline := by
  simp [workOf, hstate]

theorem doWrite_closing {μ : Type} (pipeline : WritePipeline μ) :
    pipeline.doWrite.closing = pipeline.closing := by
  unfold WritePipeline.doWrite
  split
  · rfl
  · split_ifs <;> rfl

theorem runSend_closing {μ : Type} (pipeline : WritePipeline μ) (message : μ) :
    (pipeline.runSend message).closing = pipeline.closing := by
  unfold WritePipeline.runSend
  dsimp only
  split_ifs
  · rfl
  · exact doWrite_closing _

theorem onWrite_closing {μ : Type} (pipeline : WritePipeline μ) :
    (pipeline.onWrite false).closing = pipeline.closing := by
  simp only [WritePipeline.onWrite, Bool.false_eq_true, if_false]
  split_ifs
  · rfl
  · exact doWrite_closing _

/-- Such a handler posts nothing, leaves the session open and does one piece of its work. -/
theorem Open.advance {loop loop' : EventLoop} {session : ParticipantId} {event : Event}
    {posts : List Posted} (hpipelines : loop.PipelinesReachable) (hopen : loop.Open session)
    (hadvances : Advances session event)
    (hstep : (machine parse).step loop event = some (loop', posts)) :
    loop'.Open session ∧ loop'.workOf session < loop.workOf session ∧ posts = [] := by
  obtain ⟨state, hstate, hflag, hnone⟩ := hopen
  rw [workOf_eq hstate]
  cases hadvances with
  | task order =>
      cases handled_of_step hstep with
      | sent hstate' hposted =>
          rename_i state' message rest
          obtain rfl := Option.some.inj (hstate.symm.trans hstate')
          refine ⟨⟨_, sessions_setSession_self _ _ _, ?_, ?_⟩, ?_, rfl⟩
          · rw [runSend_closing]
            exact hflag
          · rw [hposted] at hnone
            simpa using hnone
          · rw [workOf_setSession]
            simp only [work, WritePipeline.runSend_posted, WritePipeline.runSend_writeQueue,
              hposted, List.length_cons, List.length_append, List.length_nil]
            omega
      | closedAgain hstate' hposted hclosing =>
          obtain rfl := Option.some.inj (hstate.symm.trans hstate')
          simp [hposted] at hnone
      | closed hstate' hposted hopen =>
          obtain rfl := Option.some.inj (hstate.symm.trans hstate')
          simp [hposted] at hnone
  | write index order =>
      cases handled_of_step hstep with
      | written hstate' hwrite =>
          rename_i state' message
          obtain rfl := Option.some.inj (hstate.symm.trans hstate')
          -- The write that completes is that of the front of the queue.
          obtain ⟨earlier, hreach⟩ := hpipelines session state hstate
          obtain ⟨-, rest, hqueue⟩ := (WritePipeline.sound_of_run hreach).completed hwrite
          refine ⟨⟨_, sessions_setSession_self _ _ _, ?_, ?_⟩, ?_, rfl⟩
          · rw [onWrite_closing]
            exact hflag
          · rw [WritePipeline.onWrite_posted]
            exact hnone
          · rw [workOf_setSession]
            simp only [work, WritePipeline.onWrite_posted, WritePipeline.onWrite_writeQueue,
              hqueue, List.tail_cons, List.length_cons]
            omega

/-- An open session that has something on its way has a handler that can run. -/
theorem Open.idle {loop : EventLoop} {session : ParticipantId}
    (hpipelines : loop.PipelinesReachable) (hopen : loop.Open session)
    (hstuck : ∀ event, Advances session event → (machine parse).step loop event = none) :
    loop.backlogOf session = [] := by
  obtain ⟨state, hstate, hflag, -⟩ := hopen
  obtain ⟨earlier, hreach⟩ := hpipelines session state hstate
  have hposted : state.pipeline.posted = [] := by
    have htask := hstuck _ (.task .ascending)
    cases hposted : state.pipeline.posted with
    | nil => rfl
    | cons task rest => simp [machine, hstate, hposted] at htask
  have hwriting : state.pipeline.outstanding = [] := by
    have hwrite := hstuck _ (.write 0 .ascending)
    cases houtstanding : state.pipeline.outstanding with
    | nil => rfl
    | cons message rest => simp [machine, hstate, houtstanding] at hwrite
  have hqueue : state.pipeline.writeQueue = [] := by
    by_contra hne
    exact (WritePipeline.sound_of_run hreach).progress hflag hne hwriting
  simp [backlogOf, hstate, WritePipeline.backlog, WritePipeline.waitingMessages, hposted, hqueue]

/-- **An open session drains.**  From every state that a run has reached, with the session open:
the tasks and the successful writes of the session can only be handled `workOf` times, and when
none of them is left, everything that the handlers of the run posted for the session has been
written to its socket. -/
theorem open_session_drains {history history' : List LoopStep} {loop loop' : EventLoop}
    {session : ParticipantId} {events : List Event}
    (hrun : (machine parse).Run history loop) (hopen : loop.Open session)
    (hevents : ∀ event ∈ events, Advances session event)
    (hexec : (machine parse).execFrom history loop events = some (history', loop')) :
    events.length ≤ loop.workOf session ∧
    ((∀ event, Advances session event → (machine parse).step loop' event = none) →
      writtenTo session history' = sentTo session history) := by
  let I : List LoopStep → EventLoop → Prop := fun later after =>
    (machine parse).Run later after ∧ after.Open session ∧
      sentTo session later = sentTo session history
  have hadvance : ∀ later after event after' posts, I later after → Advances session event →
      (machine parse).step after event = some (after', posts) →
      I (later ++ [⟨after, event, posts, after'⟩]) after' ∧
        after'.workOf session < after.workOf session := by
    rintro later after event after' posts ⟨hlater, hstill, hsame⟩ hadvances hstep
    obtain ⟨hopen', hless, rfl⟩ := hstill.advance (pipelines_of_run hlater) hadvances hstep
    refine ⟨⟨hlater.snoc hstep, hopen', ?_⟩, hless⟩
    rw [sentTo, EventMachine.trace_concat, List.append_nil]
    exact hsame
  obtain ⟨⟨hrun', hopen', hsame⟩, hle⟩ := EventMachine.execFrom_bounded (I := I)
    (m := fun after => after.workOf session) hadvance hevents ⟨hrun, hopen, rfl⟩ hexec
  refine ⟨by omega, ?_⟩
  intro hstuck
  have hdelivered := delivered_of_run hrun' session
  rw [hopen'.idle (pipelines_of_run hrun') hstuck, List.append_nil] at hdelivered
  rw [hdelivered, hsame]

/-- Two answers are waiting; two tasks and two writes later both have been written. -/
theorem two_answers_drain :
    let before : List Event := [.start "p_1" false, .accept "p_1" false .ascending,
      .read "p_1" (.frame (.binary .empty) fun _ => 0),
      .read "p_1" (.frame (.binary .empty) fun _ => 0)]
    let events : List Event := [.task "p_1" .ascending, .task "p_1" .ascending,
      .write "p_1" 0 false .ascending, .write "p_1" 0 false .ascending]
    ∃ history loop history' loop', (machine Server.sampleParse).exec before = some (history, loop) ∧
      (machine Server.sampleParse).execFrom history loop events = some (history', loop') ∧
      events.length ≤ loop.workOf "p_1" ∧
      writtenTo "p_1" history' = sentTo "p_1" history ∧ (sentTo "p_1" history).length = 2 := by
  intro before events
  have hexec : (machine Server.sampleParse).exec before = some (_, _) := rfl
  have hevents : ∀ event ∈ events, Advances "p_1" event := by
    simp only [events, List.forall_mem_cons, List.not_mem_nil, false_imp_iff, implies_true,
      and_true]
    exact ⟨.task _, .task _, .write _ _, .write _ _⟩
  have hnone (answer : Json) : Task.close ∉ [Task.send answer, Task.send answer] := by simp
  refine ⟨_, _, _, _, hexec, rfl, ?_, ?_, rfl⟩
  · exact (open_session_drains (EventMachine.run_of_exec hexec) ⟨_, rfl, rfl, hnone _⟩
      hevents rfl).1
  · refine (open_session_drains (EventMachine.run_of_exec hexec) ⟨_, rfl, rfl, hnone _⟩
      hevents rfl).2 ?_
    rintro event (order | ⟨index, order⟩) <;> rfl

end EventLoop
end Net
end BuzzWeb
