import BuzzWeb.App.Interleaving

/-!
# Calls that run alone

A call whose steps follow each other is the sequential call: it leaves the same table and returns
the same result.  So the interleaved machine takes every run that the sequential service takes, and
the two levels are about the same code.
-/

namespace BuzzWeb
namespace App

open Domain

namespace Thread

/-- The thread runs to its end and nothing comes in between. -/
inductive Alone (id : Nat) : Rooms → Thread → List ThreadRecord → Rooms → Prop
  | finished (rooms : Rooms) : Alone id rooms .finished [] rooms
  | step {rooms rooms' final : Rooms} {thread thread' : Thread} {records later : List ThreadRecord}
      {draw : Draw} {order : HashOrder}
      (hstep : thread.step id rooms draw order = some (rooms', thread', records))
      (hrest : Alone id rooms' thread' later final) :
      Alone id rooms thread (records ++ later) final

variable {id : Nat} {rooms rooms' final : Rooms} {later : List ThreadRecord}

/-! ## Creating -/

theorem step_createRoom_of_free (id : Nat) {draw : Draw} (password : Option RoomSecret) (remaining : Nat)
    (creator : Option Participant) (order : HashOrder)
    (hfree : rooms.lookup (generateRoomCode draw) = none) :
    (createRoom password remaining creator).step id rooms draw order =
      some (rooms.insert (generateRoomCode draw) (Room.create (generateRoomCode draw) password),
        afterAdd (generateRoomCode draw) password creator,
        [.returned id (.created (.ok (Room.create (generateRoomCode draw) password)))]) := by
  have hadd : rooms.add (Room.create (generateRoomCode draw) password) = _ :=
    Rooms.add_of_free hfree
  simp [step, hadd]

theorem step_createRoom_of_taken (id : Nat) {draw : Draw} {taken : Room}
    (password : Option RoomSecret) (remaining : Nat) (creator : Option Participant) (order : HashOrder)
    (htaken : rooms.lookup (generateRoomCode draw) = some taken) :
    (createRoom password remaining creator).step id rooms draw order =
      match remaining with
      | 0 => some (rooms, .finished,
          [.returned id (.created (.error buildRoomCodeGenerationFailedError))])
      | remaining + 1 => some (rooms, .createRoom password remaining creator, []) := by
  have hadd : rooms.add (Room.create (generateRoomCode draw) password) = _ :=
    Rooms.add_of_taken htaken
  cases remaining <;> simp [step, hadd]

/-- The retry loop takes one step per attempt, and gives up when all draws are taken. -/
theorem alone_createRoom_of_taken {draws : Nat → Draw} {password : Option RoomSecret}
    {creator : Option Participant} {remaining attempt : Nat}
    (hfresh : freshCode rooms draws (remaining + 1) attempt = none) :
    Alone id rooms (.createRoom password remaining creator)
      [.returned id (.created (.error buildRoomCodeGenerationFailedError))] rooms := by
  induction remaining generalizing attempt with
  | zero =>
      cases hslot : rooms.lookup (generateRoomCode (draws attempt)) with
      | none => simp [freshCode, hslot] at hfresh
      | some taken =>
          have hstep := step_createRoom_of_taken id password 0 creator .ascending hslot
          exact .step hstep (.finished rooms)
  | succ remaining ih =>
      cases hslot : rooms.lookup (generateRoomCode (draws attempt)) with
      | none => simp [freshCode, hslot] at hfresh
      | some taken =>
          have hstep := step_createRoom_of_taken id password (remaining + 1) creator .ascending
            hslot
          rw [freshCode, hslot] at hfresh
          exact .step hstep (ih hfresh)

/-- With a free draw it goes on from the room it added. -/
theorem alone_createRoom_of_fresh {draws : Nat → Draw} {password : Option RoomSecret}
    {creator : Option Participant} {remaining attempt : Nat} {code : RoomCode}
    (hfresh : freshCode rooms draws (remaining + 1) attempt = some code)
    (hrest : Alone id (rooms.insert code (Room.create code password))
      (afterAdd code password creator) later final) :
    Alone id rooms (.createRoom password remaining creator)
      (.returned id (.created (.ok (Room.create code password))) :: later) final := by
  induction remaining generalizing attempt with
  | zero =>
      cases hslot : rooms.lookup (generateRoomCode (draws attempt)) with
      | none =>
          have hstep := step_createRoom_of_free id password 0 creator .ascending hslot
          simp only [freshCode, hslot, Option.some.injEq] at hfresh
          subst hfresh
          exact .step hstep hrest
      | some taken => simp [freshCode, hslot] at hfresh
  | succ remaining ih =>
      cases hslot : rooms.lookup (generateRoomCode (draws attempt)) with
      | none =>
          have hstep := step_createRoom_of_free id password (remaining + 1) creator .ascending
            hslot
          rw [freshCode, hslot] at hfresh
          obtain rfl := Option.some.inj hfresh
          exact .step hstep hrest
      | some taken =>
          have hstep := step_createRoom_of_taken id password (remaining + 1) creator .ascending
            hslot
          rw [freshCode, hslot] at hfresh
          exact .step hstep (ih hfresh)

/-! ## Joining -/

theorem alone_joinRoom (id : Nat) {code : RoomCode} {participant : Participant}
    {password : Option RoomSecret} {result : ParticipantJoinedRoomResult}
    (hjoin : RoomService.joinRoom code participant password (Store.quiet rooms) =
      (some result, Store.quiet rooms')) :
    ∃ commit, Alone id rooms (.joinRoom code participant password)
      (commit ++ [.returned id (.joined result)]) rooms' := by
  obtain ⟨commit, hstep⟩ : ∃ commit, (joinRoom code participant password).step id rooms 0
      .ascending = some (rooms', .finished, commit ++ [.returned id (.joined result)]) := by
    obtain ⟨hresult, hstore⟩ := Prod.mk.inj hjoin
    obtain rfl := Option.some.inj hresult
    obtain rfl := congrArg Store.rooms hstore
    exact ⟨_, rfl⟩
  have halone := Alone.step hstep (.finished rooms')
  rw [List.append_nil] at halone
  exact ⟨commit, halone⟩

/-! ## Leaving -/

/-- The one or two steps of a leave, up to where it returns. -/
theorem alone_leaveRoom {code : RoomCode} {participantId : ParticipantId}
    {result : ParticipantLeftRoomResult} (id : Nat) (sweep : Option Sweep)
    (hleave : RoomService.leaveRoom code participantId (Store.quiet rooms) =
      (some result, Store.quiet rooms'))
    (hrest : Alone id rooms' (returnLeave id participantId result sweep).1 later final) :
    ∃ commit, Alone id rooms (.leaveRoom code participantId sweep)
      (commit ++ ((returnLeave id participantId result sweep).2 ++ later)) final := by
  rcases hupdate : rooms.update code (RoomService.leaveUpdater participantId) ⟨none, []⟩ .none with
    ⟨answer, locals, updated⟩
  refine ⟨recordUpdate id .leave code participantId answer, ?_⟩
  cases hafter : RoomService.afterLeaveUpdate answer locals with
  | some refusal =>
      -- It returns after the update.
      simp only [RoomService.leaveRoom, Repository.update, Store.quiet_rooms,
        Store.nextFault_quiet, Store.advance_quiet, hupdate, hafter, Prod.mk.injEq,
        Option.some.injEq] at hleave
      obtain ⟨rfl, hstore⟩ := hleave
      obtain rfl := congrArg Store.rooms hstore
      have hstep : (leaveRoom code participantId sweep).step id rooms 0 .ascending =
          some (updated, (returnLeave id participantId refusal sweep).1,
            recordUpdate id .leave code participantId answer ++
              (returnLeave id participantId refusal sweep).2) := by
        simp only [step, hupdate, hafter]
      rw [← List.append_assoc]
      exact .step hstep hrest
  | none =>
      -- It goes on to remove the room if empty.
      simp only [RoomService.leaveRoom, Repository.update, Store.quiet_rooms,
        Store.nextFault_quiet, Store.advance_quiet, hupdate, hafter, Repository.removeIfEmpty,
        Repository.call_quiet, Prod.mk.injEq, Option.some.injEq] at hleave
      obtain ⟨rfl, hstore⟩ := hleave
      obtain rfl := congrArg Store.rooms hstore
      have hupdated : (leaveRoom code participantId sweep).step id rooms 0 .ascending =
          some (updated, .removeIfEmpty code participantId locals.remainingParticipants sweep,
            recordUpdate id .leave code participantId answer) := by
        simp only [step, hupdate, hafter]
      have hremoved : (removeIfEmpty code participantId locals.remainingParticipants sweep).step
          id updated 0 .ascending = some ((updated.removeIfEmpty code).2, _, _) := rfl
      exact .step hupdated (.step hremoved hrest)

/-- The loop of `LeaveAllRooms` collects what the sequential loop collects. -/
theorem alone_continueSweep {participantId : ParticipantId} {codes : List RoomCode}
    {results : List ParticipantLeftRoomResult} (id : Nat)
    (collected : List ParticipantLeftRoomResult)
    (hleaves : RoomService.leaveEach participantId codes (Store.quiet rooms) =
      (some results, Store.quiet rooms')) :
    ∃ later, Alone id rooms (continueSweep id participantId ⟨codes, collected⟩).1 later rooms' ∧
      ThreadRecord.returned id (.leftAll (collected ++ results)) ∈
        (continueSweep id participantId ⟨codes, collected⟩).2 ++ later := by
  induction codes generalizing rooms collected results with
  | nil =>
      obtain ⟨hresults, hstore⟩ := Prod.mk.inj hleaves
      obtain rfl := Option.some.inj hresults
      obtain rfl := congrArg Store.rooms hstore
      exact ⟨[], .finished _, by simp [continueSweep]⟩
  | cons code rest ih =>
      have hleave := leaveRoom_quiet code participantId rooms
      generalize (leaveSlot code participantId (rooms.lookup code)).1 = result at hleave
      generalize rooms.setSlot code (leaveSlot code participantId (rooms.lookup code)).2 = left
        at hleave
      rw [RoomService.leaveEach, Throwing.bind_of_some hleave, Throwing.bind_apply] at hleaves
      rcases hrest : RoomService.leaveEach participantId rest (Store.quiet left) with
        ⟨_ | others, store⟩
      · rw [hrest] at hleaves
        cases (Prod.mk.inj hleaves).1
      · rw [hrest] at hleaves
        obtain ⟨hresults, rfl⟩ := Prod.mk.inj hleaves
        obtain rfl := Option.some.inj hresults
        obtain ⟨later, halone, hreturned⟩ := ih
          (if RoomService.reported result then collected ++ [result] else collected) hrest
        obtain ⟨commit, hwhole⟩ := alone_leaveRoom id (some ⟨rest, collected⟩) hleave halone
        refine ⟨_, hwhole, ?_⟩
        have hcollected : collected ++
            (if RoomService.reported result then result :: others else others) =
              (if RoomService.reported result then collected ++ [result] else collected) ++
                others := by
          split_ifs <;> simp
        rw [hcollected]
        -- The loop returns in what follows the leave of this room.
        refine List.mem_append_right _ (List.mem_append_right _ ?_)
        exact List.mem_cons_of_mem _ hreturned

/-- `LeaveAllRooms` from its snapshot on. -/
theorem alone_getRoomCodes (id : Nat) {participantId : ParticipantId} {order : HashOrder}
    {results : List ParticipantLeftRoomResult}
    (hleaves : RoomService.leaveAllRooms order participantId (Store.quiet rooms) =
      (some results, Store.quiet rooms')) :
    ∃ records, Alone id rooms (.getRoomCodes participantId) records rooms' ∧
      ThreadRecord.returned id (.leftAll results) ∈ records := by
  have heach : RoomService.leaveEach participantId (rooms.getRoomCodes order)
      (Store.quiet rooms) = (some results, Store.quiet rooms') := hleaves
  obtain ⟨later, halone, hreturned⟩ := alone_continueSweep id [] heach
  have hstep : (getRoomCodes participantId).step id rooms 0 order = some (rooms, _, _) := rfl
  exact ⟨_, .step hstep halone, hreturned⟩

end Thread

/-! ## The calls of the service -/

namespace ServiceCall

/-- The sequential call. -/
def perform (draws : Nat → Draw) (order : HashOrder) : ServiceCall → Throwing Store CallResult
  | createRoom password => do
      let result ← RoomService.createRoom draws password
      pure (.created result)
  | joinRoom roomCode participant password => do
      let result ← RoomService.joinRoom roomCode participant password
      pure (.joined result)
  | leaveRoom roomCode participantId => do
      let result ← RoomService.leaveRoom roomCode participantId
      pure (.left result)
  | leaveAllRooms participantId => do
      let results ← RoomService.leaveAllRooms order participantId
      pure (.leftAll results)

/-- A service call that runs alone leaves the table and returns the result of the sequential
call. -/
theorem alone (call : ServiceCall) (id : Nat) (draws : Nat → Draw) (order : HashOrder)
    (rooms : Rooms) :
    ∃ result rooms' records,
      call.perform draws order (Store.quiet rooms) = (some result, Store.quiet rooms') ∧
      call.start.Alone id rooms records rooms' ∧ ThreadRecord.returned id result ∈ records := by
  cases call with
  | createRoom password =>
      have hloop : RoomService.createRoom draws password (Store.quiet rooms) = _ :=
        createRoomLoop_quiet draws password rooms RoomService.maxAttempts 0
      cases hfresh : freshCode rooms draws RoomService.maxAttempts 0 with
      | none =>
          rw [hfresh] at hloop
          exact ⟨_, _, _, Throwing.bind_of_some hloop, Thread.alone_createRoom_of_taken hfresh,
            List.mem_singleton.mpr rfl⟩
      | some code =>
          rw [hfresh] at hloop
          exact ⟨_, _, _, Throwing.bind_of_some hloop,
            Thread.alone_createRoom_of_fresh hfresh (.finished _), List.mem_cons_self⟩
  | joinRoom roomCode participant password =>
      have hjoin := joinRoom_quiet roomCode participant password rooms
      obtain ⟨commit, halone⟩ := Thread.alone_joinRoom id hjoin
      exact ⟨_, _, _, Throwing.bind_of_some hjoin, halone, by simp⟩
  | leaveRoom roomCode participantId =>
      have hleave := leaveRoom_quiet roomCode participantId rooms
      obtain ⟨commit, halone⟩ := Thread.alone_leaveRoom id none hleave (.finished _)
      refine ⟨_, _, _, Throwing.bind_of_some hleave, halone, ?_⟩
      simp [Thread.returnLeave]
  | leaveAllRooms participantId =>
      obtain ⟨results, hresults, -⟩ := leaveEach_quiet participantId
        (rooms.getRoomCodes order) (Rooms.getRoomCodes_nodup rooms order) rooms
      have hleaves : RoomService.leaveAllRooms order participantId (Store.quiet rooms) =
          (some results, Store.quiet (disconnectRooms order participantId rooms)) := hresults
      obtain ⟨records, halone, hreturned⟩ := Thread.alone_getRoomCodes id hleaves
      exact ⟨_, _, records, Throwing.bind_of_some hleaves, halone, hreturned⟩

end ServiceCall

/-! ## The operations of the dispatcher -/

namespace DispatcherOperation

/-- The sequential operation: `Dispatch` up to the handler call, or the clean-up of a
disconnect. -/
def perform (draws : Nat → Draw) (order : HashOrder) (requestId : Option String) :
    DispatcherOperation → Throwing Store Unit
  | createRoom participant password => do
      let _ ← ControlDispatcher.resultOf draws
        ⟨⟨.createRoom, requestId, none⟩, .createRoom ⟨participant, password⟩⟩
  | joinRoom roomCode participant password => do
      let _ ← ControlDispatcher.resultOf draws
        ⟨⟨.joinRoom, requestId, none⟩, .joinRoom ⟨roomCode, participant, password⟩⟩
  | leaveRoom roomCode participantId => do
      let _ ← ControlDispatcher.resultOf draws
        ⟨⟨.leaveRoom, requestId, none⟩, .leaveRoom ⟨roomCode, participantId⟩⟩
  | disconnect participantId => do
      let _ ← ControlDispatcher.handleParticipantDisconnected order participantId

/-- A dispatcher operation that runs alone leaves the table of the sequential operation. -/
theorem alone (operation : DispatcherOperation) (id : Nat) (draws : Nat → Draw)
    (order : HashOrder) (requestId : Option String) (rooms : Rooms) :
    ∃ rooms' records,
      operation.perform draws order requestId (Store.quiet rooms) =
        (some (), Store.quiet rooms') ∧
      operation.start.Alone id rooms records rooms' := by
  cases operation with
  | createRoom participant password =>
      have hresult := resultOf_quiet draws rooms
        ⟨⟨.createRoom, requestId, none⟩, .createRoom ⟨participant, password⟩⟩ trivial
      cases hfresh : freshCode rooms draws RoomService.maxAttempts 0 with
      | none =>
          simp only [serve, hfresh] at hresult
          exact ⟨_, _, Throwing.bind_of_some hresult, Thread.alone_createRoom_of_taken hfresh⟩
      | some code =>
          simp only [serve, hfresh] at hresult
          -- Nothing comes between the two halves of the create.
          obtain ⟨commit, hjoin⟩ := Thread.alone_joinRoom id
            (joinRoom_after_create rooms code participant password)
          exact ⟨_, _, Throwing.bind_of_some hresult,
            Thread.alone_createRoom_of_fresh hfresh hjoin⟩
  | joinRoom roomCode participant password =>
      have hresult := resultOf_quiet draws rooms
        ⟨⟨.joinRoom, requestId, none⟩, .joinRoom ⟨roomCode, participant, password⟩⟩ trivial
      obtain ⟨commit, halone⟩ := Thread.alone_joinRoom id
        (joinRoom_quiet roomCode participant password rooms)
      exact ⟨_, _, Throwing.bind_of_some hresult, halone⟩
  | leaveRoom roomCode participantId =>
      have hresult := resultOf_quiet draws rooms
        ⟨⟨.leaveRoom, requestId, none⟩, .leaveRoom ⟨roomCode, participantId⟩⟩ trivial
      obtain ⟨commit, halone⟩ := Thread.alone_leaveRoom id none
        (leaveRoom_quiet roomCode participantId rooms) (.finished _)
      exact ⟨_, _, Throwing.bind_of_some hresult, halone⟩
  | disconnect participantId =>
      have hresult := handleParticipantDisconnected_quiet order participantId rooms
      obtain ⟨results, hresults, -⟩ := leaveEach_quiet participantId
        (rooms.getRoomCodes order) (Rooms.getRoomCodes_nodup rooms order) rooms
      obtain ⟨records, halone, -⟩ := Thread.alone_getRoomCodes id hresults
      exact ⟨_, records, Throwing.bind_of_some hresult, halone⟩

end DispatcherOperation

/-! ## Runs of the machine -/

namespace Interleaved

variable {ω : Type} {start : ω → Thread}

/-- The run can go on with steps of one thread only, which leave the table and the records. -/
def Continues (start : ω → Thread) (history : List (ThreadStep ω)) (id : Nat)
    (records : List ThreadRecord) (rooms : Rooms) : Prop :=
  ∃ steps final, (machine start).Run (history ++ steps) final ∧ final.rooms = rooms ∧
    EventMachine.trace steps = records ∧ ∀ st ∈ steps, st.event.thread = id

/-- A step of the thread may come first. -/
theorem Continues.cons {history : List (ThreadStep ω)} {st : ThreadStep ω} {id : Nat}
    {later : List ThreadRecord} {rooms : Rooms} (hid : st.event.thread = id)
    (hcontinues : Continues start (history ++ [st]) id later rooms) :
    Continues start history id (st.output ++ later) rooms := by
  obtain ⟨steps, final, hrun, hrooms, htrace, hids⟩ := hcontinues
  refine ⟨st :: steps, final, ?_, hrooms, ?_, ?_⟩
  · rw [List.append_cons]
    exact hrun
  · rw [← htrace]
    rfl
  · intro other hmem
    rcases List.mem_cons.mp hmem with rfl | hlater
    · exact hid
    · exact hids other hlater

/-- The steps of a thread that runs alone are steps of the machine. -/
theorem continues_of_alone {id : Nat} {thread : Thread} {rooms rooms' : Rooms}
    {records : List ThreadRecord} (halone : thread.Alone id rooms records rooms')
    {history : List (ThreadStep ω)} {state : Interleaved}
    (hrun : (machine start).Run history state) (hrooms : state.rooms = rooms)
    (hthread : state.threads id = some thread) :
    Continues start history id records rooms' := by
  induction halone generalizing history state with
  | finished rooms =>
      refine ⟨[], state, ?_, hrooms, rfl, by simp⟩
      rw [List.append_nil]
      exact hrun
  | step hstep hrest ih =>
      rename_i before middle after thread thread' records later draw order
      subst hrooms
      have htaken : (machine start).step state (.step id draw order) =
          some ({ state with rooms := middle }.setThread id thread', records) := by
        simp only [machine, hthread, hstep]
      have hnext : ({ state with rooms := middle }.setThread id thread').threads id =
          some thread' := by
        rw [threads_setThread, if_pos rfl]
      exact Continues.cons rfl (ih (hrun.snoc htaken) rfl hnext)

/-- A call can be made at any time, and may then run alone. -/
theorem continues_of_call {id : Nat} {operation : ω} {rooms' : Rooms}
    {records : List ThreadRecord} {history : List (ThreadStep ω)} {state : Interleaved}
    (hrun : (machine start).Run history state) (hnew : state.threads id = none)
    (halone : (start operation).Alone id state.rooms records rooms') :
    Continues start history id records rooms' := by
  have hcall : (machine start).step state (.call id operation) =
      some (state.setThread id (start operation), []) := by
    simp only [machine, hnew]
  have hthread : (state.setThread id (start operation)).threads id = some (start operation) := by
    rw [threads_setThread, if_pos rfl]
  exact Continues.cons rfl (continues_of_alone halone (hrun.snoc hcall) rfl hthread)

/-- **Sequential service calls are runs.**  From any reached state a new service call can run to
its end without interruption, and then leaves the table and returns the result that the sequential
call computes from the table it found. -/
theorem service_call_is_run {history : List (ThreadStep ServiceCall)} {state : Interleaved}
    (hrun : (machine ServiceCall.start).Run history state) {id : Nat}
    (hnew : state.threads id = none) (call : ServiceCall) (draws : Nat → Draw)
    (order : HashOrder) :
    ∃ result steps final, (machine ServiceCall.start).Run (history ++ steps) final ∧
      (∀ st ∈ steps, st.event.thread = id) ∧
      call.perform draws order (Store.quiet state.rooms) =
        (some result, Store.quiet final.rooms) ∧
      ThreadRecord.returned id result ∈ EventMachine.trace steps := by
  obtain ⟨result, rooms', records, hperform, halone, hreturned⟩ :=
    call.alone id draws order state.rooms
  obtain ⟨steps, final, hfinal, rfl, rfl, hids⟩ := continues_of_call hrun hnew halone
  exact ⟨result, steps, final, hfinal, hids, hperform, hreturned⟩

/-- **Sequential dispatcher operations are runs.**  The same for the operations of the dispatcher
and the tables they leave. -/
theorem dispatcher_operation_is_run {history : List (ThreadStep DispatcherOperation)}
    {state : Interleaved} (hrun : (machine DispatcherOperation.start).Run history state)
    {id : Nat} (hnew : state.threads id = none) (operation : DispatcherOperation)
    (draws : Nat → Draw) (order : HashOrder) (requestId : Option String) :
    ∃ steps final, (machine DispatcherOperation.start).Run (history ++ steps) final ∧
      (∀ st ∈ steps, st.event.thread = id) ∧
      operation.perform draws order requestId (Store.quiet state.rooms) =
        (some (), Store.quiet final.rooms) := by
  obtain ⟨rooms', records, hperform, halone⟩ :=
    operation.alone id draws order requestId state.rooms
  obtain ⟨steps, final, hfinal, rfl, -, hids⟩ := continues_of_call hrun hnew halone
  exact ⟨steps, final, hfinal, hids, hperform⟩

end Interleaved
end App
end BuzzWeb
