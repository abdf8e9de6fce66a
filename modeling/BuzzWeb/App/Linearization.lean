import BuzzWeb.App.Interleaving

/-!
# Service calls take effect at one point

Calls on many threads overlap: a create retries, a leave is two repository calls, a sweep is many.
Still each of them can be taken to happen all at once, at one of its own repository calls.  The
`Directory` says what happens then: it is the room service with every operation atomic and only one
difference, that a leave does not remove the room it empties.  An empty room stays until it is
collected, and may be joined until then.

`AtomicOperation` is read off a step of the interleaved machine by `point`.  The theorem of this
module is that these points, in the order of the steps, are a run of the directory that ends in the
table of the repository and gives every thread the results that its calls return.
-/

namespace BuzzWeb
namespace App

open Domain

/-- What a service call does to the directory, all at once. -/
inductive AtomicOperation where
  /-- A room is created under a code that is free. -/
  | create (roomCode : RoomCode) (password : Option RoomSecret)
  /-- A create found no free code in any of its attempts. -/
  | giveUp
  | join (roomCode : RoomCode) (participant : Participant) (password : Option RoomSecret)
  | leave (roomCode : RoomCode) (participantId : ParticipantId)
  /-- The room is removed if nobody is in it. -/
  | collect (roomCode : RoomCode)

namespace Directory

/-- Leaving takes the participant out of the room, and the room stays. -/
def leaveSlot (roomCode : RoomCode) (participantId : ParticipantId) (slot : Option Room) :
    ParticipantLeftRoomResult × Option Room :=
  match slot with
  | none => (.error buildRoomNotFoundError, none)
  | some room =>
      if room.hasParticipant participantId then
        (.ok ⟨roomCode, participantId, (room.without participantId).participants⟩,
          some (room.without participantId))
      else (.error buildNotInRoomError, some room)

def collectSlot : Option Room → Option Room
  | none => none
  | some room => if room.isEmpty then none else some room

/-- The directory.  An operation belongs to a thread, and so does its result. -/
def machine : EventMachine Rooms (Nat × AtomicOperation) (Nat × CallResult) where
  init := ∅
  step rooms event :=
    match event with
    | (thread, .create code password) =>
        match rooms.lookup code with
        | some _ => none
        | none => some (rooms.insert code (Room.create code password),
            [(thread, .created (.ok (Room.create code password)))])
    | (thread, .giveUp) =>
        some (rooms, [(thread, .created (.error buildRoomCodeGenerationFailedError))])
    | (thread, .join code participant password) =>
        let outcome := joinSlot code participant password (rooms.lookup code)
        some (rooms.setSlot code outcome.2, [(thread, .joined outcome.1)])
    | (thread, .leave code participantId) =>
        let outcome := leaveSlot code participantId (rooms.lookup code)
        some (rooms.setSlot code outcome.2, [(thread, .left outcome.1)])
    | (_, .collect code) => some (rooms.setSlot code (collectSlot (rooms.lookup code)), [])

/-- The results of one thread. -/
def resultsOf (id : Nat) (results : List (Nat × CallResult)) : List CallResult :=
  results.filterMap fun result => if result.1 = id then some result.2 else none

end Directory

namespace Thread

/-- The operation that the next repository call of a thread is. -/
def atomic (rooms : Rooms) (draw : Draw) : Thread → Option AtomicOperation
  | .createRoom password remaining _ =>
      match rooms.lookup (generateRoomCode draw), remaining with
      | none, _ => some (.create (generateRoomCode draw) password)
      | some _, 0 => some .giveUp
      | some _, _ + 1 => none
  | .joinRoom code participant password => some (.join code participant password)
  | .leaveRoom code participantId _ => some (.leave code participantId)
  | .removeIfEmpty code _ _ _ => some (.collect code)
  | .getRoomCodes _ => none
  | .finished => none

/-- The result of an operation that has happened and whose call has not returned yet. -/
def pending : Thread → List CallResult
  | .removeIfEmpty code participantId remaining _ =>
      [.left (.ok ⟨code, participantId, remaining⟩)]
  | _ => []

/-- The results that the calls of one thread returned.  The list that `LeaveAllRooms` returns is
made up of results of its own `LeaveRoom` calls and is left out here. -/
def returnedIn (id : Nat) (records : List ThreadRecord) : List CallResult :=
  records.filterMap fun record =>
    match record with
    | .returned _ (.leftAll _) => none
    | .returned thread result => if thread = id then some result else none
    | .committed _ _ _ _ => none

theorem returnedIn_append (id : Nat) (first second : List ThreadRecord) :
    returnedIn id (first ++ second) = returnedIn id first ++ returnedIn id second :=
  List.filterMap_append

/-- Commits are no results. -/
theorem returnedIn_recordUpdate (id other : Nat) (kind : CommitKind) (code : RoomCode)
    (participantId : ParticipantId) (result : Option UpdateRoomResult) :
    returnedIn other (recordUpdate id kind code participantId result) = [] := by
  rcases result with _ | result
  · rfl
  · cases result <;> rfl

/-- The loop of a sweep returns nothing but its list, and has no operation open. -/
theorem continueSweep_results (id other : Nat) (participantId : ParticipantId) (sweep : Sweep) :
    returnedIn other (continueSweep id participantId sweep).2 = [] ∧
      (continueSweep id participantId sweep).1.pending = [] := by
  obtain ⟨rest, results⟩ := sweep
  cases rest <;> exact ⟨rfl, rfl⟩

/-- A leave returns its result. -/
theorem returnLeave_results (id other : Nat) (participantId : ParticipantId)
    (result : ParticipantLeftRoomResult) (sweep : Option Sweep) :
    returnedIn other (returnLeave id participantId result sweep).2 =
        (if id = other then [.left result] else []) ∧
      (returnLeave id participantId result sweep).1.pending = [] := by
  cases sweep with
  | none =>
      refine ⟨?_, rfl⟩
      simp only [returnLeave, returnedIn, List.filterMap_cons, List.filterMap_nil]
      split_ifs <;> rfl
  | some sweep =>
      obtain ⟨hsilent, hpending⟩ := continueSweep_results id other participantId ⟨sweep.rest,
        if RoomService.reported result then sweep.results ++ [result] else sweep.results⟩
      refine ⟨?_, hpending⟩
      have hcons : ∀ record records, returnedIn other (record :: records) =
          returnedIn other [record] ++ returnedIn other records := fun record records =>
        returnedIn_append other [record] records
      simp only [returnLeave]
      rw [hcons, hsilent, List.append_nil]
      simp only [returnedIn, List.filterMap_cons, List.filterMap_nil]
      split_ifs <;> rfl

/-- The transaction of a join is the atomic join. -/
theorem step_joinRoom (id : Nat) (rooms : Rooms) (draw : Draw) (order : HashOrder)
    (code : RoomCode) (participant : Participant) (password : Option RoomSecret) :
    ∃ commits, (∀ other, returnedIn other commits = []) ∧
      (joinRoom code participant password).step id rooms draw order =
        some (rooms.setSlot code (joinSlot code participant password (rooms.lookup code)).2,
          .finished, commits ++
            [.returned id (.joined (joinSlot code participant password (rooms.lookup code)).1)]) := by
  refine ⟨recordUpdate id .join code participant.id (rooms.update code
    (RoomService.joinUpdater participant password) ⟨none, []⟩ .none).1,
    fun other => returnedIn_recordUpdate _ _ _ _ _ _, ?_⟩
  -- Alone on a quiet store, the same transaction is the sequential `JoinRoom`.
  have hquiet := joinRoom_quiet code participant password rooms
  simp only [RoomService.joinRoom, Repository.update, Store.nextFault_quiet, Store.quiet_rooms,
    Store.advance_quiet, Prod.mk.injEq, Option.some.injEq] at hquiet
  obtain ⟨hresult, hstore⟩ := hquiet
  have hrooms := congrArg Store.rooms hstore
  simp only [Store.quiet_rooms] at hrooms
  simp only [step, hresult, hrooms]

/-- Writing an occupied or empty slot back as it is collected. -/
theorem removeIfEmpty_eq (rooms : Rooms) (code : RoomCode) :
    (rooms.removeIfEmpty code).2 =
      rooms.setSlot code (Directory.collectSlot (rooms.lookup code)) := by
  cases hslot : rooms.lookup code with
  | none =>
      rw [Rooms.removeIfEmpty_of_missing hslot]
      exact (Rooms.setSlot_lookup hslot).symm
  | some room =>
      by_cases hempty : room.participants = []
      · rw [Rooms.removeIfEmpty_of_empty hslot hempty]
        simp [Directory.collectSlot, Room.isEmpty, hempty, Rooms.setSlot]
      · rw [Rooms.removeIfEmpty_of_occupied hslot hempty]
        have hkept : Directory.collectSlot (some room) = some room := by
          simp [Directory.collectSlot, Room.isEmpty, hempty]
        rw [hkept]
        exact (Rooms.setSlot_lookup hslot).symm

/-- What an operation gives to its thread: with what was pending before, it is what the thread
returns now and what is pending then.  The other threads get nothing. -/
structure Balanced (id : Nat) (thread thread' : Thread) (records : List ThreadRecord)
    (out : List (Nat × CallResult)) : Prop where
  own : thread.pending ++ Directory.resultsOf id out =
    returnedIn id records ++ thread'.pending
  others : ∀ other, id ≠ other →
    Directory.resultsOf other out = [] ∧ returnedIn other records = []

/-- The transaction of a leave is the atomic leave; its result is returned at once, or pending until
the empty room is collected. -/
theorem step_leaveRoom {id : Nat} {rooms rooms' : Rooms} {draw : Draw} {order : HashOrder}
    {code : RoomCode} {participantId : ParticipantId} {sweep : Option Sweep} {thread' : Thread}
    {records : List ThreadRecord}
    (hstep : (leaveRoom code participantId sweep).step id rooms draw order =
      some (rooms', thread', records)) :
    rooms' = rooms.setSlot code
        (Directory.leaveSlot code participantId (rooms.lookup code)).2 ∧
      Balanced id (leaveRoom code participantId sweep) thread' records
        [(id, .left (Directory.leaveSlot code participantId (rooms.lookup code)).1)] := by
  have hrefused {error : RoomServiceError} :
      Balanced id (leaveRoom code participantId sweep)
        (returnLeave id participantId (.error error) sweep).1
        ([] ++ (returnLeave id participantId (.error error) sweep).2)
        [(id, .left (.error error))] := by
    have hresults (other : Nat) :=
      returnLeave_results id other participantId (.error error) sweep
    rw [List.nil_append]
    constructor
    · rw [(hresults id).1, (hresults id).2]
      simp [Directory.resultsOf, pending]
    · intro other hother
      rw [(hresults other).1, if_neg hother]
      simp [Directory.resultsOf, hother]
  cases hslot : rooms.lookup code with
  | none =>
      simp only [step, Rooms.update_of_missing hslot, RoomService.afterLeaveUpdate,
        Option.some.injEq, Prod.mk.injEq] at hstep
      obtain ⟨rfl, rfl, rfl⟩ := hstep
      exact ⟨(Rooms.setSlot_lookup hslot).symm, hrefused⟩
  | some room =>
      cases hmember : room.hasParticipant participantId with
      | true =>
          have hupdate := Rooms.update_of_commit hslot
            (RoomService.leaveUpdater_of_member hmember ⟨none, []⟩)
          simp only [step, hupdate, RoomService.afterLeaveUpdate, Option.some.injEq,
            Prod.mk.injEq] at hstep
          obtain ⟨rfl, rfl, rfl⟩ := hstep
          refine ⟨by simp [Directory.leaveSlot, hmember, Rooms.setSlot], ?_⟩
          constructor
          · simp [Directory.resultsOf, Directory.leaveSlot, hmember, pending, returnedIn,
              recordUpdate]
          · intro other hother
            simp [Directory.resultsOf, returnedIn, hother, recordUpdate]
      | false =>
          have hupdate := Rooms.update_of_abort hslot
            (RoomService.leaveUpdater_of_not_member hmember ⟨none, []⟩)
          simp only [step, hupdate, RoomService.afterLeaveUpdate, Option.some.injEq,
            Prod.mk.injEq] at hstep
          obtain ⟨rfl, rfl, rfl⟩ := hstep
          have hslot' : Directory.leaveSlot code participantId (some room) =
              (.error buildNotInRoomError, some room) := by
            simp [Directory.leaveSlot, hmember]
          rw [hslot']
          exact ⟨(Rooms.setSlot_lookup hslot).symm, hrefused⟩

/-- One attempt of a create. -/
theorem atomic_createRoom {id : Nat} {rooms rooms' : Rooms} {draw : Draw} {order : HashOrder}
    {password : Option RoomSecret} {remaining : Nat} {creator : Option Participant}
    {thread' : Thread} {records : List ThreadRecord}
    (hstep : (createRoom password remaining creator).step id rooms draw order =
      some (rooms', thread', records)) :
    ((createRoom password remaining creator).atomic rooms draw = none ∧ rooms' = rooms ∧
      Balanced id (createRoom password remaining creator) thread' records []) ∨
    ∃ operation out, (createRoom password remaining creator).atomic rooms draw = some operation ∧
      Directory.machine.step rooms (id, operation) = some (rooms', out) ∧
      Balanced id (createRoom password remaining creator) thread' records out := by
  -- A create returns at the attempt that settles it, so nothing is ever pending.
  have hreturned (result : CreateRoomResult) (next : Thread) (hnext : next.pending = []) :
      Balanced id (createRoom password remaining creator) next
        [.returned id (.created result)] [(id, .created result)] := by
    constructor
    · rw [hnext]
      simp [Directory.resultsOf, pending, returnedIn]
    · intro other hother
      simp [Directory.resultsOf, returnedIn, hother]
  cases hslot : rooms.lookup (generateRoomCode draw) with
  | none =>
      have hadd : rooms.add (Room.create (generateRoomCode draw) password) = _ :=
        Rooms.add_of_free hslot
      simp only [step, hadd, Option.some.injEq, Prod.mk.injEq] at hstep
      obtain ⟨rfl, rfl, rfl⟩ := hstep
      refine Or.inr ⟨.create (generateRoomCode draw) password, _, ?_, ?_, hreturned _ _ ?_⟩
      · simp only [atomic, hslot]
      · simp only [Directory.machine, hslot, Room.create_code]
      · cases creator <;> rfl
  | some taken =>
      have hadd : rooms.add (Room.create (generateRoomCode draw) password) = _ :=
        Rooms.add_of_taken hslot
      cases remaining with
      | zero =>
          simp only [step, hadd, Option.some.injEq, Prod.mk.injEq] at hstep
          obtain ⟨rfl, rfl, rfl⟩ := hstep
          refine Or.inr ⟨.giveUp, _, ?_, rfl, hreturned _ _ rfl⟩
          simp only [atomic, hslot]
      | succ remaining =>
          simp only [step, hadd, Option.some.injEq, Prod.mk.injEq] at hstep
          obtain ⟨rfl, rfl, rfl⟩ := hstep
          exact Or.inl ⟨by simp only [atomic, hslot], rfl, rfl, fun _ _ => ⟨rfl, rfl⟩⟩

/-- Every step of a thread is one operation of the directory, or none and the table stays as it
is. -/
theorem atomic_step {id : Nat} {rooms rooms' : Rooms} {draw : Draw} {order : HashOrder}
    {thread thread' : Thread} {records : List ThreadRecord}
    (hstep : thread.step id rooms draw order = some (rooms', thread', records)) :
    (thread.atomic rooms draw = none ∧ rooms' = rooms ∧
      Balanced id thread thread' records []) ∨
    ∃ operation out, thread.atomic rooms draw = some operation ∧
      Directory.machine.step rooms (id, operation) = some (rooms', out) ∧
      Balanced id thread thread' records out := by
  cases thread with
  | createRoom password remaining creator => exact atomic_createRoom hstep
  | joinRoom code participant password =>
      obtain ⟨commits, hcommits, hjoin⟩ := step_joinRoom id rooms draw order code participant
        password
      rw [hjoin] at hstep
      simp only [Option.some.injEq, Prod.mk.injEq] at hstep
      obtain ⟨rfl, rfl, rfl⟩ := hstep
      refine Or.inr ⟨.join code participant password, _, rfl, rfl, ?_⟩
      constructor
      · rw [returnedIn_append, hcommits id]
        simp [Directory.resultsOf, pending, returnedIn]
      · intro other hother
        rw [returnedIn_append, hcommits other]
        simp [Directory.resultsOf, returnedIn, hother]
  | leaveRoom code participantId sweep =>
      obtain ⟨rfl, hbalanced⟩ := step_leaveRoom hstep
      exact Or.inr ⟨.leave code participantId, _, rfl, rfl, hbalanced⟩
  | removeIfEmpty code participantId remaining sweep =>
      simp only [step, Option.some.injEq, Prod.mk.injEq] at hstep
      obtain ⟨rfl, rfl, rfl⟩ := hstep
      refine Or.inr ⟨.collect code, [], rfl, ?_, ?_⟩
      · rw [removeIfEmpty_eq]
        rfl
      · have hresults (other : Nat) := returnLeave_results id other participantId
          (.ok ⟨code, participantId, remaining⟩) sweep
        constructor
        · rw [(hresults id).1, (hresults id).2]
          simp [Directory.resultsOf, pending]
        · intro other hother
          rw [(hresults other).1, if_neg hother]
          exact ⟨rfl, rfl⟩
  | getRoomCodes participantId =>
      simp only [step, Option.some.injEq, Prod.mk.injEq] at hstep
      obtain ⟨rfl, rfl, rfl⟩ := hstep
      have hresults (other : Nat) := continueSweep_results id other participantId
        ⟨rooms.getRoomCodes order, []⟩
      refine Or.inl ⟨rfl, rfl, ?_, ?_⟩
      · rw [(hresults id).1, (hresults id).2]
        rfl
      · intro other _
        exact ⟨rfl, (hresults other).1⟩
  | finished => cases hstep

/-! ## Sweeps -/

/-- The list that a sweep has collected so far. -/
def sweepResults : Thread → Option (List ParticipantLeftRoomResult)
  | .leaveRoom _ _ (some sweep) => some sweep.results
  | .removeIfEmpty _ _ _ (some sweep) => some sweep.results
  | .getRoomCodes _ => some []
  | _ => none

/-- The results of leaves that `LeaveAllRooms` passes on. -/
def reportedIn (results : List CallResult) : List ParticipantLeftRoomResult :=
  results.filterMap fun result =>
    match result with
    | .left left => if RoomService.reported left then some left else none
    | _ => none

/-- The list of a sweep, now or when it returns it, is what its leaves have reported. -/
def Collects (id : Nat) (reported : List ParticipantLeftRoomResult) (thread : Thread)
    (records : List ThreadRecord) : Prop :=
  (∀ results, thread.sweepResults = some results → results = reported) ∧
    ∀ other results, ThreadRecord.returned other (.leftAll results) ∈ records →
      other = id ∧ results = reported

theorem collects_continueSweep (id : Nat) (participantId : ParticipantId) (sweep : Sweep) :
    Collects id sweep.results (continueSweep id participantId sweep).1
      (continueSweep id participantId sweep).2 := by
  obtain ⟨rest, collected⟩ := sweep
  cases rest with
  | nil =>
      constructor
      · intro results hresults
        cases hresults
      · intro other results hmem
        simpa [continueSweep] using hmem
  | cons code rest =>
      constructor
      · intro results hresults
        exact (Option.some.inj hresults).symm
      · intro other results hmem
        cases hmem

theorem reportedIn_append (first second : List CallResult) :
    reportedIn (first ++ second) = reportedIn first ++ reportedIn second :=
  List.filterMap_append

/-- A leave adds its result to the list of its sweep. -/
theorem collects_returnLeave {id : Nat} {participantId : ParticipantId}
    {result : ParticipantLeftRoomResult} {sweep : Option Sweep} {earlier : List CallResult}
    (hsweep : ∀ collected, sweep = some collected → collected.results = reportedIn earlier) :
    Collects id (reportedIn (earlier ++ [.left result]))
      (returnLeave id participantId result sweep).1
      (returnLeave id participantId result sweep).2 := by
  cases sweep with
  | none =>
      constructor
      · intro results hresults
        cases hresults
      · intro other results hmem
        simp [returnLeave] at hmem
  | some sweep =>
      have hcollected := hsweep sweep rfl
      have hlist : (if RoomService.reported result then sweep.results ++ [result]
          else sweep.results) = reportedIn (earlier ++ [.left result]) := by
        rw [reportedIn_append, ← hcollected]
        cases hreported : RoomService.reported result <;> simp [reportedIn, hreported]
      have hnext := collects_continueSweep id participantId ⟨sweep.rest,
        if RoomService.reported result then sweep.results ++ [result] else sweep.results⟩
      rw [hlist] at hnext
      constructor
      · intro results hresults
        refine hnext.1 results ?_
        simpa [returnLeave, hlist] using hresults
      · intro other results hmem
        refine hnext.2 other results ?_
        simpa [returnLeave, hlist] using hmem

/-- A step keeps the list of a sweep up to date. -/
theorem collects_step {id : Nat} {rooms rooms' : Rooms} {draw : Draw} {order : HashOrder}
    {thread thread' : Thread} {records : List ThreadRecord} {earlier : List CallResult}
    (hstep : thread.step id rooms draw order = some (rooms', thread', records))
    (hearlier : ∀ results, thread.sweepResults = some results → results = reportedIn earlier) :
    Collects id (reportedIn (earlier ++ returnedIn id records)) thread' records := by
  -- A leave that returns reports its result and continues the sweep it belongs to.
  have hleave {participantId : ParticipantId} {result : ParticipantLeftRoomResult}
      {sweep : Option Sweep}
      (hsweep : ∀ collected, sweep = some collected → collected.results = reportedIn earlier) :
      Collects id (reportedIn (earlier ++
        returnedIn id (returnLeave id participantId result sweep).2))
        (returnLeave id participantId result sweep).1
        (returnLeave id participantId result sweep).2 := by
    rw [(returnLeave_results id id participantId result sweep).1, if_pos rfl]
    exact collects_returnLeave hsweep
  have hnone {next : Thread} {reported : List ParticipantLeftRoomResult}
      {others : List ThreadRecord} (hnext : next.sweepResults = none)
      (hothers : ∀ other results, ThreadRecord.returned other (.leftAll results) ∉ others) :
      Collects id reported next others := by
    constructor
    · intro results hresults
      rw [hnext] at hresults
      cases hresults
    · intro other results hmem
      exact absurd hmem (hothers other results)
  cases turn_of_step hstep with
  | added hfree =>
      rename_i password remaining creator code
      exact hnone (by cases creator <;> rfl) (by simp)
  | retried => exact hnone rfl (by simp)
  | gaveUp => exact hnone rfl (by simp)
  | joined hstored hadmits => exact hnone rfl (by simp)
  | joinRefused hrefused => exact hnone rfl (by simp)
  | left hstored hmember =>
      rename_i code participantId sweep room
      have hsilent : returnedIn id [.committed id .leave code participantId] = [] := rfl
      rw [hsilent, List.append_nil]
      refine ⟨?_, by simp⟩
      cases sweep with
      | none =>
          intro results hresults
          cases hresults
      | some sweep => exact hearlier
  | leaveRefused hrefused =>
      refine hleave ?_
      rintro collected rfl
      exact hearlier collected.results rfl
  | removed hstored hempty =>
      refine hleave ?_
      rintro collected rfl
      exact hearlier collected.results rfl
  | kept hoccupied =>
      refine hleave ?_
      rintro collected rfl
      exact hearlier collected.results rfl
  | listed =>
      rename_i participantId codes
      have hempty := hearlier [] rfl
      rw [(continueSweep_results id id participantId ⟨codes, []⟩).1, List.append_nil, ← hempty]
      exact collects_continueSweep id participantId ⟨codes, []⟩

end Thread

/-! ## Whole runs -/

namespace Interleaved

variable {ω : Type} {start : ω → Thread}

/-- The operation that a step is taken to be, and the thread it belongs to. -/
def point (st : ThreadStep ω) : Option (Nat × AtomicOperation) :=
  match st.event with
  | .call _ _ => none
  | .step id draw _ =>
      (st.pre.threads id).bind fun thread =>
        (thread.atomic st.pre.rooms draw).map fun operation => (id, operation)

/-- The result that a thread has not returned yet. -/
def pendingOf (state : Interleaved) (id : Nat) : List CallResult :=
  match state.threads id with
  | none => []
  | some thread => thread.pending

theorem pendingOf_setThread (state : Interleaved) (id other : Nat) (thread : Thread) :
    (state.setThread id thread).pendingOf other =
      if id = other then thread.pending else state.pendingOf other := by
  by_cases hsame : id = other
  · subst hsame
    simp [pendingOf, setThread]
  · simp [pendingOf, setThread, hsame, Ne.symm hsame]

/-- The directory is at the table of the repository, and every thread has been given what it returned
and what it has still to return. -/
def Linearized (history : List (ThreadStep ω)) (state : Interleaved)
    (directory : List (EventMachine.Step Rooms (Nat × AtomicOperation) (Nat × CallResult)))
    (rooms : Rooms) : Prop :=
  rooms = state.rooms ∧ ∀ id, Directory.resultsOf id (EventMachine.trace directory) =
    Thread.returnedIn id (EventMachine.trace history) ++ state.pendingOf id

theorem resultsOf_append (id : Nat) (first second : List (Nat × CallResult)) :
    Directory.resultsOf id (first ++ second) =
      Directory.resultsOf id first ++ Directory.resultsOf id second :=
  List.filterMap_append

/-- The results stay balanced when the operation gives `out` and the step records `records`. -/
theorem results_of_step {history : List (ThreadStep ω)} {state : Interleaved} {event : Event ω}
    {records : List ThreadRecord} {results out : List (Nat × CallResult)} {id other : Nat}
    {rooms' : Rooms} {thread thread' : Thread} (hthread : state.threads id = some thread)
    (hbalanced : Thread.Balanced id thread thread' records out)
    (hresults : Directory.resultsOf other results =
      Thread.returnedIn other (EventMachine.trace history) ++ state.pendingOf other) :
    Directory.resultsOf other (results ++ out) =
      Thread.returnedIn other (EventMachine.trace (history ++
        [⟨state, event, records, { state with rooms := rooms' }.setThread id thread'⟩])) ++
        ({ state with rooms := rooms' }.setThread id thread').pendingOf other := by
  rw [resultsOf_append, hresults, EventMachine.trace_concat, Thread.returnedIn_append,
    pendingOf_setThread]
  split_ifs with hother
  · subst hother
    have hpending : state.pendingOf id = thread.pending := by simp [pendingOf, hthread]
    rw [hpending, List.append_assoc, List.append_assoc, hbalanced.own]
  · obtain ⟨hout, hreturned⟩ := hbalanced.others other hother
    rw [hout, hreturned, List.append_nil, List.append_nil]
    rfl

/-- The points of a run are a run of the directory. -/
theorem linearized_of_run (hstart : ∀ operation, (start operation).pending = [])
    {history : List (ThreadStep ω)} {state : Interleaved}
    (hrun : (machine start).Run history state) :
    ∃ directory rooms, Directory.machine.Run directory rooms ∧
      directory.map EventMachine.Step.event = history.filterMap point ∧
      Linearized history state directory rooms := by
  refine EventMachine.Run.implements ⟨rfl, fun _ => rfl⟩ ?_ ?_ hrun
  · rintro history state event state' records directory rooms - ⟨rfl, hresults⟩ hstep hpoint
    rcases step_inversion hstep with ⟨id, operation, rfl, hnew, rfl, rfl⟩ |
      ⟨id, draw, order, thread, rooms', thread', rfl, hthread, hturn, rfl⟩
    · refine ⟨rfl, fun other => ?_⟩
      rw [EventMachine.trace_concat, List.append_nil, pendingOf_setThread, hresults other]
      split_ifs with hsame
      · subst hsame
        simp [pendingOf, hnew, hstart]
      · rfl
    · rcases Thread.atomic_step hturn with ⟨-, rfl, hbalanced⟩ | ⟨operation, out, hatomic, -, -⟩
      · refine ⟨rfl, fun other => ?_⟩
        rw [← List.append_nil (EventMachine.trace directory)]
        exact results_of_step hthread hbalanced (hresults other)
      · simp [point, hthread, hatomic] at hpoint
  · rintro history state event state' records directory rooms operation - ⟨rfl, hresults⟩ hstep
      hpoint
    rcases step_inversion hstep with ⟨id, called, rfl, hnew, rfl, rfl⟩ |
      ⟨id, draw, order, thread, rooms', thread', rfl, hthread, hturn, rfl⟩
    · cases hpoint
    · rcases Thread.atomic_step hturn with ⟨hatomic, -, -⟩ |
        ⟨atomic, out, hatomic, hdirectory, hbalanced⟩
      · simp [point, hthread, hatomic] at hpoint
      · have hsame : (id, atomic) = operation := by simpa [point, hthread, hatomic] using hpoint
        subst hsame
        refine ⟨rooms', out, hdirectory, rfl, fun other => ?_⟩
        rw [EventMachine.trace_concat]
        exact results_of_step hthread hbalanced (hresults other)

/-- The lists of all sweeps are up to date. -/
structure SweepsCollected (history : List (ThreadStep ω)) (state : Interleaved) : Prop where
  unborn : ∀ id, state.threads id = none →
    Thread.returnedIn id (EventMachine.trace history) = []
  collected : ∀ id thread results, state.threads id = some thread →
    thread.sweepResults = some results →
    results = Thread.reportedIn (Thread.returnedIn id (EventMachine.trace history))

theorem sweepsCollected_step
    (hstart : ∀ operation results, (start operation).sweepResults = some results → results = [])
    {history : List (ThreadStep ω)} {state state' : Interleaved} {event : Event ω}
    {records : List ThreadRecord} (hcollected : SweepsCollected history state)
    (hstep : (machine start).step state event = some (state', records)) :
    SweepsCollected (history ++ [⟨state, event, records, state'⟩]) state' ∧
      ∀ id results, ThreadRecord.returned id (.leftAll results) ∈ records →
        results = Thread.reportedIn (Thread.returnedIn id
          (EventMachine.trace (history ++ [⟨state, event, records, state'⟩]))) := by
  rcases step_inversion hstep with ⟨id, operation, rfl, hnew, rfl, rfl⟩ |
    ⟨id, draw, order, thread, rooms', thread', rfl, hthread, hturn, rfl⟩
  · rw [EventMachine.trace_concat, List.append_nil]
    refine ⟨⟨?_, ?_⟩, by simp⟩
    · intro other hother
      rw [EventMachine.trace_concat, List.append_nil]
      refine hcollected.unborn other ?_
      rw [threads_setThread] at hother
      split_ifs at hother
      exact hother
    · intro other thread results hother hresults
      rw [EventMachine.trace_concat, List.append_nil]
      rw [threads_setThread] at hother
      split_ifs at hother with hsame
      · -- The call has just been made, so its thread has returned nothing.
        subst hsame
        obtain rfl := Option.some.inj hother
        rw [hcollected.unborn other hnew, hstart operation results hresults]
        rfl
      · exact hcollected.collected other thread results hother hresults
  · have hown := Thread.collects_step hturn (hcollected.collected id thread · hthread)
    have hothers (other : Nat) (hother : id ≠ other) : Thread.returnedIn other records = [] := by
      rcases Thread.atomic_step hturn with ⟨-, -, hbalanced⟩ | ⟨operation, out, -, -, hbalanced⟩
      · exact (hbalanced.others other hother).2
      · exact (hbalanced.others other hother).2
    have htrace (other : Nat) (st : ThreadStep ω) (hst : st.output = records) :
        Thread.returnedIn other (EventMachine.trace (history ++ [st])) =
          Thread.returnedIn other (EventMachine.trace history) ++
            Thread.returnedIn other records := by
      rw [EventMachine.trace_concat, Thread.returnedIn_append, hst]
    refine ⟨⟨?_, ?_⟩, ?_⟩
    · intro other hother
      rw [threads_setThread] at hother
      split_ifs at hother with hsame
      rw [htrace other _ rfl, hothers other (Ne.symm hsame), List.append_nil]
      exact hcollected.unborn other hother
    · intro other next results hother hresults
      rw [threads_setThread] at hother
      rw [htrace other _ rfl]
      split_ifs at hother with hsame
      · subst hsame
        obtain rfl := Option.some.inj hother
        exact hown.1 results hresults
      · rw [hothers other (Ne.symm hsame), List.append_nil]
        exact hcollected.collected other next results hother hresults
    · intro other results hmem
      obtain ⟨rfl, hlist⟩ := hown.2 other results hmem
      rw [htrace other _ rfl]
      exact hlist

theorem sweepsCollected_of_run
    (hstart : ∀ operation results, (start operation).sweepResults = some results → results = [])
    {history : List (ThreadStep ω)} {state : Interleaved}
    (hrun : (machine start).Run history state) : SweepsCollected history state := by
  refine EventMachine.Run.invariant (I := SweepsCollected) ?_ ?_ hrun
  · exact ⟨fun _ _ => rfl, fun id thread results hthread => by cases hthread⟩
  · intro history state event state' records _ hcollected hstep
    exact (sweepsCollected_step hstart hcollected hstep).1

/-- **Linearizability.**  For every run of service calls on any number of threads: the operations
read off its steps, in the order of the steps, are a run of the directory that ends in the table of
the repository; every thread gets from them, in order, the results that its calls returned, and
after these at most the result of the leave it has not returned from yet; and the list that a
`LeaveAllRooms` returns is what its leaves have reported. -/
theorem service_linearizable {history : List (ThreadStep ServiceCall)} {state : Interleaved}
    (hrun : (machine ServiceCall.start).Run history state) :
    (∃ directory, Directory.machine.Run directory state.rooms ∧
      directory.map EventMachine.Step.event = history.filterMap point ∧
      ∀ id, Directory.resultsOf id (EventMachine.trace directory) =
        Thread.returnedIn id (EventMachine.trace history) ++ state.pendingOf id) ∧
    ∀ before st after, history = before ++ st :: after → ∀ id results,
      ThreadRecord.returned id (.leftAll results) ∈ st.output →
      results = Thread.reportedIn (Thread.returnedIn id (EventMachine.trace (before ++ [st]))) := by
  constructor
  · have hstart : ∀ call : ServiceCall, call.start.pending = [] := by
      intro call
      cases call <;> rfl
    obtain ⟨directory, rooms, hdirectory, hpoints, rfl, hresults⟩ := linearized_of_run hstart hrun
    exact ⟨directory, hdirectory, hpoints, hresults⟩
  · have hstart : ∀ (call : ServiceCall) results,
        call.start.sweepResults = some results → results = [] := by
      intro call results hresults
      cases call with
      | leaveAllRooms participantId => exact (Option.some.inj hresults).symm
      | _ => cases hresults
    intro before st after hsplit id results hreturned
    obtain ⟨hbefore, hstep⟩ := hrun.split hsplit
    exact (sweepsCollected_step hstart (sweepsCollected_of_run hstart hbefore) hstep).2 id results
      hreturned

/-- Ann leaves her room; before the empty room is removed Bob joins it.  The calls overlap, and the
directory has the leave before the join. -/
theorem linearized_overlapping_leave :
    let ann : Participant := ⟨"p_1", "Ann"⟩
    let bob : Participant := ⟨"p_2", "Bob"⟩
    let events : List (Event ServiceCall) := [.call 0 (.createRoom none), .step 0 0 .ascending,
      .call 1 (.joinRoom "000000" ann none), .step 1 0 .ascending,
      .call 2 (.leaveRoom "000000" "p_1"), .step 2 0 .ascending,
      .call 3 (.joinRoom "000000" bob none), .step 3 0 .ascending, .step 2 0 .ascending]
    ∃ history state, (machine ServiceCall.start).exec events = some (history, state) ∧
      history.filterMap point = [(0, .create "000000" none), (1, .join "000000" ann none),
        (2, .leave "000000" "p_1"), (3, .join "000000" bob none), (2, .collect "000000")] ∧
      ∃ directory, Directory.machine.Run directory state.rooms ∧
        directory.map EventMachine.Step.event = history.filterMap point ∧
        Directory.resultsOf 3 (EventMachine.trace directory) =
          [.joined (.ok ⟨"000000", bob, [bob]⟩)] := by
  intro ann bob events
  have hexec : (machine ServiceCall.start).exec events = some (_, _) := rfl
  obtain ⟨directory, hdirectory, hpoints, hresults⟩ :=
    (service_linearizable (EventMachine.run_of_exec hexec)).1
  exact ⟨_, _, hexec, rfl, directory, hdirectory, hpoints, (hresults 3).trans rfl⟩

end Interleaved
end App
end BuzzWeb
