import BuzzWeb.App.RoomService
import BuzzWeb.App.RoomSlots
import BuzzWeb.Library.EventMachine
import BuzzWeb.Library.Since

/-!
# Service calls on many threads

The repository locks its mutex in every method, so calls on several threads interleave at the
granularity of repository calls.  A `Thread` is a service call between two repository calls: which
one comes next, and the locals it needs.  One step runs that repository call and everything up to
the next one.  Nothing throws.

The steps use the functions that the sequential service uses; `Turn` lists what a step can do.
-/

namespace BuzzWeb
namespace App

open Domain

/-- The loop of `LeaveAllRooms`: the codes still to be left and the results collected so far. -/
structure Sweep where
  rest : List RoomCode
  results : List ParticipantLeftRoomResult

/-- A call that is about to make a repository call, named after that call or its caller. -/
inductive Thread where
  /-- `CreateRoom` about to `Add`, with `remaining` further attempts; the dispatcher's create goes
  on to join the `creator`. -/
  | createRoom (password : Option RoomSecret) (remaining : Nat) (creator : Option Participant)
  /-- `JoinRoom` about to `Update`. -/
  | joinRoom (roomCode : RoomCode) (participant : Participant) (password : Option RoomSecret)
  /-- `LeaveRoom` about to `Update`, alone or inside `LeaveAllRooms`. -/
  | leaveRoom (roomCode : RoomCode) (participantId : ParticipantId) (sweep : Option Sweep)
  /-- `LeaveRoom` about to `RemoveIfEmpty`. -/
  | removeIfEmpty (roomCode : RoomCode) (participantId : ParticipantId)
      (remaining : List Participant) (sweep : Option Sweep)
  /-- `LeaveAllRooms` about to `GetRoomCodes`. -/
  | getRoomCodes (participantId : ParticipantId)
  | finished

/-- What a service call returned. -/
inductive CallResult where
  | created (result : CreateRoomResult)
  | joined (result : ParticipantJoinedRoomResult)
  | left (result : ParticipantLeftRoomResult)
  | leftAll (results : List ParticipantLeftRoomResult)

/-- The two kinds of committed updates. -/
inductive CommitKind where
  | join
  | leave
deriving DecidableEq, Repr

/-- What is recorded of a step: an `Update` that committed, and the calls that returned. -/
inductive ThreadRecord where
  | committed (thread : Nat) (kind : CommitKind) (roomCode : RoomCode)
      (participantId : ParticipantId)
  | returned (thread : Nat) (result : CallResult)

namespace Thread

/-- The next round of the loop of `LeaveAllRooms`. -/
def continueSweep (id : Nat) (participantId : ParticipantId) (sweep : Sweep) :
    Thread × List ThreadRecord :=
  match sweep.rest with
  | [] => (.finished, [.returned id (.leftAll sweep.results)])
  | roomCode :: rest => (.leaveRoom roomCode participantId (some ⟨rest, sweep.results⟩), [])

/-- `LeaveRoom` returns, to its caller or to the loop of `LeaveAllRooms`. -/
def returnLeave (id : Nat) (participantId : ParticipantId) (result : ParticipantLeftRoomResult)
    (sweep : Option Sweep) : Thread × List ThreadRecord :=
  match sweep with
  | none => (.finished, [.returned id (.left result)])
  | some sweep =>
      let next := continueSweep id participantId ⟨sweep.rest,
        if RoomService.reported result then sweep.results ++ [result] else sweep.results⟩
      (next.1, .returned id (.left result) :: next.2)

/-- `CreateRoom` returns a room: the dispatcher goes on to join it. -/
def afterAdd (roomCode : RoomCode) (password : Option RoomSecret) :
    Option Participant → Thread
  | none => .finished
  | some participant => .joinRoom roomCode participant password

/-- The record of an `Update`. -/
def recordUpdate (id : Nat) (kind : CommitKind) (roomCode : RoomCode)
    (participantId : ParticipantId) : Option UpdateRoomResult → List ThreadRecord
  | some .updated => [.committed id kind roomCode participantId]
  | _ => []

/-- One repository call and what follows it. -/
def step (id : Nat) (rooms : Rooms) (draw : Draw) (order : HashOrder) :
    Thread → Option (Rooms × Thread × List ThreadRecord)
  | .createRoom password remaining creator =>
      -- Every attempt draws a code anew.
      let room := Room.create (generateRoomCode draw) password
      match rooms.add room with
      | (.added, rooms') =>
          some (rooms', afterAdd room.code password creator,
            [.returned id (.created (.ok room))])
      | (.alreadyExists, rooms') =>
          match remaining with
          | 0 =>
              some (rooms', .finished,
                [.returned id (.created (.error buildRoomCodeGenerationFailedError))])
          | remaining + 1 => some (rooms', .createRoom password remaining creator, [])
  | .joinRoom roomCode participant password =>
      let (result, locals, rooms') :=
        rooms.update roomCode (RoomService.joinUpdater participant password) ⟨none, []⟩ .none
      some (rooms', .finished, recordUpdate id .join roomCode participant.id result ++
        [.returned id (.joined (RoomService.finishJoin roomCode participant result locals))])
  | .leaveRoom roomCode participantId sweep =>
      let (result, locals, rooms') :=
        rooms.update roomCode (RoomService.leaveUpdater participantId) ⟨none, []⟩ .none
      let record := recordUpdate id .leave roomCode participantId result
      -- A committed removal goes on to `RemoveIfEmpty`, everything else returns.
      match RoomService.afterLeaveUpdate result locals with
      | some answer =>
          let next := returnLeave id participantId answer sweep
          some (rooms', next.1, record ++ next.2)
      | none =>
          some (rooms', .removeIfEmpty roomCode participantId locals.remainingParticipants sweep,
            record)
  | .removeIfEmpty roomCode participantId remaining sweep =>
      let next := returnLeave id participantId (.ok ⟨roomCode, participantId, remaining⟩) sweep
      some ((rooms.removeIfEmpty roomCode).2, next.1, next.2)
  | .getRoomCodes participantId =>
      let next := continueSweep id participantId ⟨rooms.getRoomCodes order, []⟩
      some (rooms, next.1, next.2)
  | .finished => none

/-! ## What a step can do -/

/-- The complete list of steps of a thread: from which point, what it found in the table, what it
left there, where it goes on, and what is recorded. -/
inductive Turn (id : Nat) (rooms : Rooms) :
    Thread → Rooms → Thread → List ThreadRecord → Prop
  | added {password : Option RoomSecret} {remaining : Nat} {creator : Option Participant}
      {code : RoomCode} (hfree : rooms.lookup code = none) :
      Turn id rooms (.createRoom password remaining creator)
        (rooms.insert code (Room.create code password)) (afterAdd code password creator)
        [.returned id (.created (.ok (Room.create code password)))]
  | retried {password : Option RoomSecret} {remaining : Nat} {creator : Option Participant} :
      Turn id rooms (.createRoom password (remaining + 1) creator) rooms
        (.createRoom password remaining creator) []
  | gaveUp {password : Option RoomSecret} {creator : Option Participant} :
      Turn id rooms (.createRoom password 0 creator) rooms .finished
        [.returned id (.created (.error buildRoomCodeGenerationFailedError))]
  | joined {code : RoomCode} {participant : Participant} {password : Option RoomSecret}
      {room : Room} (hstored : rooms.lookup code = some room)
      (hadmits : room.Admits participant password) :
      Turn id rooms (.joinRoom code participant password)
        (rooms.insert code (room.append participant)) .finished
        [.committed id .join code participant.id,
          .returned id (.joined (.ok ⟨code, participant, room.participants ++ [participant]⟩))]
  | joinRefused {code : RoomCode} {participant : Participant} {password : Option RoomSecret}
      {error : RoomServiceError}
      (hrefused : ∀ room, rooms.lookup code = some room → ¬ room.Admits participant password) :
      Turn id rooms (.joinRoom code participant password) rooms .finished
        [.returned id (.joined (.error error))]
  | left {code : RoomCode} {participantId : ParticipantId} {sweep : Option Sweep} {room : Room}
      (hstored : rooms.lookup code = some room)
      (hmember : room.hasParticipant participantId = true) :
      Turn id rooms (.leaveRoom code participantId sweep)
        (rooms.insert code (room.without participantId))
        (.removeIfEmpty code participantId (room.without participantId).participants sweep)
        [.committed id .leave code participantId]
  | leaveRefused {code : RoomCode} {participantId : ParticipantId} {sweep : Option Sweep}
      {error : RoomServiceError}
      (hrefused : ∀ room, rooms.lookup code = some room →
        room.hasParticipant participantId = false) :
      Turn id rooms (.leaveRoom code participantId sweep) rooms
        (returnLeave id participantId (.error error) sweep).1
        (returnLeave id participantId (.error error) sweep).2
  | removed {code : RoomCode} {participantId : ParticipantId} {remaining : List Participant}
      {sweep : Option Sweep} {room : Room} (hstored : rooms.lookup code = some room)
      (hempty : room.participants = []) :
      Turn id rooms (.removeIfEmpty code participantId remaining sweep) (rooms.erase code)
        (returnLeave id participantId (.ok ⟨code, participantId, remaining⟩) sweep).1
        (returnLeave id participantId (.ok ⟨code, participantId, remaining⟩) sweep).2
  | kept {code : RoomCode} {participantId : ParticipantId} {remaining : List Participant}
      {sweep : Option Sweep}
      (hoccupied : ∀ room, rooms.lookup code = some room → room.participants ≠ []) :
      Turn id rooms (.removeIfEmpty code participantId remaining sweep) rooms
        (returnLeave id participantId (.ok ⟨code, participantId, remaining⟩) sweep).1
        (returnLeave id participantId (.ok ⟨code, participantId, remaining⟩) sweep).2
  | listed {participantId : ParticipantId} {codes : List RoomCode} :
      Turn id rooms (.getRoomCodes participantId) rooms
        (continueSweep id participantId ⟨codes, []⟩).1
        (continueSweep id participantId ⟨codes, []⟩).2

variable {id : Nat} {rooms rooms' : Rooms} {draw : Draw} {order : HashOrder} {thread' : Thread}
  {records : List ThreadRecord}

/-- One attempt of a create. -/
theorem turn_of_createRoom {password : Option RoomSecret} {remaining : Nat}
    {creator : Option Participant}
    (hstep : (createRoom password remaining creator).step id rooms draw order =
      some (rooms', thread', records)) :
    Turn id rooms (.createRoom password remaining creator) rooms' thread' records := by
  cases hslot : rooms.lookup (generateRoomCode draw) with
  | none =>
      have hadd : rooms.add (Room.create (generateRoomCode draw) password) = _ :=
        Rooms.add_of_free hslot
      simp only [step, hadd, Option.some.injEq, Prod.mk.injEq] at hstep
      obtain ⟨rfl, rfl, rfl⟩ := hstep
      exact .added hslot
  | some taken =>
      have hadd : rooms.add (Room.create (generateRoomCode draw) password) = _ :=
        Rooms.add_of_taken hslot
      cases remaining with
      | zero =>
          simp only [step, hadd, Option.some.injEq, Prod.mk.injEq] at hstep
          obtain ⟨rfl, rfl, rfl⟩ := hstep
          exact .gaveUp
      | succ remaining =>
          simp only [step, hadd, Option.some.injEq, Prod.mk.injEq] at hstep
          obtain ⟨rfl, rfl, rfl⟩ := hstep
          exact .retried

/-- The transaction of a join. -/
theorem turn_of_joinRoom {code : RoomCode} {participant : Participant}
    {password : Option RoomSecret}
    (hstep : (joinRoom code participant password).step id rooms draw order =
      some (rooms', thread', records)) :
    Turn id rooms (.joinRoom code participant password) rooms' thread' records := by
  cases hslot : rooms.lookup code with
  | none =>
      simp only [step, Rooms.update_of_missing hslot, Option.some.injEq, Prod.mk.injEq] at hstep
      obtain ⟨rfl, rfl, rfl⟩ := hstep
      exact .joinRefused (by simp [hslot])
  | some room =>
      by_cases hadmits : room.Admits participant password
      · have hupdate := Rooms.update_of_commit hslot
          (RoomService.joinUpdater_of_admits hadmits ⟨none, []⟩)
        simp only [step, hupdate, Option.some.injEq, Prod.mk.injEq] at hstep
        obtain ⟨rfl, rfl, rfl⟩ := hstep
        exact .joined hslot hadmits
      · have hrefused : ∀ other, rooms.lookup code = some other →
            ¬ other.Admits participant password := by
          intro other hother
          obtain rfl := Option.some.inj (hslot.symm.trans hother)
          exact hadmits
        obtain ⟨reason, hreason, hupdater⟩ :=
          RoomService.joinUpdater_of_not_admits hadmits ⟨none, []⟩
        have hupdate := Rooms.update_of_abort hslot hupdater
        simp only [step, hupdate, Option.some.injEq, Prod.mk.injEq] at hstep
        obtain ⟨rfl, rfl, rfl⟩ := hstep
        -- Whatever the reason, the join returns an error.
        cases reason with
        | joined => exact absurd rfl hreason
        | invalidSecret => exact .joinRefused hrefused
        | secretNotProvided => exact .joinRefused hrefused
        | alreadyInRoom => exact .joinRefused hrefused

/-- The transaction of a leave. -/
theorem turn_of_leaveRoom {code : RoomCode} {participantId : ParticipantId}
    {sweep : Option Sweep}
    (hstep : (leaveRoom code participantId sweep).step id rooms draw order =
      some (rooms', thread', records)) :
    Turn id rooms (.leaveRoom code participantId sweep) rooms' thread' records := by
  cases hslot : rooms.lookup code with
  | none =>
      simp only [step, Rooms.update_of_missing hslot, RoomService.afterLeaveUpdate,
        Option.some.injEq, Prod.mk.injEq] at hstep
      obtain ⟨rfl, rfl, rfl⟩ := hstep
      exact .leaveRefused (by simp [hslot])
  | some room =>
      cases hmember : room.hasParticipant participantId with
      | true =>
          have hupdate := Rooms.update_of_commit hslot
            (RoomService.leaveUpdater_of_member hmember ⟨none, []⟩)
          simp only [step, hupdate, RoomService.afterLeaveUpdate, Option.some.injEq,
            Prod.mk.injEq] at hstep
          obtain ⟨rfl, rfl, rfl⟩ := hstep
          exact .left hslot hmember
      | false =>
          have hupdate := Rooms.update_of_abort hslot
            (RoomService.leaveUpdater_of_not_member hmember ⟨none, []⟩)
          simp only [step, hupdate, RoomService.afterLeaveUpdate, Option.some.injEq,
            Prod.mk.injEq] at hstep
          obtain ⟨rfl, rfl, rfl⟩ := hstep
          refine .leaveRefused ?_
          intro other hother
          obtain rfl := Option.some.inj (hslot.symm.trans hother)
          exact hmember

/-- The clean-up after a leave. -/
theorem turn_of_removeIfEmpty {code : RoomCode} {participantId : ParticipantId}
    {remaining : List Participant} {sweep : Option Sweep}
    (hstep : (removeIfEmpty code participantId remaining sweep).step id rooms draw order =
      some (rooms', thread', records)) :
    Turn id rooms (.removeIfEmpty code participantId remaining sweep) rooms' thread' records := by
  simp only [step, Option.some.injEq, Prod.mk.injEq] at hstep
  obtain ⟨rfl, rfl, rfl⟩ := hstep
  cases hslot : rooms.lookup code with
  | none =>
      rw [Rooms.removeIfEmpty_of_missing hslot]
      exact .kept (by simp [hslot])
  | some room =>
      by_cases hempty : room.participants = []
      · rw [Rooms.removeIfEmpty_of_empty hslot hempty]
        exact .removed hslot hempty
      · rw [Rooms.removeIfEmpty_of_occupied hslot hempty]
        refine .kept ?_
        intro other hother
        obtain rfl := Option.some.inj (hslot.symm.trans hother)
        exact hempty

/-- Every step of a thread is one of these turns. -/
theorem turn_of_step {thread : Thread}
    (hstep : thread.step id rooms draw order = some (rooms', thread', records)) :
    Turn id rooms thread rooms' thread' records := by
  cases thread with
  | createRoom password remaining creator => exact turn_of_createRoom hstep
  | joinRoom code participant password => exact turn_of_joinRoom hstep
  | leaveRoom code participantId sweep => exact turn_of_leaveRoom hstep
  | removeIfEmpty code participantId remaining sweep => exact turn_of_removeIfEmpty hstep
  | getRoomCodes participantId =>
      simp only [step, Option.some.injEq, Prod.mk.injEq] at hstep
      obtain ⟨rfl, rfl, rfl⟩ := hstep
      exact .listed
  | finished => cases hstep

/-- What a turn does to the slot of a code: nothing, it adds a room, lets somebody in, takes
somebody out, or removes the room. -/
theorem Turn.slot_cases {thread : Thread}
    (turn : Turn id rooms thread rooms' thread' records) (code : RoomCode) :
    rooms'.lookup code = rooms.lookup code ∨
    (∃ password remaining creator, thread = .createRoom password remaining creator ∧
      thread' = afterAdd code password creator ∧ rooms.lookup code = none ∧
      rooms'.lookup code = some (Room.create code password) ∧
      records = [.returned id (.created (.ok (Room.create code password)))]) ∨
    (∃ participant password, ∃ room : Room, rooms.lookup code = some room ∧
      room.Admits participant password ∧ rooms'.lookup code = some (room.append participant)) ∨
    (∃ pid sweep, ∃ room : Room, rooms.lookup code = some room ∧
      rooms'.lookup code = some (room.without pid) ∧
      thread' = .removeIfEmpty code pid (room.without pid).participants sweep) ∨
    (∃ room, rooms.lookup code = some room ∧ room.participants = [] ∧
      rooms'.lookup code = none) := by
  cases turn with
  | added hfree =>
      rename_i password remaining creator fresh
      by_cases hcode : code = fresh
      · subst hcode
        exact Or.inr (Or.inl ⟨password, remaining, creator, rfl, rfl, hfree,
          Finmap.lookup_insert rooms, rfl⟩)
      · exact Or.inl (Finmap.lookup_insert_of_ne rooms hcode)
  | joined hstored hadmits =>
      rename_i target participant password room
      by_cases hcode : code = target
      · subst hcode
        exact Or.inr (Or.inr (Or.inl ⟨participant, password, room, hstored, hadmits,
          Finmap.lookup_insert rooms⟩))
      · exact Or.inl (Finmap.lookup_insert_of_ne rooms hcode)
  | left hstored hmember =>
      rename_i target pid sweep room
      by_cases hcode : code = target
      · subst hcode
        exact Or.inr (Or.inr (Or.inr (Or.inl ⟨pid, sweep, room, hstored,
          Finmap.lookup_insert rooms, rfl⟩)))
      · exact Or.inl (Finmap.lookup_insert_of_ne rooms hcode)
  | removed hstored hempty =>
      rename_i target pid remaining sweep room
      by_cases hcode : code = target
      · subst hcode
        exact Or.inr (Or.inr (Or.inr (Or.inr ⟨room, hstored, hempty,
          Finmap.lookup_erase code rooms⟩)))
      · exact Or.inl (Finmap.lookup_erase_ne hcode)
  | retried => exact Or.inl rfl
  | gaveUp => exact Or.inl rfl
  | joinRefused hrefused => exact Or.inl rfl
  | leaveRefused hrefused => exact Or.inl rfl
  | kept hoccupied => exact Or.inl rfl
  | listed => exact Or.inl rfl

end Thread

/-! ## The machine -/

/-- The table and the calls made so far. -/
structure Interleaved where
  rooms : Rooms
  threads : Nat → Option Thread

namespace Interleaved

/-- A call is made, or a call takes a step.  The draw and the walk order are used by the steps that
need one. -/
inductive Event (ω : Type) where
  | call (thread : Nat) (operation : ω)
  | step (thread : Nat) (draw : Draw) (order : HashOrder)

/-- The thread that an event belongs to. -/
def Event.thread {ω : Type} : Event ω → Nat
  | call thread _ => thread
  | step thread _ _ => thread

def setThread (state : Interleaved) (id : Nat) (thread : Thread) : Interleaved :=
  { state with threads := Function.update state.threads id (some thread) }

/-- Any number of calls, their steps in any order.  Each call has a thread of its own. -/
def machine {ω : Type} (start : ω → Thread) :
    EventMachine Interleaved (Event ω) ThreadRecord where
  init := ⟨∅, fun _ => none⟩
  step state event :=
    match event with
    | .call id operation =>
        -- A call has a thread of its own.
        match state.threads id with
        | some _ => none
        | none => some (state.setThread id (start operation), [])
    | .step id draw order =>
        match state.threads id with
        | none => none
        | some thread =>
            match thread.step id state.rooms draw order with
            | none => none
            | some (rooms, thread', records) =>
                some ({ state with rooms := rooms }.setThread id thread', records)

/-- A step of a history of interleaved calls. -/
abbrev ThreadStep (ω : Type) := EventMachine.Step Interleaved (Event ω) ThreadRecord

variable {ω : Type} {start : ω → Thread}

theorem threads_setThread (state : Interleaved) (id other : Nat) (thread : Thread) :
    (state.setThread id thread).threads other =
      if other = id then some thread else state.threads other := by
  by_cases hsame : other = id
  · subst hsame
    simp [setThread]
  · simp [setThread, hsame]

/-- A step of the machine, with the step of the thread it runs. -/
theorem step_inversion {state state' : Interleaved} {event : Event ω}
    {records : List ThreadRecord}
    (hstep : (machine start).step state event = some (state', records)) :
    (∃ id operation, event = .call id operation ∧ state.threads id = none ∧
      state' = state.setThread id (start operation) ∧ records = []) ∨
    ∃ id draw order thread rooms' thread', event = .step id draw order ∧
      state.threads id = some thread ∧
      thread.step id state.rooms draw order = some (rooms', thread', records) ∧
      state' = { state with rooms := rooms' }.setThread id thread' := by
  cases event with
  | call id operation =>
      simp only [machine] at hstep
      split at hstep
      · cases hstep
      · next hnew =>
          obtain ⟨rfl, rfl⟩ := Prod.mk.inj (Option.some.inj hstep)
          exact Or.inl ⟨id, operation, rfl, hnew, rfl, rfl⟩
  | step id draw order =>
      simp only [machine] at hstep
      split at hstep
      · cases hstep
      · next thread hthread =>
          split at hstep
          · cases hstep
          · next rooms' thread' records' hturn =>
              obtain ⟨rfl, rfl⟩ := Prod.mk.inj (Option.some.inj hstep)
              exact Or.inr ⟨id, draw, order, thread, rooms', thread', rfl, hthread, hturn, rfl⟩

/-- Everything a step of the machine can be. -/
theorem step_cases {state state' : Interleaved} {event : Event ω} {records : List ThreadRecord}
    (hstep : (machine start).step state event = some (state', records)) :
    (∃ id operation, event = .call id operation ∧ state.threads id = none ∧
      state' = state.setThread id (start operation) ∧ records = []) ∨
    (∃ id draw order thread rooms' thread', event = .step id draw order ∧
      state.threads id = some thread ∧
      Thread.Turn id state.rooms thread rooms' thread' records ∧
      state' = { state with rooms := rooms' }.setThread id thread') := by
  rcases step_inversion hstep with hcall |
    ⟨id, draw, order, thread, rooms', thread', hevent, hthread, hturn, hstate⟩
  · exact Or.inl hcall
  · exact Or.inr ⟨id, draw, order, thread, rooms', thread', hevent, hthread,
      Thread.turn_of_step hturn, hstate⟩

end Interleaved

/-- The calls of the room service. -/
inductive ServiceCall where
  | createRoom (password : Option RoomSecret)
  | joinRoom (roomCode : RoomCode) (participant : Participant) (password : Option RoomSecret)
  | leaveRoom (roomCode : RoomCode) (participantId : ParticipantId)
  | leaveAllRooms (participantId : ParticipantId)

def ServiceCall.start : ServiceCall → Thread
  | createRoom password => .createRoom password (RoomService.maxAttempts - 1) none
  | joinRoom roomCode participant password => .joinRoom roomCode participant password
  | leaveRoom roomCode participantId => .leaveRoom roomCode participantId none
  | leaveAllRooms participantId => .getRoomCodes participantId

/-- The operations of the dispatcher that reach the repository with updates: a create is
`CreateRoom` followed by `JoinRoom`, a disconnect is `LeaveAllRooms`. -/
inductive DispatcherOperation where
  | createRoom (participant : Participant) (password : Option RoomSecret)
  | joinRoom (roomCode : RoomCode) (participant : Participant) (password : Option RoomSecret)
  | leaveRoom (roomCode : RoomCode) (participantId : ParticipantId)
  | disconnect (participantId : ParticipantId)

def DispatcherOperation.start : DispatcherOperation → Thread
  | createRoom participant password =>
      .createRoom password (RoomService.maxAttempts - 1) (some participant)
  | joinRoom roomCode participant password => .joinRoom roomCode participant password
  | leaveRoom roomCode participantId => .leaveRoom roomCode participantId none
  | disconnect participantId => .getRoomCodes participantId

end App
end BuzzWeb
