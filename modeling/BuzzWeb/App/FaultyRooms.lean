import Mathlib.Logic.Relation
import BuzzWeb.App.FaultPoints
import BuzzWeb.App.RequestGrammar

/-!
# What a request can do to the rooms when calls throw

`RoomMove` lists what one committed repository call, made for one participant, does to the table.
Whatever throws and wherever, a service call is a sequence of such moves, and every throw that leaves
it uses up a planned fault (`ServiceActs`).

What the moves of a participant cannot do follows from the list, one move at a time: the others of a
room stay in it, in order, and while there are others the room keeps its secret.
-/

namespace BuzzWeb
namespace App

open Domain

/-- What a committed repository call made for `self` does to the table. -/
inductive RoomMove (self : ParticipantId) (rooms : Rooms) : Rooms → Prop
  | created {code : RoomCode} {password : Option RoomSecret}
      (hfree : rooms.lookup code = none) :
      RoomMove self rooms (rooms.insert code (Room.create code password))
  | joined {code : RoomCode} {participant : Participant} {password : Option RoomSecret}
      {room : Room} (hself : participant.id = self) (hstored : rooms.lookup code = some room)
      (hadmits : room.Admits participant password) :
      RoomMove self rooms (rooms.insert code (room.append participant))
  | left {code : RoomCode} {room : Room} (hstored : rooms.lookup code = some room) :
      RoomMove self rooms (rooms.insert code (room.without self))
  | removed {code : RoomCode} {room : Room} (hstored : rooms.lookup code = some room)
      (hempty : room.participants = []) : RoomMove self rooms (rooms.erase code)

/-- Some moves, one after the other. -/
abbrev Moved (self : ParticipantId) : Rooms → Rooms → Prop :=
  Relation.ReflTransGen (RoomMove self)

/-! ## What moves keep -/

/-- Those in a room other than `self`, in the order of the room; nobody when there is no room. -/
def othersAt (self : ParticipantId) (rooms : Rooms) (code : RoomCode) : List Participant :=
  match rooms.lookup code with
  | none => []
  | some room => (room.without self).participants

/-- The secret of the room stored under the code. -/
def secretAt (rooms : Rooms) (code : RoomCode) : Option RoomSecret :=
  (rooms.lookup code).bind Room.roomSecret

theorem othersAt_congr {self : ParticipantId} {rooms rooms' : Rooms} {code : RoomCode}
    (hslot : rooms'.lookup code = rooms.lookup code) :
    othersAt self rooms' code = othersAt self rooms code := by
  rw [othersAt, othersAt, hslot]

theorem secretAt_congr {rooms rooms' : Rooms} {code : RoomCode}
    (hslot : rooms'.lookup code = rooms.lookup code) :
    secretAt rooms' code = secretAt rooms code := by
  rw [secretAt, secretAt, hslot]

theorem RoomMove.keeps_others {self : ParticipantId} {rooms rooms' : Rooms}
    (hmove : RoomMove self rooms rooms') (code : RoomCode) :
    othersAt self rooms' code = othersAt self rooms code ∧
      (othersAt self rooms code ≠ [] → secretAt rooms' code = secretAt rooms code) := by
  -- A move writes one slot; at every other code there is nothing to show.
  have helsewhere {rooms' : Rooms} (hslot : rooms'.lookup code = rooms.lookup code) :
      othersAt self rooms' code = othersAt self rooms code ∧
        (othersAt self rooms code ≠ [] → secretAt rooms' code = secretAt rooms code) :=
    ⟨othersAt_congr hslot, fun _ => secretAt_congr hslot⟩
  cases hmove with
  | @created target password hfree =>
      by_cases hcode : code = target
      · subst hcode
        simp [othersAt, hfree, Room.without]
      · exact helsewhere (by rw [Rooms.lookup_insert_eq, if_neg hcode])
  | @joined target participant password room hself hstored hadmits =>
      by_cases hcode : code = target
      · subst hcode
        simp [othersAt, secretAt, hstored, Room.without, hself]
      · exact helsewhere (by rw [Rooms.lookup_insert_eq, if_neg hcode])
  | @left target room hstored =>
      by_cases hcode : code = target
      · subst hcode
        simp [othersAt, secretAt, hstored, Room.without]
      · exact helsewhere (by rw [Rooms.lookup_insert_eq, if_neg hcode])
  | @removed target room hstored hempty =>
      by_cases hcode : code = target
      · subst hcode
        simp [othersAt, hstored, Room.without, hempty]
      · exact helsewhere (by rw [Rooms.lookup_erase_eq, if_neg hcode])

/-- **The others stay.**  Moves of one participant keep the others of every room, in order, and the
secret of every room that others are in. -/
theorem Moved.keeps_others {self : ParticipantId} {rooms rooms' : Rooms}
    (hmoved : Moved self rooms rooms') (code : RoomCode) :
    othersAt self rooms' code = othersAt self rooms code ∧
      (othersAt self rooms code ≠ [] → secretAt rooms' code = secretAt rooms code) := by
  induction hmoved with
  | refl => exact ⟨rfl, fun _ => rfl⟩
  | tail hprev hlast ih =>
      obtain ⟨hothers, hsecret⟩ := ih
      obtain ⟨hothers', hsecret'⟩ := hlast.keeps_others code
      refine ⟨hothers'.trans hothers, fun hsome => ?_⟩
      exact (hsecret' (hothers ▸ hsome)).trans (hsecret hsome)

/-- A law of the stored rooms that creating, joining and leaving establish and keep. -/
theorem Moved.keeps_rooms {self : ParticipantId} {property : RoomCode → Room → Prop}
    (hcreate : ∀ code password, property code (Room.create code password))
    (hjoin : ∀ code room participant password, participant.id = self →
      room.Admits participant password → property code room →
      property code (room.append participant))
    (hleave : ∀ code room, property code room → property code (room.without self))
    {rooms rooms' : Rooms} (hmoved : Moved self rooms rooms')
    (hall : ∀ code room, rooms.lookup code = some room → property code room) :
    ∀ code room, rooms'.lookup code = some room → property code room := by
  induction hmoved with
  | refl => exact hall
  | @tail middle after hprev hlast ih =>
      intro code room hstored
      cases hlast with
      | created hfree =>
          rw [Rooms.lookup_insert_eq] at hstored
          split_ifs at hstored with hcode
          · obtain rfl := Option.some.inj hstored
            exact hcode ▸ hcreate _ _
          · exact ih code room hstored
      | joined hself hold hadmits =>
          rw [Rooms.lookup_insert_eq] at hstored
          split_ifs at hstored with hcode
          · obtain rfl := Option.some.inj hstored
            subst hcode
            exact hjoin code _ _ _ hself hadmits (ih code _ hold)
          · exact ih code room hstored
      | left hold =>
          rw [Rooms.lookup_insert_eq] at hstored
          split_ifs at hstored with hcode
          · obtain rfl := Option.some.inj hstored
            subst hcode
            exact hleave code _ (ih code _ hold)
          · exact ih code room hstored
      | removed hold hempty =>
          rw [Rooms.lookup_erase_eq] at hstored
          split_ifs at hstored with hcode
          exact ih code room hstored

/-! ## The service calls are moves -/

/-- How many of the repository calls to come are planned to throw. -/
def plannedFaults (store : Store) : Nat :=
  store.faults.countP (· ≠ .none)

/-- What a service call made for `actor` may do to the store, returning or throwing. -/
structure ServiceActs (actor : ParticipantId) (throws : Bool) (store store' : Store) : Prop where
  rooms : Moved actor store.rooms store'.rooms
  cost : plannedFaults store' + throws.toNat ≤ plannedFaults store

theorem serviceActs_composes (self : ParticipantId) : Throwing.Composes (ServiceActs self) where
  refl store := ⟨.refl, le_refl _⟩
  after_return := by
    intro throws store middle after hfirst hsecond
    refine ⟨hfirst.rooms.trans hsecond.rooms, ?_⟩
    have hcost := hfirst.cost
    have hcost' := hsecond.cost
    simp only [Bool.toNat_false] at hcost
    omega
  after_throw := by
    intro throws store middle after hfirst hsecond
    refine ⟨hfirst.rooms.trans hsecond.rooms, ?_⟩
    have hcost := hfirst.cost
    have hcost' := hsecond.cost
    omega

/-- A call uses its planned fault up. -/
theorem plannedFaults_advance (store : Store) (rooms : Rooms) :
    plannedFaults (store.advance rooms) + (if store.nextFault = .none then 0 else 1) =
      plannedFaults store := by
  obtain ⟨table, _ | ⟨fault, rest⟩⟩ := store
  · rfl
  · cases fault <;> simp [plannedFaults, Store.advance, Store.nextFault]

theorem plannedFaults_advance_le (store : Store) (rooms : Rooms) :
    plannedFaults (store.advance rooms) ≤ plannedFaults store := by
  have hcost := plannedFaults_advance store rooms
  omega

section ServiceCalls

variable {self : ParticipantId}

theorem serviceActs_call {α : Type} {method : Rooms → α × Rooms}
    (hmethod : ∀ rooms, Moved self rooms (method rooms).2) :
    Throwing.Obeys (ServiceActs self) (Repository.call method) := by
  intro store
  unfold Throwing.ObeysAt Repository.call
  split_ifs with hfault
  · exact ⟨hmethod store.rooms, plannedFaults_advance_le store _⟩
  · refine ⟨.refl, ?_⟩
    have hcost := plannedFaults_advance store store.rooms
    rw [if_neg hfault] at hcost
    exact le_of_eq hcost

/-- An `Update` throws and changes nothing, or does what its updater commits. -/
theorem moved_update {σ : Type} {roomCode : RoomCode} {updater : Updater σ} {locals : σ}
    {store : Store}
    (hcommit : ∀ throws room locals' copy, store.rooms.lookup roomCode = some room →
      updater throws room locals = (some .commit, locals', copy) →
      Moved self store.rooms (store.rooms.insert roomCode copy)) :
    Moved self store.rooms (Repository.update roomCode updater locals store).2.2.rooms := by
  show Moved self store.rooms (store.rooms.update roomCode updater locals store.nextFault).2.2
  unfold Rooms.update
  by_cases hbefore : store.nextFault = .beforeUpdater
  · rw [if_pos hbefore]
  · rw [if_neg hbefore]
    cases hslot : store.rooms.lookup roomCode with
    | none => exact .refl
    | some room =>
        rcases hupdater : updater (store.nextFault = .insideUpdater) room locals with
          ⟨_ | result, locals', copy⟩
        · simp only [hupdater]
          exact .refl
        · simp only [hupdater]
          by_cases hafter : store.nextFault = .afterUpdater
          · rw [if_pos hafter]
          · rw [if_neg hafter]
            cases result with
            | abort => exact .refl
            | commit => exact hcommit _ room locals' copy hslot hupdater

theorem moves_joinUpdater {participant : Participant} {password : Option RoomSecret}
    {roomCode : RoomCode} {rooms : Rooms} (hself : participant.id = self) {throws : Bool}
    {room copy : Room} {locals locals' : RoomService.JoinLocals}
    (hstored : rooms.lookup roomCode = some room)
    (hcommit : RoomService.joinUpdater participant password throws room locals =
      (some .commit, locals', copy)) :
    Moved self rooms (rooms.insert roomCode copy) := by
  by_cases hadmits : room.Admits participant password
  · cases throws with
    | true => simp [RoomService.joinUpdater] at hcommit
    | false =>
        rw [RoomService.joinUpdater_of_admits hadmits] at hcommit
        obtain ⟨-, hrest⟩ := Prod.mk.inj hcommit
        obtain ⟨-, rfl⟩ := Prod.mk.inj hrest
        exact .single (.joined hself hstored hadmits)
  · obtain ⟨reason, hreason, hadd⟩ := Room.tryAddParticipant_of_not_admits hadmits
    cases throws <;> simp [RoomService.joinUpdater, hadd, hreason] at hcommit

theorem serviceActs_joinRoom (roomCode : RoomCode) (name : String)
    (password : Option RoomSecret) :
    Throwing.Obeys (ServiceActs self) (RoomService.joinRoom roomCode ⟨self, name⟩ password) := by
  intro store
  refine ⟨moved_update fun throws room locals' copy hstored hcommit => ?_,
    plannedFaults_advance_le store _⟩
  exact moves_joinUpdater rfl hstored hcommit

theorem moves_leaveUpdater {roomCode : RoomCode} {rooms : Rooms} {throws : Bool}
    {room copy : Room} {locals locals' : RoomService.LeaveLocals}
    (hstored : rooms.lookup roomCode = some room)
    (hcommit : RoomService.leaveUpdater self throws room locals =
      (some .commit, locals', copy)) :
    Moved self rooms (rooms.insert roomCode copy) := by
  cases throws with
  | true => simp [RoomService.leaveUpdater] at hcommit
  | false =>
      cases hmember : room.hasParticipant self with
      | true =>
          rw [RoomService.leaveUpdater_of_member hmember] at hcommit
          obtain ⟨-, hrest⟩ := Prod.mk.inj hcommit
          obtain ⟨-, rfl⟩ := Prod.mk.inj hrest
          exact .single (.left hstored)
      | false =>
          rw [RoomService.leaveUpdater_of_not_member hmember] at hcommit
          cases (Prod.mk.inj hcommit).1

theorem moves_removeIfEmpty (roomCode : RoomCode) (rooms : Rooms) :
    Moved self rooms (rooms.removeIfEmpty roomCode).2 := by
  unfold Rooms.removeIfEmpty
  split
  · exact .refl
  · next room hstored =>
      split_ifs with hempty
      · exact .single (.removed hstored ((Room.isEmpty_iff room).mp hempty))
      · exact .refl

theorem serviceActs_leaveRoom (roomCode : RoomCode) :
    Throwing.Obeys (ServiceActs self) (RoomService.leaveRoom roomCode self) := by
  intro store
  have hupdate : ServiceActs self false store
      (Repository.update roomCode (RoomService.leaveUpdater self) ⟨none, []⟩ store).2.2 := by
    refine ⟨moved_update fun throws room locals' copy hstored hcommit => ?_,
      plannedFaults_advance_le store _⟩
    exact moves_leaveUpdater hstored hcommit
  have hremove : Throwing.Obeys (ServiceActs self) (Repository.removeIfEmpty roomCode) :=
    serviceActs_call fun rooms => moves_removeIfEmpty roomCode rooms
  unfold Throwing.ObeysAt RoomService.leaveRoom
  generalize Repository.update roomCode (RoomService.leaveUpdater self) ⟨none, []⟩ store = updated
    at hupdate ⊢
  obtain ⟨repositoryResult, locals, store'⟩ := updated
  simp only at hupdate ⊢
  cases RoomService.afterLeaveUpdate repositoryResult locals with
  | some result => exact hupdate
  | none =>
      -- `RemoveIfEmpty` may throw, but its exception becomes a result.
      rcases hresult : Repository.removeIfEmpty roomCode store' with ⟨_ | answer, store''⟩
      · simp only
        have hlast := (hremove store').of_none hresult
        have hboth := (serviceActs_composes self).after_return hupdate hlast
        refine ⟨hboth.rooms, ?_⟩
        have hcost := hboth.cost
        simp only [Bool.toNat_true] at hcost
        change plannedFaults store'' + 0 ≤ plannedFaults store
        omega
      · simp only
        exact (serviceActs_composes self).after_return hupdate ((hremove store').of_some hresult)

theorem moves_add (code : RoomCode) (password : Option RoomSecret) (rooms : Rooms) :
    Moved self rooms (rooms.add (Room.create code password)).2 := by
  unfold Rooms.add
  split
  · exact .refl
  · next hfree => exact .single (.created hfree)

theorem serviceActs_createRoomLoop (draws : Nat → Draw) (password : Option RoomSecret)
    (remaining attempt : Nat) :
    Throwing.Obeys (ServiceActs self)
      (RoomService.createRoomLoop draws password remaining attempt) := by
  induction remaining generalizing attempt with
  | zero => exact Throwing.obeys_pure (serviceActs_composes self) _
  | succ remaining ih =>
      intro store
      have hadd : Throwing.Obeys (ServiceActs self)
          (Repository.add (Room.create (generateRoomCode (draws attempt)) password)) :=
        serviceActs_call fun rooms => moves_add _ password rooms
      rw [Throwing.ObeysAt, RoomService.createRoomLoop]
      rcases hresult : Repository.add
        (Room.create (generateRoomCode (draws attempt)) password) store with ⟨_ | answer, store'⟩
      · -- An exception ends the loop with an internal error.
        have hfault := (hadd store).of_none hresult
        simp only [hresult]
        refine ⟨hfault.rooms, ?_⟩
        have hcost := hfault.cost
        change plannedFaults store' + 0 ≤ plannedFaults store
        omega
      · have hfirst := (hadd store).of_some hresult
        cases answer with
        | added =>
            simp only [hresult]
            exact hfirst
        | alreadyExists =>
            simp only [hresult]
            exact (serviceActs_composes self).after_return hfirst (ih (attempt + 1) store')

theorem serviceActs_participantInRoom (participantId : ParticipantId) (roomCode : RoomCode) :
    Throwing.Obeys (ServiceActs self)
      (RoomService.participantInRoom participantId roomCode) :=
  serviceActs_call fun _ => .refl

theorem serviceActs_leaveEach (roomCodes : List RoomCode) :
    Throwing.Obeys (ServiceActs self) (RoomService.leaveEach self roomCodes) := by
  have hR := serviceActs_composes self
  induction roomCodes with
  | nil => exact Throwing.obeys_pure hR []
  | cons roomCode rest ih =>
      refine Throwing.Obeys.bind hR (serviceActs_leaveRoom roomCode) fun result => ?_
      exact Throwing.Obeys.bind hR ih fun later => Throwing.obeys_pure hR _

/-- The sweep after a disconnect. -/
theorem serviceActs_disconnected (order : HashOrder) :
    Throwing.Obeys (ServiceActs self)
      (ControlDispatcher.handleParticipantDisconnected order self) := by
  have hR := serviceActs_composes self
  have hcodes : Throwing.Obeys (ServiceActs self) (Repository.getRoomCodes order) :=
    serviceActs_call fun _ => .refl
  refine Throwing.Obeys.bind hR ?_ fun results => Throwing.obeys_pure hR _
  exact Throwing.Obeys.bind hR hcodes fun roomCodes => serviceActs_leaveEach roomCodes

/-- The service calls of a decoded request are made for the session it came from. -/
theorem serviceActs_resultOf {json : Json} {request : ControlDispatcherRequest}
    (hdecoded : ProtocolCodec.Decoded self json request) (draws : Nat → Draw) :
    Throwing.Obeys (ServiceActs self) (ControlDispatcher.resultOf draws request) := by
  have hR := serviceActs_composes self
  cases hdecoded with
  | createRoom htype hid hpayload hname hpassword =>
      refine Throwing.Obeys.bind hR (serviceActs_createRoomLoop draws _ _ _) fun created => ?_
      cases created with
      | error error => exact Throwing.obeys_pure hR _
      | ok room =>
          refine Throwing.Obeys.bind hR (serviceActs_joinRoom _ _ _) fun joined => ?_
          cases joined <;> exact Throwing.obeys_pure hR _
  | joinRoom htype hid hpayload hcode hname hpassword =>
      refine Throwing.Obeys.bind hR (serviceActs_joinRoom _ _ _) fun joined => ?_
      cases joined <;> exact Throwing.obeys_pure hR _
  | leaveRoom htype hid hpayload hcode =>
      refine Throwing.Obeys.bind hR (serviceActs_leaveRoom _) fun left => ?_
      cases left <;> exact Throwing.obeys_pure hR _
  | signaling htype hid hpayload hcode htarget =>
      refine Throwing.Obeys.bind hR (serviceActs_participantInRoom _ _) fun sender => ?_
      cases sender with
      | false => exact Throwing.obeys_pure hR _
      | true =>
          refine Throwing.Obeys.bind hR (serviceActs_participantInRoom _ _) fun target => ?_
          cases target <;> exact Throwing.obeys_pure hR _

end ServiceCalls

end App
end BuzzWeb
