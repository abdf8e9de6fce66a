import Mathlib.Data.Finmap
import Mathlib.Data.List.Sort
import BuzzWeb.Domain.Room
import BuzzWeb.Library.Throwing

/-!
# The room repository

`InMemoryRoomRepository`: a hash table from room codes to rooms behind one mutex.  The table is a
finite map without an order; the order in which `GetRoomCodes` walks it is a choice of the
environment (`HashOrder`).

Each method is given twice.  The functions of `Rooms` are what one call does to the table when it
is let through: they are the atomic steps that interleave.  The functions of `Repository` run
them on a `Store`, which adds the planned faults: a call may throw before it does anything, and
`Update` may also throw inside the updater or between the updater and the commit.
-/

namespace BuzzWeb
namespace Domain

inductive AddRoomResult where
  | added
  | alreadyExists
deriving DecidableEq, Repr

inductive UpdateRoomResult where
  | updated
  | notFound
  | aborted
deriving DecidableEq, Repr

inductive RemoveEmptyRoomResult where
  | removed
  | notEmpty
  | notFound
deriving DecidableEq, Repr

inductive TransactionResult where
  | commit
  | abort
deriving DecidableEq, Repr

/-- The table `rooms_`. -/
abbrev Rooms := Finmap fun _ : RoomCode => Room

/-- An order in which the hash table may be walked: every set of codes is listed once each. -/
structure HashOrder where
  order : Finset RoomCode → List RoomCode
  nodup : ∀ codes, (order codes).Nodup
  mem_iff : ∀ codes code, code ∈ order codes ↔ code ∈ codes

namespace HashOrder

/-- The codes of a set in ascending order. -/
def ascendingCodes (codes : Finset RoomCode) : List RoomCode :=
  Quotient.liftOn codes.val (fun listed => listed.insertionSort (· ≤ ·)) fun first second hperm =>
    ((List.perm_insertionSort _ first).trans
      (hperm.trans (List.perm_insertionSort _ second).symm)).eq_of_pairwise' (r := (· ≤ ·))
      (List.pairwise_insertionSort _ first) (List.pairwise_insertionSort _ second)

/-- One order that a table may be walked in. -/
def ascending : HashOrder where
  order := ascendingCodes
  nodup codes := by
    obtain ⟨codes, hnodup⟩ := codes
    induction codes using Quotient.inductionOn with
    | h listed => exact (List.perm_insertionSort _ listed).nodup_iff.mpr hnodup
  mem_iff codes code := by
    obtain ⟨codes, hnodup⟩ := codes
    induction codes using Quotient.inductionOn with
    | h listed => exact (List.perm_insertionSort _ listed).mem_iff

end HashOrder

/-- Where a repository call throws, if it does.  Methods without an updater only know the first
point.  The last point is before the commit has stored anything. -/
inductive RepositoryFault where
  | none
  | beforeUpdater
  | insideUpdater
  | afterUpdater
deriving DecidableEq, Repr

/-- The lambda given to `Update`.  `σ` holds the locals it captures by reference; the flag tells
whether its own allocation throws.  The locals come back in every case, because writes made
before a throw stay. -/
abbrev Updater (σ : Type) := Bool → Room → σ → Option TransactionResult × σ × Room

namespace Rooms

/-! ## The methods as steps on the table -/

def add (rooms : Rooms) (room : Room) : AddRoomResult × Rooms :=
  match rooms.lookup room.code with
  | some _ => (.alreadyExists, rooms)
  | none => (.added, rooms.insert room.code room)

/-- Copy the room, run the updater on the copy, store the copy only on `commit`. -/
def update {σ : Type} (rooms : Rooms) (roomCode : RoomCode) (updater : Updater σ) (locals : σ)
    (fault : RepositoryFault) : Option UpdateRoomResult × σ × Rooms :=
  if fault = .beforeUpdater then
    (none, locals, rooms)
  else
    match rooms.lookup roomCode with
    | none => (some .notFound, locals, rooms)
    | some room =>
        match updater (fault = .insideUpdater) room locals with
        | (none, locals', _) => (none, locals', rooms)
        | (some result, locals', updatedRoom) =>
            if fault = .afterUpdater then (none, locals', rooms)
            else
              match result with
              | .abort => (some .aborted, locals', rooms)
              | .commit => (some .updated, locals', rooms.insert roomCode updatedRoom)

def removeIfEmpty (rooms : Rooms) (roomCode : RoomCode) : RemoveEmptyRoomResult × Rooms :=
  match rooms.lookup roomCode with
  | none => (.notFound, rooms)
  | some room =>
      if room.isEmpty then (.removed, rooms.erase roomCode) else (.notEmpty, rooms)

def participantInRoom (rooms : Rooms) (participantId : ParticipantId) (roomCode : RoomCode) :
    Bool :=
  match rooms.lookup roomCode with
  | none => false
  | some room => room.hasParticipant participantId

def getRoomCodes (rooms : Rooms) (order : HashOrder) : List RoomCode :=
  order.order rooms.keys

end Rooms

/-- The repository object: its table and the faults planned for the calls to come. -/
structure Store where
  rooms : Rooms
  faults : List RepositoryFault

namespace Store

/-- A store on which no call throws. -/
def quiet (rooms : Rooms) : Store := ⟨rooms, []⟩

/-- The fault planned for the next call. -/
def nextFault (store : Store) : RepositoryFault :=
  store.faults.headD .none

/-- The store once the next call has consumed its plan and left the table `rooms`. -/
def advance (store : Store) (rooms : Rooms) : Store :=
  ⟨rooms, store.faults.tail⟩

@[simp] theorem nextFault_quiet (rooms : Rooms) : (quiet rooms).nextFault = .none := rfl

@[simp] theorem advance_quiet (rooms rooms' : Rooms) :
    (quiet rooms).advance rooms' = quiet rooms' := rfl

@[simp] theorem quiet_rooms (rooms : Rooms) : (quiet rooms).rooms = rooms := rfl

end Store

namespace Repository

/-- A call without an updater: it throws before doing anything, or runs. -/
def call {α : Type} (method : Rooms → α × Rooms) : Throwing Store α := fun store =>
  if store.nextFault = .none then
    let result := method store.rooms
    (some result.1, store.advance result.2)
  else
    (none, store.advance store.rooms)

def add (room : Room) : Throwing Store AddRoomResult :=
  call fun rooms => rooms.add room

def removeIfEmpty (roomCode : RoomCode) : Throwing Store RemoveEmptyRoomResult :=
  call fun rooms => rooms.removeIfEmpty roomCode

def participantInRoom (participantId : ParticipantId) (roomCode : RoomCode) :
    Throwing Store Bool :=
  call fun rooms => (rooms.participantInRoom participantId roomCode, rooms)

def getRoomCodes (order : HashOrder) : Throwing Store (List RoomCode) :=
  call fun rooms => (rooms.getRoomCodes order, rooms)

/-- `Update` also hands back the locals its updater captured, since its caller reads them after a
throw. -/
def update {σ : Type} (roomCode : RoomCode) (updater : Updater σ) (locals : σ) (store : Store) :
    Option UpdateRoomResult × σ × Store :=
  let result := store.rooms.update roomCode updater locals store.nextFault
  (result.1, result.2.1, store.advance result.2.2)

@[simp] theorem call_quiet {α : Type} (method : Rooms → α × Rooms) (rooms : Rooms) :
    call method (Store.quiet rooms) = (some (method rooms).1, Store.quiet (method rooms).2) := rfl

end Repository

/-! ## What the steps do to the table -/

namespace Rooms

theorem add_of_free {rooms : Rooms} {room : Room} (h : rooms.lookup room.code = none) :
    rooms.add room = (.added, rooms.insert room.code room) := by
  simp [add, h]

theorem add_of_taken {rooms : Rooms} {room taken : Room}
    (h : rooms.lookup room.code = some taken) : rooms.add room = (.alreadyExists, rooms) := by
  simp [add, h]

theorem update_of_missing {σ : Type} {rooms : Rooms} {roomCode : RoomCode}
    (h : rooms.lookup roomCode = none) (updater : Updater σ) (locals : σ) :
    rooms.update roomCode updater locals .none = (some .notFound, locals, rooms) := by
  simp [update, h]

/-- When nothing throws and the updater commits, its copy is stored. -/
theorem update_of_commit {σ : Type} {rooms : Rooms} {roomCode : RoomCode} {room updated : Room}
    {updater : Updater σ} {locals locals' : σ} (h : rooms.lookup roomCode = some room)
    (hupdater : updater false room locals = (some .commit, locals', updated)) :
    rooms.update roomCode updater locals .none =
      (some .updated, locals', rooms.insert roomCode updated) := by
  simp [update, h, hupdater]

/-- When nothing throws and the updater aborts, its copy is dropped. -/
theorem update_of_abort {σ : Type} {rooms : Rooms} {roomCode : RoomCode} {room updated : Room}
    {updater : Updater σ} {locals locals' : σ} (h : rooms.lookup roomCode = some room)
    (hupdater : updater false room locals = (some .abort, locals', updated)) :
    rooms.update roomCode updater locals .none = (some .aborted, locals', rooms) := by
  simp [update, h, hupdater]

theorem removeIfEmpty_of_empty {rooms : Rooms} {roomCode : RoomCode} {room : Room}
    (h : rooms.lookup roomCode = some room) (hempty : room.participants = []) :
    rooms.removeIfEmpty roomCode = (.removed, rooms.erase roomCode) := by
  simp [removeIfEmpty, h, Room.isEmpty, hempty]

theorem removeIfEmpty_of_occupied {rooms : Rooms} {roomCode : RoomCode} {room : Room}
    (h : rooms.lookup roomCode = some room) (hoccupied : room.participants ≠ []) :
    rooms.removeIfEmpty roomCode = (.notEmpty, rooms) := by
  simp [removeIfEmpty, h, Room.isEmpty, hoccupied]

theorem removeIfEmpty_of_missing {rooms : Rooms} {roomCode : RoomCode}
    (h : rooms.lookup roomCode = none) :
    rooms.removeIfEmpty roomCode = (.notFound, rooms) := by
  simp [removeIfEmpty, h]

@[simp] theorem participantInRoom_iff (rooms : Rooms) (participantId : ParticipantId)
    (roomCode : RoomCode) :
    rooms.participantInRoom participantId roomCode = true ↔
      ∃ room, rooms.lookup roomCode = some room ∧ room.hasParticipant participantId = true := by
  unfold participantInRoom
  cases rooms.lookup roomCode <;> simp

/-- The walked codes are the stored codes. -/
theorem mem_getRoomCodes {rooms : Rooms} {order : HashOrder} {roomCode : RoomCode} :
    roomCode ∈ rooms.getRoomCodes order ↔ ∃ room, rooms.lookup roomCode = some room := by
  rw [getRoomCodes, order.mem_iff, Finmap.mem_keys, Finmap.mem_iff]

theorem getRoomCodes_nodup (rooms : Rooms) (order : HashOrder) :
    (rooms.getRoomCodes order).Nodup :=
  order.nodup _

/-- Lookup after an insertion, at any key. -/
theorem lookup_insert_eq (rooms : Rooms) (roomCode other : RoomCode) (room : Room) :
    (rooms.insert roomCode room).lookup other =
      if other = roomCode then some room else rooms.lookup other := by
  split_ifs with h
  · subst h
    exact Finmap.lookup_insert rooms
  · exact Finmap.lookup_insert_of_ne rooms h

/-- Lookup after an erasure, at any key. -/
theorem lookup_erase_eq (rooms : Rooms) (roomCode other : RoomCode) :
    (rooms.erase roomCode).lookup other =
      if other = roomCode then none else rooms.lookup other := by
  split_ifs with h
  · subst h
    exact Finmap.lookup_erase other rooms
  · exact Finmap.lookup_erase_ne h

end Rooms

end Domain
end BuzzWeb
