import AxmolFighter.Battle.Room

/-!
# The rooms of a battle server

`battle/BattleRoomManager.cpp`: the rooms by battle id, the room of each session, and the two limits. A
reference to a room of the table is its battle id.
-/

namespace AxmolFighter.Battle

structure BattleRoomManager (World : Type) where
  maxRooms : UInt32
  maxSessions : UInt32
  rooms : Table UInt32 (BattleRoom World) := ∅
  sessionToRoom : Table UInt32 UInt32 := ∅

namespace BattleRoomManager

variable {World : Type} (G : Mugen World) (m : BattleRoomManager World)

def roomCount : Nat := m.rooms.size

def activeSessionCount : UInt32 := UInt32.ofNat m.sessionToRoom.size

def canAcceptSession (sessionId : UInt32) : Bool :=
  if m.sessionToRoom.contains sessionId then true
  else if m.rooms.size ≥ m.maxRooms.toNat then false
  else m.activeSessionCount < m.maxSessions

/-- The battle id of the room, new or not; `none` if there is none and it cannot be created. -/
def createRoom (config : BattleRoomConfig) : BattleRoomManager World × Option UInt32 :=
  if config.battleId = 0 then (m, none)
  else if m.rooms.contains config.battleId then (m, some config.battleId)
  else if m.rooms.size ≥ m.maxRooms.toNat then (m, none)
  else
    match BattleRoom.init G config with
    | none => (m, none)
    | some room =>
        ({ m with rooms := m.rooms.insert config.battleId room }, some config.battleId)

def findRoom (battleId : UInt32) : Option (BattleRoom World) := m.rooms.get battleId

/-- The room of the session, with the id that refers to it. -/
def findRoomBySession (sessionId : UInt32) : Option (UInt32 × BattleRoom World) := do
  let battleId ← m.sessionToRoom.get sessionId
  let room ← m.findRoom battleId
  some (battleId, room)

/-- `true` also for a session that is in some room already. -/
def addPlayerToRoom (battleId : UInt32) (spec : BattlePlayerSpec) : BattleRoomManager World × Bool :=
  if m.sessionToRoom.contains spec.sessionId then (m, true)
  else if !m.canAcceptSession spec.sessionId then (m, false)
  else
    match m.rooms.get battleId with
    | none => (m, false)
    | some room =>
        match room.addPlayer G spec with
        | (room, false) => ({ m with rooms := m.rooms.insert battleId room }, false)
        | (room, true) =>
            ({ m with
                rooms := m.rooms.insert battleId room
                sessionToRoom := m.sessionToRoom.insert spec.sessionId room.battleId }, true)

/-- Takes the session out of its room; a room that it leaves empty goes away. -/
def removePlayer (sessionId : UInt32) : BattleRoomManager World :=
  match m.sessionToRoom.get sessionId with
  | none => m
  | some battleId =>
      let m := { m with sessionToRoom := m.sessionToRoom.remove sessionId }
      match m.findRoom battleId with
      | none => m
      | some room =>
          let room := room.removePlayer sessionId
          let m := { m with rooms := m.rooms.insert battleId room }
          if room.isEmpty then { m with rooms := m.rooms.remove room.battleId } else m

def tickAll (fixedDt : Float32) : BattleRoomManager World :=
  { m with rooms := m.rooms.mapValues fun room => room.tick G fixedDt }

/-! ### Seats -/

/-- The session is in the table of the room's players. -/
def Occupies (battleId sessionId : UInt32) : Prop :=
  ∃ room, m.findRoom battleId = some room ∧ room.hasPlayer sessionId = true

/-- The session is mapped to the room and the room has it. -/
def Seats (battleId sessionId : UInt32) : Prop :=
  m.sessionToRoom.get sessionId = some battleId ∧ m.Occupies battleId sessionId

variable {G m} {battleId : UInt32} {spec : BattlePlayerSpec}

theorem createRoom_new {config : BattleRoomConfig} {m' : BattleRoomManager World} {battleId : UInt32}
    (hnone : m.findRoom config.battleId = none) (h : m.createRoom G config = (m', some battleId)) :
    battleId = config.battleId ∧ ∃ room, BattleRoom.init G config = some room ∧
      m' = { m with rooms := m.rooms.insert config.battleId room } := by
  unfold createRoom at h
  split_ifs at h with hzero hexists hfull
  · cases h
  · obtain ⟨room, hroom⟩ := (Table.contains_iff ..).1 hexists
    rw [show m.rooms.get config.battleId = none from hnone] at hroom
    cases hroom
  · cases h
  · split at h
    · cases h
    · rename_i room hinit
      cases h
      exact ⟨rfl, room, hinit, rfl⟩

theorem contains_eq_false {sessionId : UInt32} (h : m.sessionToRoom.get sessionId = none) :
    m.sessionToRoom.contains sessionId = false := by
  rw [Table.contains, h]
  rfl

theorem canAcceptSession_iff {sessionId : UInt32} (h : m.sessionToRoom.get sessionId = none) :
    m.canAcceptSession sessionId = true ↔
      m.rooms.size < m.maxRooms.toNat ∧ m.activeSessionCount < m.maxSessions := by
  rw [canAcceptSession, contains_eq_false h]
  simp

/-- The outcomes of `addPlayerToRoom`. -/
inductive Added (G : Mugen World) (m : BattleRoomManager World) (battleId : UInt32)
    (spec : BattlePlayerSpec) : BattleRoomManager World × Bool → Prop
  | elsewhere {b : UInt32} (hmapped : m.sessionToRoom.get spec.sessionId = some b) :
      Added G m battleId spec (m, true)
  | refused (hfree : m.sessionToRoom.get spec.sessionId = none)
      (hrefused : m.canAcceptSession spec.sessionId = false ∨ m.rooms.get battleId = none) :
      Added G m battleId spec (m, false)
  | failed {room : BattleRoom World} (hfree : m.sessionToRoom.get spec.sessionId = none)
      (hroom : m.rooms.get battleId = some room) (hfailed : (room.addPlayer G spec).2 = false) :
      Added G m battleId spec
        ({ m with rooms := m.rooms.insert battleId (room.addPlayer G spec).1 }, false)
  | seated {room : BattleRoom World} (hfree : m.sessionToRoom.get spec.sessionId = none)
      (haccept : m.canAcceptSession spec.sessionId = true)
      (hroom : m.rooms.get battleId = some room) (hseated : (room.addPlayer G spec).2 = true) :
      Added G m battleId spec
        ({ m with
            rooms := m.rooms.insert battleId (room.addPlayer G spec).1
            sessionToRoom := m.sessionToRoom.insert spec.sessionId room.battleId }, true)

theorem addPlayerToRoom_added (G : Mugen World) (m : BattleRoomManager World) (battleId : UInt32)
    (spec : BattlePlayerSpec) : Added G m battleId spec (m.addPlayerToRoom G battleId spec) := by
  unfold addPlayerToRoom
  split_ifs with hmapped haccept
  · obtain ⟨b, hb⟩ := (Table.contains_iff ..).1 hmapped
    exact .elsewhere hb
  · have hfree := Option.not_isSome_iff_eq_none.1 hmapped
    exact .refused hfree (Or.inl (by simpa using haccept))
  · have hfree := Option.not_isSome_iff_eq_none.1 hmapped
    rcases hroom : m.rooms.get battleId with _ | room
    · exact .refused hfree (Or.inr hroom)
    · dsimp only
      obtain ⟨room', ok, hadd⟩ : ∃ room' ok, room.addPlayer G spec = (room', ok) := ⟨_, _, rfl⟩
      cases ok with
      | false =>
          have h : Added G m battleId spec _ := .failed hfree hroom (by rw [hadd])
          rw [hadd] at h ⊢
          exact h
      | true =>
          have hconfig := (BattleRoom.addPlayer_cases G room spec).1
          have h : Added G m battleId spec _ := .seated hfree (by simpa using haccept) hroom (by rw [hadd])
          rw [hadd] at h hconfig ⊢
          rw [BattleRoom.battleId, ← hconfig] at h
          exact h

theorem addPlayerToRoom_keeps {b sessionId : UInt32} (h : m.Seats b sessionId) :
    (m.addPlayerToRoom G battleId spec).1.Seats b sessionId := by
  obtain ⟨hmap, room, hroom, hhas⟩ := h
  have hinsert : ∀ room₀, m.rooms.get battleId = some room₀ → ∃ room',
      (m.rooms.insert battleId (room₀.addPlayer G spec).1).get b = some room' ∧
        room'.hasPlayer sessionId = true := by
    intro room₀ hroom₀
    by_cases hb : b = battleId
    · subst hb
      rw [show m.rooms.get b = some room from hroom] at hroom₀
      cases hroom₀
      exact ⟨_, Table.get_insert_self .., BattleRoom.addPlayer_keeps spec hhas⟩
    · exact ⟨room, (Table.get_insert_ne _ _ hb).trans hroom, hhas⟩
  have hadded := addPlayerToRoom_added G m battleId spec
  generalize m.addPlayerToRoom G battleId spec = r at hadded ⊢
  cases hadded with
  | elsewhere _ => exact ⟨hmap, room, hroom, hhas⟩
  | refused _ _ => exact ⟨hmap, room, hroom, hhas⟩
  | failed _ hroom₀ _ => exact ⟨hmap, hinsert _ hroom₀⟩
  | seated hfree _ hroom₀ _ =>
      refine ⟨?_, hinsert _ hroom₀⟩
      rw [Table.get_insert_ne _ _ ?_]
      · exact hmap
      · rintro rfl
        rw [hfree] at hmap
        cases hmap

/-- What every player added to a room keeps of the manager and of the other rooms. -/
theorem addPlayerToRoom_frame (G : Mugen World) (m : BattleRoomManager World) (battleId : UInt32)
    (spec : BattlePlayerSpec) :
    (m.addPlayerToRoom G battleId spec).1.maxRooms = m.maxRooms ∧
      (m.addPlayerToRoom G battleId spec).1.maxSessions = m.maxSessions ∧
      (m.addPlayerToRoom G battleId spec).1.rooms.size = m.rooms.size := by
  have hadded := addPlayerToRoom_added G m battleId spec
  generalize m.addPlayerToRoom G battleId spec = r at hadded ⊢
  cases hadded with
  | elsewhere _ => exact ⟨rfl, rfl, rfl⟩
  | refused _ _ => exact ⟨rfl, rfl, rfl⟩
  | failed _ hroom _ => exact ⟨rfl, rfl, Table.size_insert_old _ _ _ hroom⟩
  | seated _ _ hroom _ => exact ⟨rfl, rfl, Table.size_insert_old _ _ _ hroom⟩

end BattleRoomManager

end AxmolFighter.Battle
