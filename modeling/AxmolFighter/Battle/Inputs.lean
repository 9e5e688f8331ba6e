import AxmolFighter.Battle.Capacity

/-!
# Inputs and the snapshots that confirm them

`applyInput` writes a mask into the actor's input component and takes down the client's frame; the next
update of the world reads the mask, and a snapshot confirms the frame. An input is confirmed although no
update has seen it if another one took its place before the world was updated.
-/

namespace AxmolFighter.Battle

variable {World : Type} (G : Mugen World)

/-- What happens to a room once its players have their seats. -/
inductive RoomEvent
  | input (sessionId clientFrame inputMask : UInt32)
  | tick (fixedDt : Float32)
  | removePlayer (sessionId : UInt32)
deriving DecidableEq

namespace BattleRoom

variable (room : BattleRoom World)

def handle : RoomEvent → BattleRoom World
  | .input sessionId clientFrame inputMask => room.applyInput G sessionId clientFrame inputMask
  | .tick fixedDt => room.tick G fixedDt
  | .removePlayer sessionId => room.removePlayer sessionId

/-- The transition of a room's run. -/
def Step (room : BattleRoom World) (e : RoomEvent) (room' : BattleRoom World) : Prop := room' = room.handle G e

/-- The actor that an input is written into. -/
def written (sessionId inputMask : UInt32) : Option UInt32 :=
  match room.players.get sessionId, room.world with
  | some slot, some world => if (G.setKeyDown world slot.actorId inputMask).isSome then some slot.actorId else none
  | _, _ => none

/-- A tick updates the world. -/
def updates : Bool := room.world.isSome && !room.isEmpty

end BattleRoom

/-- `InputComponent::keyDown` of an actor, if it has the component. -/
structure Mugen.Keys (G : Mugen World) (keyDown : World → UInt32 → Option UInt32) : Prop where
  written : ∀ world actorId mask world', G.setKeyDown world actorId mask = some world' →
    keyDown world' actorId = some mask
  others : ∀ world actorId mask world' other, G.setKeyDown world actorId mask = some world' →
    other ≠ actorId → keyDown world' other = keyDown world other

abbrev RoomTrace (World : Type) := List (BattleRoom World × RoomEvent)

/-- An accepted input: it is written into the actor. -/
def Writes (x : BattleRoom World × RoomEvent) (sessionId clientFrame inputMask actorId : UInt32) : Prop :=
  x.2 = .input sessionId clientFrame inputMask ∧ x.1.written G sessionId inputMask = some actorId

/-- An update of the world while the actor's keys are the mask. -/
def Simulates (keyDown : World → UInt32 → Option UInt32) (x : BattleRoom World × RoomEvent)
    (actorId mask : UInt32) : Prop :=
  ∃ dt world, x.2 = .tick dt ∧ x.1.isEmpty = false ∧ x.1.world = some world ∧ keyDown world actorId = some mask

/-- The masks written into each actor since the last update of the world. -/
def waitingAfter (waiting : UInt32 → List UInt32) (x : BattleRoom World × RoomEvent) : UInt32 → List UInt32 :=
  match x.2 with
  | .input sessionId _ inputMask =>
      match x.1.written G sessionId inputMask with
      | some actorId => Function.update waiting actorId (waiting actorId ++ [inputMask])
      | none => waiting
  | .tick _ => if x.1.updates then fun _ => [] else waiting
  | _ => waiting

def waiting (trace : RoomTrace World) : UInt32 → List UInt32 := trace.foldl (waitingAfter G) fun _ => []

/-- An input does not take the place of a different one that waits for an update. -/
def Timely (trace : RoomTrace World) (x : BattleRoom World × RoomEvent) : Prop :=
  match x.2 with
  | .input sessionId _ inputMask => ∀ actorId, x.1.written G sessionId inputMask = some actorId →
      ∀ mask ∈ waiting G trace actorId, mask = inputMask
  | _ => True

variable {G} {keyDown : World → UInt32 → Option UInt32}

/-! ### The keys that wait -/

/-- Every mask written into an actor has been simulated or waits, and what waits is the actor's keys. -/
structure Tracked (G : Mugen World) (keyDown : World → UInt32 → Option UInt32) (trace : RoomTrace World)
    (room : BattleRoom World) : Prop where
  accounted : ∀ x ∈ trace, ∀ sessionId clientFrame mask actorId, Writes G x sessionId clientFrame mask actorId →
    (∃ y ∈ trace, Simulates keyDown y actorId mask) ∨ mask ∈ waiting G trace actorId
  pressed : ∀ actorId, ∀ mask ∈ waiting G trace actorId,
    ∃ world, room.world = some world ∧ keyDown world actorId = some mask

theorem waiting_snoc (trace : RoomTrace World) (x : BattleRoom World × RoomEvent) :
    waiting G (trace ++ [x]) = waitingAfter G (waiting G trace) x := by
  rw [waiting, List.foldl_append]
  rfl

theorem applyInput_written {room : BattleRoom World} {sessionId inputMask actorId : UInt32} (clientFrame : UInt32)
    (h : room.written G sessionId inputMask = some actorId) : ∃ world world', room.world = some world ∧
      G.setKeyDown world actorId inputMask = some world' ∧
        (room.applyInput G sessionId clientFrame inputMask).world = some world' := by
  unfold BattleRoom.written at h
  split at h
  · rename_i slot world hslot hworld
    split_ifs at h with hset
    obtain ⟨world', hset⟩ := Option.isSome_iff_exists.1 hset
    obtain rfl := Option.some.inj h
    refine ⟨world, world', hworld, hset, ?_⟩
    rw [BattleRoom.applyInput]
    simp only [hslot, hworld, hset]
  · cases h

theorem applyInput_unwritten {room : BattleRoom World} {sessionId clientFrame inputMask : UInt32}
    (h : room.written G sessionId inputMask = none) : room.applyInput G sessionId clientFrame inputMask = room := by
  rcases hslot : room.players.get sessionId with _ | slot
  · simp only [BattleRoom.applyInput, hslot]
  · rcases hworld : room.world with _ | world
    · simp only [BattleRoom.applyInput, hslot, hworld]
    · simp only [BattleRoom.written, hslot, hworld, ite_eq_right_iff, reduceCtorEq, imp_false,
        Option.not_isSome_iff_eq_none] at h
      simp only [BattleRoom.applyInput, hslot, hworld, h]

variable {trace : RoomTrace World} {room : BattleRoom World}

theorem Tracked.other (h : Tracked G keyDown trace room) {e : RoomEvent} {room' : BattleRoom World}
    (hwaiting : ∀ waiting, waitingAfter G waiting (room, e) = waiting)
    (hwrites : ∀ sessionId clientFrame mask actorId, ¬ Writes G (room, e) sessionId clientFrame mask actorId)
    (hworld : room'.world = room.world) : Tracked G keyDown (trace ++ [(room, e)]) room' := by
  refine ⟨fun x hx sessionId clientFrame mask actorId hwritten => ?_, fun actorId mask hmask => ?_⟩
  · rw [waiting_snoc, hwaiting]
    rcases List.mem_append.1 hx with hx | hx
    · refine (h.accounted x hx sessionId clientFrame mask actorId hwritten).imp_left ?_
      rintro ⟨y, hy, hsimulates⟩
      exact ⟨y, List.mem_append_left _ hy, hsimulates⟩
    · rw [List.mem_singleton.1 hx] at hwritten
      exact absurd hwritten (hwrites _ _ _ _)
  · rw [waiting_snoc, hwaiting] at hmask
    rw [hworld]
    exact h.pressed actorId mask hmask

theorem Tracked.input (hkeys : G.Keys keyDown) (h : Tracked G keyDown trace room)
    {sessionId clientFrame inputMask : UInt32}
    (hok : Timely G trace (room, .input sessionId clientFrame inputMask)) :
    Tracked G keyDown (trace ++ [(room, .input sessionId clientFrame inputMask)])
      (room.applyInput G sessionId clientFrame inputMask) := by
  rcases hwritten : room.written G sessionId inputMask with _ | actorId
  · rw [applyInput_unwritten hwritten]
    refine h.other (fun waiting => ?_) (fun _ _ _ _ hwrites => ?_) rfl
    · simp only [waitingAfter, hwritten]
    · obtain ⟨heq, hsome⟩ := hwrites
      cases heq
      rw [hwritten] at hsome
      cases hsome
  · obtain ⟨world, world', hworld, hset, hafter⟩ := applyInput_written clientFrame hwritten
    have hwaiting : waiting G (trace ++ [(room, .input sessionId clientFrame inputMask)]) =
        Function.update (waiting G trace) actorId (waiting G trace actorId ++ [inputMask]) := by
      rw [waiting_snoc]
      simp only [waitingAfter, hwritten]
    refine ⟨fun x hx session frame mask other hwrites => ?_, fun other mask hmask => ?_⟩
    · rw [hwaiting, Function.update_apply]
      rcases List.mem_append.1 hx with hx | hx
      · rcases h.accounted x hx session frame mask other hwrites with ⟨y, hy, hsimulates⟩ | hmask
        · exact Or.inl ⟨y, List.mem_append_left _ hy, hsimulates⟩
        · right
          split_ifs with heq
          · exact List.mem_append_left _ (heq ▸ hmask)
          · exact hmask
      · rw [List.mem_singleton.1 hx] at hwrites
        obtain ⟨heq, hsome⟩ := hwrites
        cases heq
        obtain rfl := Option.some.inj (hwritten.symm.trans hsome)
        rw [if_pos rfl]
        exact Or.inr (List.mem_append_right _ List.mem_cons_self)
    · rw [hwaiting, Function.update_apply] at hmask
      refine ⟨world', hafter, ?_⟩
      split_ifs at hmask with heq
      · subst heq
        -- whatever waits for this actor is the mask that it gets now
        have hmask : mask = inputMask := by
          rcases List.mem_append.1 hmask with hmask | hmask
          · exact hok other hwritten mask hmask
          · exact List.mem_singleton.1 hmask
        rw [hmask]
        exact hkeys.written _ _ _ _ hset
      · obtain ⟨w, hw, hkey⟩ := h.pressed other mask hmask
        obtain rfl := Option.some.inj (hworld.symm.trans hw)
        rw [hkeys.others _ _ _ _ _ hset heq]
        exact hkey

theorem Tracked.tick (h : Tracked G keyDown trace room) (dt : Float32) :
    Tracked G keyDown (trace ++ [(room, .tick dt)]) (room.tick G dt) := by
  rcases hupdates : room.updates with _ | _
  · have hsame : room.tick G dt = room := by
      unfold BattleRoom.tick
      split
      · rfl
      · rename_i world hworld
        rw [if_pos (by simpa [BattleRoom.updates, hworld] using hupdates)]
    rw [hsame]
    refine h.other (fun waiting => ?_) nofun rfl
    simp only [waitingAfter, hupdates, Bool.false_eq_true, if_false]
  · obtain ⟨hworld, hempty⟩ : room.world.isSome = true ∧ room.isEmpty = false := by
      simpa [BattleRoom.updates] using hupdates
    have hwaiting : waiting G (trace ++ [(room, .tick dt)]) = fun _ => [] := by
      rw [waiting_snoc]
      simp only [waitingAfter, hupdates, if_true]
    refine ⟨fun x hx sessionId clientFrame mask actorId hwrites => Or.inl ?_, fun actorId mask hmask => ?_⟩
    · rcases List.mem_append.1 hx with hx | hx
      · rcases h.accounted x hx sessionId clientFrame mask actorId hwrites with ⟨y, hy, hsimulates⟩ | hmask
        · exact ⟨y, List.mem_append_left _ hy, hsimulates⟩
        · -- this update sees what waits
          obtain ⟨world, hw, hkey⟩ := h.pressed actorId mask hmask
          exact ⟨_, List.mem_append_right _ List.mem_cons_self, dt, world, rfl, hempty, hw, hkey⟩
      · rw [List.mem_singleton.1 hx] at hwrites
        cases hwrites.1
    · rw [hwaiting] at hmask
      cases hmask

/-! ### Runs -/

theorem Tracked.step (hkeys : G.Keys keyDown) (h : Tracked G keyDown trace room) {e : RoomEvent}
    {room' : BattleRoom World} (hok : Timely G trace (room, e)) (hstep : room.Step G e room') :
    Tracked G keyDown (trace ++ [(room, e)]) room' := by
  obtain rfl := hstep
  cases e with
  | input sessionId clientFrame inputMask => exact h.input hkeys hok
  | tick fixedDt => exact h.tick fixedDt
  | removePlayer sessionId => exact h.other (fun _ => rfl) nofun rfl

/-! ### The rooms of a server -/

namespace BattleRoomManager

variable {m : BattleRoomManager World} {b : UInt32}

theorem addPlayerToRoom_others {battleId : UInt32} (spec : BattlePlayerSpec) (hb : b ≠ battleId) :
    (m.addPlayerToRoom G battleId spec).1.findRoom b = m.findRoom b := by
  have hadded := addPlayerToRoom_added G m battleId spec
  generalize m.addPlayerToRoom G battleId spec = r at hadded ⊢
  cases hadded with
  | elsewhere _ => rfl
  | refused _ _ => rfl
  | failed _ _ _ => exact Table.get_insert_ne _ _ hb
  | seated _ _ _ _ => exact Table.get_insert_ne _ _ hb

theorem removePlayer_room (hconsistent : m.Consistent) {room : BattleRoom World} (hroom : m.findRoom b = some room)
    (sessionId : UInt32) : (m.removePlayer sessionId).findRoom b = none ∨
      (m.removePlayer sessionId).findRoom b =
        some (if m.sessionToRoom.get sessionId = some b then room.removePlayer sessionId else room) := by
  unfold removePlayer
  rcases hmap : m.sessionToRoom.get sessionId with _ | battleId
  · exact Or.inr hroom
  · obtain ⟨left, hleft, -⟩ := (hconsistent.mapped sessionId battleId).1 hmap
    have hid : (left.removePlayer sessionId).battleId = battleId := hconsistent.filed battleId left hleft
    have hfind : findRoom { m with sessionToRoom := m.sessionToRoom.remove sessionId } battleId = some left := hleft
    dsimp only
    rw [hfind]
    dsimp only
    rw [hid]
    by_cases hb : b = battleId
    · subst hb
      obtain rfl := Option.some.inj (hroom.symm.trans hleft)
      rw [if_pos rfl]
      split_ifs
      · exact Or.inl (Table.get_remove_self ..)
      · exact Or.inr (Table.get_insert_self ..)
    · right
      rw [if_neg fun h => hb (Option.some.inj h).symm]
      split_ifs
      · exact (Table.get_remove_ne _ hb).trans ((Table.get_insert_ne _ _ hb).trans hroom)
      · exact (Table.get_insert_ne _ _ hb).trans hroom

end BattleRoomManager

namespace BattleServer

open BattleRoomManager

variable (parser : Parser) (s : BattleServer World) (b : UInt32)

/-- What an event is to the room of a battle. -/
def roomEvent : Event → Option RoomEvent
  | .serverRequest _ => none
  | .clientPush sessionId frame =>
      if frame.msgId = BattleInputPush.id then
        match parser.battleInputPush frame.payload, s.roomManager.findRoomBySession sessionId with
        | some input, some (battleId, room) =>
            if battleId = b ∧ room.battleId = input.battleId then
              some (.input sessionId input.clientFrame input.inputMask)
            else none
        | _, _ => none
      else none
  | .sessionOffline sessionId =>
      if s.roomManager.sessionToRoom.get sessionId = some b then some (.removePlayer sessionId) else none
  | .tick dt => some (.tick dt)

/-- The events of a battle's room go on from step to step, and begin anew when there was no room. -/
def roomTraceAfter (events : RoomTrace World) (x : BattleServer World × Event) : RoomTrace World :=
  match x.1.roomManager.findRoom b with
  | none => []
  | some room => events ++ ((x.1.roomEvent parser b x.2).map fun e => (room, e)).toList

/-- What has happened to the room of a battle since it was created. -/
def roomTrace (trace : List (BattleServer World × Event)) : RoomTrace World :=
  trace.foldl (roomTraceAfter parser b) []

/-- The step does nothing untimely to any room. -/
def Timely (G : Mugen World) (trace : List (BattleServer World × Event)) (x : BattleServer World × Event) : Prop :=
  ∀ b room e, x.1.roomManager.findRoom b = some room → x.1.roomEvent parser b x.2 = some e →
    Battle.Timely G (roomTrace parser b trace) (room, e)

variable {parser s b}

theorem onBattleCreate_room {room : BattleRoom World} (hroom : s.roomManager.findRoom b = some room)
    (frame : BackendFrame) : (s.onBattleCreate G parser frame).1.roomManager.findRoom b = some room := by
  unfold onBattleCreate
  split
  · exact hroom
  · rename_i req _
    split
    · exact hroom
    · rename_i hnone
      dsimp only
      split
      · exact hroom
      · rename_i manager battleId hcreate
        obtain ⟨rfl, new, -, hmanager⟩ := createRoom_new hnone hcreate
        have hb : b ≠ req.battleId := by
          rintro rfl
          rw [hnone] at hroom
          cases hroom
        have hseat : ∀ (players : List BattlePlayerSpec) (seated : Seated World),
            seated.manager.findRoom b = some room →
              (players.foldl (seatPlayer G req.battleId frame.sessionId) seated).manager.findRoom b = some room := by
          intro players
          induction players with
          | nil => exact fun _ h => h
          | cons player players ih =>
              intro seated h
              refine ih _ ?_
              rw [seatPlayer_manager, addPlayerToRoom_others player hb]
              exact h
        rw [answerSeated_manager]
        refine hseat _ _ ?_
        rw [hmanager]
        exact (Table.get_insert_ne _ _ hb).trans hroom

theorem onBattleInput_room {room : BattleRoom World} (hroom : s.roomManager.findRoom b = some room)
    (sessionId : UInt32) (frame : BackendFrame) (hframe : frame.msgId = BattleInputPush.id) :
    (s.onBattleInput G parser sessionId frame).roomManager.findRoom b =
      some (((s.roomEvent parser b (.clientPush sessionId frame)).map (room.handle G)).getD room) := by
  simp only [onBattleInput, roomEvent, hframe, if_true]
  rcases parser.battleInputPush frame.payload with _ | input
  · exact hroom
  · rcases hfind : s.roomManager.findRoomBySession sessionId with _ | ⟨battleId, found⟩
    · exact hroom
    · simp only [findRoomBySession, Option.bind_eq_bind, Option.bind_eq_some_iff] at hfind
      obtain ⟨b', -, room', hroom', heq⟩ := hfind
      cases heq
      dsimp only
      by_cases hid : found.battleId = input.battleId
      · by_cases hb : battleId = b
        · subst hb
          obtain rfl := Option.some.inj (hroom.symm.trans hroom')
          rw [if_neg (not_not.2 hid), if_pos ⟨rfl, hid⟩]
          exact Table.get_insert_self ..
        · rw [if_neg (not_not.2 hid), if_neg fun h => hb h.1]
          exact (Table.get_insert_ne _ _ (Ne.symm hb)).trans hroom
      · rw [if_pos hid, if_neg fun h => hid h.2]
        exact hroom

/-- A room that is there handles its event, or goes away. -/
theorem handle_room (G : Mugen World) (parser : Parser) (hconsistent : s.roomManager.Consistent) {room : BattleRoom World}
    (hroom : s.roomManager.findRoom b = some room) (e : Event) :
    (s.handle G parser e).1.roomManager.findRoom b = none ∨
      (s.handle G parser e).1.roomManager.findRoom b =
        some (((s.roomEvent parser b e).map (room.handle G)).getD room) := by
  cases e with
  | serverRequest frame =>
      right
      simp only [handle]
      split_ifs
      · exact onBattleCreate_room hroom frame
      · exact hroom
  | clientPush sessionId frame =>
      right
      simp only [handle]
      split_ifs with hframe
      · exact onBattleInput_room hroom sessionId frame hframe
      · simp only [roomEvent, if_neg hframe]
        exact hroom
  | sessionOffline sessionId =>
      refine (removePlayer_room hconsistent hroom sessionId).imp_right fun h => h.trans ?_
      simp only [roomEvent]
      split_ifs <;> rfl
  | tick dt =>
      right
      show (s.roomManager.tickAll G dt).findRoom b = some (room.tick G dt)
      rw [findRoom, BattleRoomManager.tickAll, Table.get_mapValues, show s.roomManager.rooms.get b = some room from hroom]
      rfl

/-! ### Runs -/

/-- In every step the inputs are timely. -/
def Prompt (G : Mugen World) (parser : Parser) (trace : List (BattleServer World × Event)) : Prop :=
  ∀ l x l', trace = l ++ x :: l' → Timely parser G l x

variable {s' : BattleServer World} {trace : List (BattleServer World × Event)}

theorem Prompt.init {x : BattleServer World × Event} (h : Prompt G parser (trace ++ [x])) : Prompt G parser trace := by
  rintro l y l' rfl
  exact h l y (l' ++ [x]) (by simp)

theorem Prompt.nil : Prompt G parser [] := fun l _ _ h => by simp at h

theorem Prompt.snoc {x : BattleServer World × Event} (h : Prompt G parser trace) (hx : Timely parser G trace x) :
    Prompt G parser (trace ++ [x]) := by
  intro l y l' heq
  rcases List.eq_nil_or_concat l' with rfl | ⟨l', last, rfl⟩
  · obtain ⟨rfl, hlast⟩ := List.append_inj' heq rfl
    rwa [← (List.cons.inj hlast).1]
  · rw [List.concat_eq_append, ← List.cons_append, ← List.append_assoc] at heq
    exact h l y l' (List.append_inj' heq rfl).1

theorem timely_of_nil {x : BattleServer World × Event} (h : ∀ b, roomTrace parser b trace = []) :
    Timely parser G trace x := by
  intro b room e _ _
  rw [h b]
  cases e with
  | input _ _ _ => exact fun _ _ _ hmask => nomatch hmask
  | tick _ => trivial
  | removePlayer _ => trivial

theorem timely_of_request (frame : BackendFrame) : Timely parser G trace (s, .serverRequest frame) := by
  intro b room e _ heq
  cases heq

theorem timely_of_tick (dt : Float32) : Timely parser G trace (s, .tick dt) := by
  intro b room e _ heq
  cases heq
  trivial

theorem roomTrace_snoc (x : BattleServer World × Event) :
    roomTrace parser b (trace ++ [x]) = roomTraceAfter parser b (roomTrace parser b trace) x := by
  rw [roomTrace, List.foldl_append]
  rfl

theorem roomTrace_of_none (e : Event) (hnone : s.roomManager.findRoom b = none) :
    roomTrace parser b (trace ++ [(s, e)]) = [] := by
  rw [roomTrace_snoc, roomTraceAfter, hnone]

theorem roomTrace_of_some (e : Event) {room : BattleRoom World} (hroom : s.roomManager.findRoom b = some room) :
    roomTrace parser b (trace ++ [(s, e)]) =
      roomTrace parser b trace ++ ((s.roomEvent parser b e).map fun e => (room, e)).toList := by
  rw [roomTrace_snoc, roomTraceAfter, hroom]

theorem Tracked.step_server (hkeys : G.Keys keyDown) {room room' : BattleRoom World} {e : Event}
    (hconsistent : s.roomManager.Consistent) (hroom : s.roomManager.findRoom b = some room)
    (h : Tracked G keyDown (roomTrace parser b trace) room) (hok : Timely parser G trace (s, e))
    (hroom' : (s.handle G parser e).1.roomManager.findRoom b = some room') :
    Tracked G keyDown (roomTrace parser b (trace ++ [(s, e)])) room' := by
  rw [roomTrace_of_some e hroom]
  rcases handle_room G parser hconsistent hroom e with hgone | hafter
  · rw [hgone] at hroom'
    cases hroom'
  · obtain rfl := Option.some.inj (hroom'.symm.trans hafter)
    rcases hevent : s.roomEvent parser b e with _ | event
    · rw [Option.map_none, Option.toList_none, List.append_nil]
      exact h
    · exact h.step hkeys (hok b room event hroom hevent) rfl

/-- The rooms of a server whose inputs come in time are tracked. -/
theorem tracked_of_run (hkeys : G.Keys keyDown) {config : BattleServerConfig}
    (hrun : Run (Step G parser) (init config) trace s) (hok : Prompt G parser trace) {room : BattleRoom World}
    (hroom : s.roomManager.findRoom b = some room) : Tracked G keyDown (roomTrace parser b trace) room := by
  induction hrun generalizing room with
  | start => cases hroom
  | @next trace s s' e hrun hstep ih =>
      obtain rfl := hstep
      rcases hbefore : s.roomManager.findRoom b with _ | before
      · rw [roomTrace_of_none e hbefore]
        exact ⟨nofun, nofun⟩
      · exact Tracked.step_server hkeys (consistent_of_run hrun) hbefore (ih hok.init hbefore)
          (hok trace (s, e) [] rfl) hroom

theorem mem_sendSnapshot {room : BattleRoom World} {sessionId : UInt32} {push : BattleSnapshotPush}
    (h : .snapshot sessionId push ∈ sendSnapshot G room) : room.isEmpty = false ∧ push.battleId = room.battleId := by
  unfold sendSnapshot at h
  split_ifs at h with hempty
  · cases h
  · obtain ⟨⟨session, slot⟩, -, heq⟩ := List.mem_map.1 h
    cases heq
    exact ⟨Bool.eq_false_of_not_eq_true hempty, rfl⟩

theorem snapshot_created (hconsistent : s.roomManager.Consistent) {frame : BackendFrame} {sessionId : UInt32}
    {push : BattleSnapshotPush} (hpush : .snapshot sessionId push ∈ (s.onBattleCreate G parser frame).2.2) :
    s.roomManager.findRoom push.battleId = none := by
  have hafter : (s.onBattleCreate G parser frame).1.roomManager.Consistent :=
    onBattleCreate_keeps (fun _ config h => h.createRoom config) (fun _ battleId spec h => h.addPlayerToRoom battleId spec)
      hconsistent frame
  unfold onBattleCreate at hpush hafter
  split at hpush
  · cases hpush
  · rename_i req hparse
    split at hpush
    · cases hpush
    · rename_i hnone
      rw [hparse] at hafter
      dsimp only at hpush hafter
      rw [hnone] at hafter
      dsimp only at hafter
      split at hpush
      · cases hpush
      · rename_i manager battleId hcreate
        rw [hcreate] at hafter
        obtain ⟨rfl, -⟩ := createRoom_new hnone hcreate
        simp only [answerSeated_manager] at hafter
        unfold answerSeated at hpush
        dsimp only at hpush
        split_ifs at hpush
        · cases hpush
        · split at hpush
          · cases hpush
          · rename_i room hroom
            obtain ⟨-, hid⟩ := mem_sendSnapshot hpush
            rw [hid, hafter.filed _ room hroom]
            exact hnone

/-- A snapshot goes out right after an update of the room, or when the room is new. -/
theorem snapshot_ticked (hconsistent : s.roomManager.Consistent) {e : Event} {sessionId : UInt32}
    {push : BattleSnapshotPush} (hpush : .snapshot sessionId push ∈ (s.handle G parser e).2) :
    s.roomManager.findRoom push.battleId = none ∨ ∃ dt room, e = .tick dt ∧ room.isEmpty = false ∧
      s.roomManager.findRoom push.battleId = some room := by
  cases e with
  | serverRequest frame =>
      left
      simp only [handle] at hpush
      split_ifs at hpush
      · rcases List.mem_append.1 hpush with hpush | hpush
        · exact snapshot_created hconsistent hpush
        · cases List.mem_singleton.1 hpush
      · cases hpush
  | clientPush _ frame =>
      simp only [handle] at hpush
      split_ifs at hpush <;> cases hpush
  | sessionOffline _ => cases List.mem_singleton.1 hpush
  | tick dt =>
      right
      rcases List.mem_append.1 hpush with hpush | hpush
      · split_ifs at hpush
        · cases List.mem_singleton.1 hpush
        · cases hpush
      · obtain ⟨room', hvalue, hpush⟩ := List.mem_flatMap.1 hpush
        obtain ⟨b, hroom'⟩ := (Table.mem_values _ _).1 hvalue
        have hfind : (s.roomManager.tickAll G dt).findRoom b = some room' := hroom'
        have hid := (hconsistent.tickAll (G := G) dt).filed b room' hfind
        simp only [BattleRoomManager.tickAll, findRoom, Table.get_mapValues, Option.map_eq_some_iff] at hfind
        obtain ⟨room, hroom, rfl⟩ := hfind
        simp only [List.mem_ite_nil_left] at hpush
        obtain ⟨hempty, hbattle⟩ := mem_sendSnapshot hpush.2.2
        rw [BattleRoom.isEmpty_tick] at hempty
        rw [hbattle, hid]
        exact ⟨dt, room, rfl, hempty, hroom⟩

/-- In a run of the battle server in which no input takes the place of a different one that waits for an
update of its room, whatever a snapshot confirms was its actor's keys at an update of the room before. -/
theorem simulated_of_run (hkeys : G.Keys keyDown) (config : BattleServerConfig)
    (hrun : Run (Step G parser) (init config) trace s) (hok : Prompt G parser trace) (before x after)
    (htrace : trace = before ++ x :: after) (sessionId push)
    (hpush : .snapshot sessionId push ∈ (x.1.handle G parser x.2).2) :
    let events := roomTrace parser push.battleId (before ++ [x])
    ∀ y ∈ events, ∀ clientFrame mask actorId, Writes G y sessionId clientFrame mask actorId →
      clientFrame ≤ push.lastProcessedClientFrame → ∃ z ∈ events, Simulates keyDown z actorId mask := by
  intro events y hy clientFrame mask actorId hwrites hconfirmed
  obtain ⟨s, e⟩ := x
  obtain ⟨hbefore, -⟩ := hrun.split htrace
  have hok : Prompt G parser before := by
    rintro l x l' rfl
    exact hok l x (l' ++ (s, e) :: after) (by rw [htrace]; simp)
  rcases snapshot_ticked (consistent_of_run hbefore) hpush with hnone | ⟨dt, room, rfl, hempty, hroom⟩
  · have hnew : events = [] := roomTrace_of_none e hnone
    rw [hnew] at hy
    cases hy
  · have hevents : events = roomTrace parser push.battleId before ++ [(room, .tick dt)] := roomTrace_of_some _ hroom
    have htracked := tracked_of_run hkeys hbefore hok hroom
    rw [hevents] at hy ⊢
    rcases List.mem_append.1 hy with hy | hy
    · rcases htracked.accounted y hy _ _ _ _ hwrites with ⟨z, hz, hsimulates⟩ | hmask
      · exact ⟨z, List.mem_append_left _ hz, hsimulates⟩
      · -- the update before the snapshot sees what waits
        obtain ⟨world, hworld, hkey⟩ := htracked.pressed actorId mask hmask
        exact ⟨_, List.mem_append_right _ List.mem_cons_self, dt, world, rfl, hempty, hworld, hkey⟩
    · rw [List.mem_singleton.1 hy] at hwrites
      cases hwrites.1

/-- A simulation whose world is the keys of its actors. -/
def pressing : Mugen (Table UInt32 UInt32) where
  invalidEntityId := 0
  init _ := some ∅
  loadMap world _ := some world
  resolvePlayableRoleId classId := classId
  hasRoleConfig _ := true
  gameMap _ := none
  spawnRolePlayerActor world _ _ _ :=
    (world.insert (UInt32.ofNat world.size + 1) 0, some (UInt32.ofNat world.size + 1))
  setKeyDown world actorId mask := if world.contains actorId then some (world.insert actorId mask) else none
  update world _ := world
  serialize _ := []

theorem pressing_keys : pressing.Keys fun world actorId => world.get actorId := by
  refine ⟨fun world actorId mask world' h => ?_, fun world actorId mask world' other h hne => ?_⟩ <;>
    simp only [pressing] at h <;> split_ifs at h <;> obtain rfl := Option.some.inj h
  · exact Table.get_insert_self ..
  · exact Table.get_insert_ne _ _ hne

/-- Every push is an input whose frame and keys are the first byte of its payload. -/
def inputParser : Parser where
  battleCreateReq := duelParser.battleCreateReq
  battleInputPush payload := payload.head?.map fun byte =>
    { battleId := 1, clientFrame := byte.toUInt32, inputMask := byte.toUInt32 }

def inputFrame (byte : UInt8) : BackendFrame where
  cmd := 100
  msgId := BattleInputPush.id
  serial := 0
  sessionId := 1
  payload := [byte]

/-- A server that sends a snapshot after every update, once these events are handled. -/
def serverAfter (es : List Event) : BattleServer (Table UInt32 UInt32) :=
  es.foldl (fun s e => (s.handle pressing inputParser e).1) (init { snapshotIntervalFrames := 1 })

/-- With an interval of one frame every update is followed by a snapshot. -/
theorem snapshot_of_tick (G : Mugen World) (sessionId : UInt32) {room : BattleRoom World} {slot : PlayerSlot}
    (hinterval : s.config.snapshotIntervalFrames = 1) (hroom : s.roomManager.findRoom b = some room)
    (hid : room.battleId = b) (hslot : room.players.get sessionId = some slot) (dt : Float32) :
    ∃ push, .snapshot sessionId push ∈ (s.tick G dt).2 ∧ push.battleId = b ∧
      push.lastProcessedClientFrame = slot.lastClientFrame := by
  have hplayers : (room.tick G dt).players = room.players := (BattleRoom.tick_frame dt).2
  have hempty : (room.tick G dt).isEmpty = false := by
    rw [BattleRoom.isEmpty_tick]
    exact BattleRoom.isEmpty_eq_false_iff.2 ⟨sessionId, BattleRoom.hasPlayer_iff.2 ⟨slot, hslot⟩⟩
  have hsent : ∃ push, .snapshot sessionId push ∈ sendSnapshot G (room.tick G dt) ∧ push.battleId = b ∧
      push.lastProcessedClientFrame = slot.lastClientFrame := by
    rw [sendSnapshot, if_neg (by simp [hempty])]
    refine ⟨_, List.mem_map.2 ⟨(sessionId, slot), (Table.mem_toList ..).2 (hplayers ▸ hslot), rfl⟩, ?_, rfl⟩
    rw [BattleRoom.battleId, (BattleRoom.tick_frame dt).1]
    exact hid
  obtain ⟨push, hmem, hpush⟩ := hsent
  refine ⟨push, List.mem_append_right _ (List.mem_flatMap.2 ⟨room.tick G dt, (Table.mem_values _ _).2 ⟨b, ?_⟩, ?_⟩), hpush⟩
  · show (s.roomManager.rooms.mapValues fun room => room.tick G dt).get b = some (room.tick G dt)
    rw [Table.get_mapValues, show s.roomManager.rooms.get b = some room from hroom]
    rfl
  · have hdue : (room.tick G dt).serverFrame % Int32.toUInt32 1 = 0 :=
      UInt32.toNat_inj.1 ((UInt32.toNat_mod _ _).trans (Nat.mod_one _))
    simp [hempty, hinterval, hmem, hdue]

/-- A session presses a key, the world is updated, and a snapshot confirms the key. -/
theorem simulated_of_run_key : ∃ trace s, Run (Step pressing inputParser) (init { snapshotIntervalFrames := 1 }) trace s ∧
    ∃ z ∈ roomTrace inputParser 1 trace, Simulates (fun world actorId => world.get actorId) z 1 1 := by
  have hrun : Run (Step pressing inputParser) (init { snapshotIntervalFrames := 1 }) _ _ :=
    ((Run.start.next (a := .serverRequest (requestFrame [1])) rfl).next (a := .clientPush 1 (inputFrame 1)) rfl).next
      (a := .tick 1) rfl
  obtain ⟨push, hpush, hbattle, hframe⟩ := snapshot_of_tick pressing 1
    (s := serverAfter [.serverRequest (requestFrame [1]), .clientPush 1 (inputFrame 1)]) rfl (b := 1) rfl rfl rfl 1
  refine ⟨_, _, hrun, ?_⟩
  have h := simulated_of_run pressing_keys _ hrun
    (((Prompt.nil.snoc (timely_of_request _)).snoc (timely_of_nil fun _ => roomTrace_of_none _ rfl)).snoc
      (timely_of_tick 1)) [_, _] _ [] rfl 1 push hpush
  rw [hbattle] at h
  exact h _ List.mem_cons_self 1 1 1 ⟨rfl, rfl⟩ (by rw [hframe]; decide)

/-- Two inputs come between two updates: the first is confirmed and has not been simulated. -/
theorem input_lost : ∃ trace s, Run (Step pressing inputParser) (init { snapshotIntervalFrames := 1 }) trace s ∧
    trace.map Prod.snd = [.serverRequest (requestFrame [1]), .clientPush 1 (inputFrame 1),
      .clientPush 1 (inputFrame 2), .tick 1] ∧
    ∃ before x push, trace = before ++ [x] ∧ .snapshot 1 push ∈ (x.1.handle pressing inputParser x.2).2 ∧
      ∃ y ∈ roomTrace inputParser push.battleId trace, Writes pressing y 1 1 1 1 ∧
        1 ≤ push.lastProcessedClientFrame ∧
        ∀ z ∈ roomTrace inputParser push.battleId trace,
          ¬ Simulates (fun world actorId => world.get actorId) z 1 1 := by
  have hrun : Run (Step pressing inputParser) (init { snapshotIntervalFrames := 1 }) _ _ :=
    (((Run.start.next (a := .serverRequest (requestFrame [1])) rfl).next (a := .clientPush 1 (inputFrame 1)) rfl).next
      (a := .clientPush 1 (inputFrame 2)) rfl).next (a := .tick 1) rfl
  obtain ⟨push, hpush, hbattle, hframe⟩ := snapshot_of_tick pressing 1
    (s := serverAfter [.serverRequest (requestFrame [1]), .clientPush 1 (inputFrame 1), .clientPush 1 (inputFrame 2)])
    rfl (b := 1) rfl rfl rfl 1
  refine ⟨_, _, hrun, rfl, _, _, push, rfl, hpush, ?_⟩
  rw [hbattle, hframe]
  refine ⟨_, List.mem_cons_self, ⟨rfl, rfl⟩, by decide, ?_⟩
  rintro z hz ⟨dt, world, htick, -, hworld, hkey⟩
  change z ∈ [(_, RoomEvent.input 1 1 1), (_, RoomEvent.input 1 2 2), (_, RoomEvent.tick 1)] at hz
  simp only [List.mem_cons, List.not_mem_nil, or_false] at hz
  rcases hz with rfl | rfl | rfl
  · cases htick
  · cases htick
  · -- the second input has taken the place of the first
    obtain rfl := Option.some.inj hworld
    revert hkey
    decide

end BattleServer
end AxmolFighter.Battle
