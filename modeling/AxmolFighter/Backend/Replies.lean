import AxmolFighter.Backend.Rpc
import AxmolFighter.Lib.Run
import Mathlib.Logic.Relation

/-!
# Requests and their replies

A request of a client goes through the mailbox of its session to the session's task, one of another server
through a queue to the dispatcher; each has a reply as its end. A client's request that cannot be read has
none, and neither has one whose handler returns a message without an encoding, or outlives the connection.

Frames are numbered as they arrive. The numbers are not in the code; they tell which request a reply is to.
The handlers of the delegate return what they like.
-/

namespace AxmolFighter.Backend.Replies

/-- `CLIENT_MAILBOX_SIZE`. -/
def clientMailboxSize : Nat := 256

/-- Where a frame comes from and its reply goes. -/
inductive Address
  | client (sessionId : UInt32)
  | server (source : ServerSource)
deriving DecidableEq

/-- An error stands for `common_error_response` of it. -/
structure Reply where
  address : Address
  serial : Int32
  message : Except String Message
  request : Nat

/-- A frame with its number. -/
structure Numbered where
  number : Nat
  address : Address
  frame : BackendFrame
deriving DecidableEq

/-- The task of a session; it is busy while the delegate handles a frame. -/
structure SessionTask where
  sessionId : UInt32
  started : Bool := false
  mailbox : List Numbered := []
  busy : Option Numbered := none
  cancelled : Bool := false
  finished : Bool := false

/-- `connected`: frames can be sent. `arrived` has the frames for sessions that were online and those of
other servers, `late` the numbers of frames that were taken from their queues without a connection. -/
structure State where
  connected : Bool := false
  sessions : Table UInt32 Nat := ∅
  tasks : List SessionTask := []
  serverDispatch : List Numbered := []
  dispatching : Option Numbered := none
  sent : List Reply := []
  arrived : List (Address × BackendFrame) := []
  late : List Nat := []

/-- What a handler returns; `none` is `MessageType::None`, which has no encoding. -/
abbrev HandlerResult := Except String (Option Message)

inductive Event
  | connected
  | closed
  | disconnected
  | sessionOnline (sessionId : UInt32)
  | sessionOffline (sessionId : UInt32)
  | stopAllSessions
  | clientFrame (frame : BackendFrame)
  | serverFrame (source : ServerSource) (inner : BackendFrame)
  | started (k : Nat)
  | receive (k : Nat)
  | handled (k : Nat) (result : HandlerResult)
  | finished (k : Nat)
  | dispatch
  | dispatched (result : HandlerResult)

variable (m : MessageMap)

namespace State

variable (b : State)

/-- `send_msg` and `send_server_msg`: nothing is sent without a connection or an encoding. -/
def reply (request : Numbered) : HandlerResult → State
  | .ok none => b
  | .ok (some msg) =>
      if b.connected then
        { b with sent := b.sent ++ [⟨request.address, -request.frame.serial, .ok msg, request.number⟩] }
      else b
  | .error err =>
      if b.connected then
        { b with sent := b.sent ++ [⟨request.address, -request.frame.serial, .error err, request.number⟩] }
      else b

/-- Takes down that a frame has been taken from its queue. -/
def take (request : Numbered) : State :=
  if b.connected then b else { b with late := b.late ++ [request.number] }

def arrive (address : Address) (frame : BackendFrame) : Numbered × State :=
  (⟨b.arrived.length, address, frame⟩, { b with arrived := b.arrived ++ [(address, frame)] })

def setTask (k : Nat) (t : SessionTask) : State := { b with tasks := b.tasks.set k t }

def stopSession (sessionId : UInt32) : State :=
  match b.sessions.get sessionId with
  | none => b
  | some k =>
      { b with
        sessions := b.sessions.remove sessionId
        tasks := b.tasks.modify k fun t => { t with cancelled := true } }

def spawnSession (sessionId : UInt32) : State :=
  let b := b.stopSession sessionId
  { b with
    sessions := b.sessions.insert sessionId b.tasks.length
    tasks := b.tasks ++ [{ sessionId }] }

def stopAllSessions : State := (b.sessions.toList.map Prod.fst).foldl stopSession b

/-- A frame whose serial is not positive, for a session that is online. -/
def dispatchBusinessFrame (frame : BackendFrame) : State :=
  match b.sessions.get frame.sessionId with
  | none => b
  | some k =>
      match b.tasks[k]? with
      | none => b
      | some t =>
          let (request, b) := b.arrive (.client frame.sessionId) frame
          if t.finished then b
          else if t.mailbox.length < clientMailboxSize then
            b.setTask k { t with mailbox := t.mailbox ++ [request] }
          else if frame.serial ≠ 0 then b.reply request (.error "mailbox full")
          else b

/-- `process_client_frame` up to the delegate. -/
def processClientFrame (k : Nat) (t : SessionTask) (request : Numbered) : State :=
  match m.decode request.frame.msgId request.frame.payload with
  | .ok _ => b.setTask k { t with busy := some request }
  | .error _ => b.setTask k t

/-- `process_server_message` up to the delegate. -/
def processServerMessage (request : Numbered) : State :=
  match m.decode request.frame.msgId request.frame.payload with
  | .ok _ => { b with dispatching := some request }
  | .error err =>
      if request.frame.serial ≠ 0 then b.reply request (.error s!"decode server message failed: {err}")
      else b

/-- What the delegate has made of a frame. -/
def finish (request : Numbered) (result : HandlerResult) : State :=
  if request.frame.serial = 0 then b else b.reply request result

/-- An event, where it can happen. Frames come over a connection; a task looks for its cancel first. -/
def next : Event → Option State
  | .connected => some { b with connected := true }
  | .closed => some { b with connected := false }
  | .disconnected => some { b.stopAllSessions with connected := false }
  | .sessionOnline sessionId => if b.connected then some (b.spawnSession sessionId) else none
  | .sessionOffline sessionId => if b.connected then some (b.stopSession sessionId) else none
  | .stopAllSessions => some b.stopAllSessions
  | .clientFrame frame =>
      if b.connected ∧ frame.serial ≤ 0 then some (b.dispatchBusinessFrame frame) else none
  | .serverFrame source inner =>
      if b.connected ∧ inner.serial ≤ 0 then
        let (request, b) := b.arrive (.server source) inner
        some { b with serverDispatch := b.serverDispatch ++ [request] }
      else none
  | .started k => do
      let t ← b.tasks[k]?
      if t.started then none else some (b.setTask k { t with started := true })
  | .receive k => do
      let t ← b.tasks[k]?
      if !t.started ∨ t.busy.isSome ∨ t.cancelled ∨ t.finished then none
      else
        match t.mailbox with
        | [] => none
        | request :: rest => some ((b.take request).processClientFrame m k { t with mailbox := rest } request)
  | .handled k result => do
      let t ← b.tasks[k]?
      let request ← t.busy
      some ((b.setTask k { t with busy := none }).finish request result)
  | .finished k => do
      let t ← b.tasks[k]?
      if t.started ∧ t.busy = none ∧ t.cancelled then some (b.setTask k { t with finished := true })
      else none
  | .dispatch =>
      match b.dispatching, b.serverDispatch with
      | none, request :: rest =>
          some ({ b.take request with serverDispatch := rest }.processServerMessage m request)
      | _, _ => none
  | .dispatched result => do
      let request ← b.dispatching
      some ({ b with dispatching := none }.finish request result)

end State

def Step (b : State) (e : Event) (b' : State) : Prop := b.next m e = some b'

/-! ### What is said of a run -/

/-- The serials that the replies' signs work for. -/
def IsRequest (frame : BackendFrame) : Prop := frame.serial < 0 ∧ frame.serial ≠ Int32.minValue

instance (frame : BackendFrame) : Decidable (IsRequest frame) := inferInstanceAs (Decidable (_ ∧ _))

/-- What is in the queues and with the delegate. -/
def SessionTask.held (t : SessionTask) : List Numbered := t.busy.toList ++ t.mailbox

def State.held (b : State) : List Numbered :=
  b.tasks.flatMap SessionTask.held ++ (b.serverDispatch ++ b.dispatching.toList)

/-- The request is in a queue or with the delegate. -/
def State.Waits (b : State) (n : Nat) : Prop := n ∈ b.held.map Numbered.number

def State.replies (b : State) (n : Nat) : List Reply := b.sent.filter fun reply => reply.request = n

/-- One reply with the negated serial has gone where the request came from. -/
def State.RepliedOnce (b : State) (n : Nat) (address : Address) (frame : BackendFrame) : Prop :=
  ∃ reply, b.replies n = [reply] ∧ reply.address = address ∧ reply.serial = -frame.serial

/-- A client's request that is taken from a mailbox can be read; and when the delegate has handled a request
that was taken over the connection, the connection is there, and what the delegate returns has an encoding. -/
def CanReply (b : State) : Event → Prop
  | .receive k => ∀ t request rest, b.tasks[k]? = some t → t.mailbox = request :: rest →
      b.connected = true → IsRequest request.frame →
        ∃ msg, m.decode request.frame.msgId request.frame.payload = .ok msg
  | .handled k result => ∀ t request, b.tasks[k]? = some t → t.busy = some request →
      IsRequest request.frame → request.number ∉ b.late → b.connected = true ∧ result ≠ .ok none
  | .dispatched result => ∀ request, b.dispatching = some request →
      IsRequest request.frame → request.number ∉ b.late → b.connected = true ∧ result ≠ .ok none
  | _ => True

/-! ### The ledger of the requests -/

/-- What has arrived, what is held, and what has been sent. -/
structure Ledger where
  held : List Numbered
  sent : List Reply
  arrived : List (Address × BackendFrame)
  late : List Nat

def State.ledger (b : State) : Ledger := ⟨b.held, b.sent, b.arrived, b.late⟩

namespace Ledger

/-- What a step of a server does to the ledger. Only what is no request, or was taken late, is let go without
a reply. -/
inductive Move : Ledger → Ledger → Prop
  | sort {l : Ledger} {held : List Numbered} (h : l.held.Perm held) : Move l { l with held }
  | arrive {l : Ledger} (address : Address) (frame : BackendFrame) :
      Move l { l with
        held := ⟨l.arrived.length, address, frame⟩ :: l.held
        arrived := l.arrived ++ [(address, frame)] }
  | late {l : Ledger} {request : Numbered} (h : request ∈ l.held) :
      Move l { l with late := l.late ++ [request.number] }
  | reply {l : Ledger} {request : Numbered} {held : List Numbered} (message : Except String Message)
      (h : l.held = request :: held) :
      Move l { l with
        held
        sent := l.sent ++ [⟨request.address, -request.frame.serial, message, request.number⟩] }
  | forget {l : Ledger} {request : Numbered} {held : List Numbered} (h : l.held = request :: held)
      (hfree : ¬ IsRequest request.frame ∨ request.number ∈ l.late) : Move l { l with held }

/-- How often the number is on the books. -/
def count (l : Ledger) (n : Nat) : Nat :=
  (l.held.map Numbered.number).count n + (l.sent.map Reply.request).count n

/-- No number is there twice, and that of a request which is not late is there. -/
structure Sound (l : Ledger) : Prop where
  known : ∀ request ∈ l.held, l.arrived[request.number]? = some (request.address, request.frame)
  answers : ∀ reply ∈ l.sent, ∃ frame, l.arrived[reply.request]? = some (reply.address, frame) ∧
    reply.serial = -frame.serial
  once : ∀ n, l.count n ≤ 1
  kept : ∀ n address frame, l.arrived[n]? = some (address, frame) → IsRequest frame → n ∉ l.late →
    l.count n = 1

variable {l l' : Ledger}

theorem getElem?_arrived {arrived : List (Address × BackendFrame)} {n : Nat} {x y : Address × BackendFrame}
    (h : arrived[n]? = some x) : (arrived ++ [y])[n]? = some x := by
  rw [List.getElem?_append_left (List.getElem?_eq_some_iff.1 h).1]
  exact h

theorem Sound.count_new (h : l.Sound) : l.count l.arrived.length = 0 := by
  have hheld : l.arrived.length ∉ l.held.map Numbered.number := by
    intro hmem
    obtain ⟨request, hrequest, heq⟩ := List.mem_map.1 hmem
    have hlt := (List.getElem?_eq_some_iff.1 (h.known request hrequest)).1
    omega
  have hsent : l.arrived.length ∉ l.sent.map Reply.request := by
    intro hmem
    obtain ⟨reply, hreply, heq⟩ := List.mem_map.1 hmem
    obtain ⟨frame, hframe, -⟩ := h.answers reply hreply
    have hlt := (List.getElem?_eq_some_iff.1 hframe).1
    omega
  rw [count, List.count_eq_zero_of_not_mem hheld, List.count_eq_zero_of_not_mem hsent]

theorem Sound.move (h : l.Sound) (hmove : Move l l') : l'.Sound := by
  cases hmove with
  | @sort held hperm =>
      have hcount : ∀ n, count { l with held } n = l.count n := fun n => by
        rw [count, count, (hperm.map Numbered.number).count_eq]
      refine ⟨fun request hrequest => h.known request (hperm.mem_iff.2 hrequest), h.answers, ?_, ?_⟩
      · exact fun n => (hcount n).trans_le (h.once n)
      · exact fun n address frame hn hrequest hlate =>
          (hcount n).trans (h.kept n address frame hn hrequest hlate)
  | arrive address frame =>
      have hcount : ∀ n, count { l with
          held := ⟨l.arrived.length, address, frame⟩ :: l.held
          arrived := l.arrived ++ [(address, frame)] } n =
          l.count n + if l.arrived.length = n then 1 else 0 := fun n => by
        simp only [count, List.map_cons, List.count_cons, beq_iff_eq]
        omega
      refine ⟨?_, ?_, ?_, ?_⟩
      · intro request hrequest
        rcases List.mem_cons.1 hrequest with rfl | hrequest
        · exact List.getElem?_concat_length
        · exact getElem?_arrived (h.known request hrequest)
      · intro reply hreply
        obtain ⟨frame', hframe, hserial⟩ := h.answers reply hreply
        exact ⟨frame', getElem?_arrived hframe, hserial⟩
      · intro n
        rw [hcount]
        split_ifs with hn
        · rw [← hn, h.count_new]
        · exact h.once n
      · intro n address' frame' hn hrequest hlate
        rw [hcount]
        split_ifs with heq
        · rw [← heq, h.count_new]
        · refine h.kept n address' frame' ?_ hrequest hlate
          have hlt := (List.getElem?_eq_some_iff.1 hn).1
          rw [List.length_append, List.length_singleton] at hlt
          rwa [List.getElem?_append_left (by omega)] at hn
  | late hmem =>
      exact ⟨h.known, h.answers, h.once, fun n address frame hn hrequest hlate =>
        h.kept n address frame hn hrequest fun hmem => hlate (List.mem_append_left _ hmem)⟩
  | @reply request held message hheld =>
      have hcount : ∀ n, count { l with
          held
          sent := l.sent ++ [⟨request.address, -request.frame.serial, message, request.number⟩] } n =
          l.count n := fun n => by
        simp only [count, hheld, List.map_append, List.map_cons, List.map_nil, List.count_append,
          List.count_cons, List.count_nil]
        omega
      refine ⟨fun request' hmem => h.known request' (hheld ▸ List.mem_cons_of_mem _ hmem), ?_, ?_, ?_⟩
      · intro reply hreply
        rcases List.mem_append.1 hreply with hreply | hreply
        · exact h.answers reply hreply
        · rw [List.mem_singleton.1 hreply]
          exact ⟨request.frame, h.known request (hheld ▸ List.mem_cons_self), rfl⟩
      · exact fun n => (hcount n).trans_le (h.once n)
      · exact fun n address frame hn hrequest hlate =>
          (hcount n).trans (h.kept n address frame hn hrequest hlate)
  | @forget request held hheld hfree =>
      have hcount : ∀ n, l.count n = count { l with held } n + if request.number = n then 1 else 0 := fun n => by
        simp only [count, hheld, List.map_cons, List.count_cons, beq_iff_eq]
        omega
      refine ⟨fun request' hmem => h.known request' (hheld ▸ List.mem_cons_of_mem _ hmem), h.answers, ?_, ?_⟩
      · intro n
        have hle := h.once n
        rw [hcount] at hle
        exact (Nat.le_add_right _ _).trans hle
      · intro n address frame hn hrequest hlate
        have hkept := h.kept n address frame hn hrequest hlate
        rw [hcount, if_neg ?_] at hkept
        · exact hkept
        · rintro rfl
          have hknown := h.known request (hheld ▸ List.mem_cons_self)
          rw [hn] at hknown
          cases hknown
          exact hfree.elim (fun hfree => hfree hrequest) hlate

theorem Sound.moves (h : l.Sound) (hmoves : Relation.ReflTransGen Move l l') : l'.Sound := by
  induction hmoves with
  | refl => exact h
  | tail _ hmove ih => exact ih.move hmove

end Ledger

/-! ### Tasks and sessions -/

/-- A session that is online has a task of its own, which has not been cancelled. -/
structure State.Staffed (b : State) : Prop where
  owner : ∀ sessionId k, b.sessions.get sessionId = some k →
    ∃ t, b.tasks[k]? = some t ∧ t.sessionId = sessionId ∧ t.cancelled = false
  finished : ∀ (k : Nat) t, b.tasks[k]? = some t → t.finished = true → t.cancelled = true

namespace State

variable {m} {b : State} {k : Nat} {t t' : SessionTask} {request : Numbered}

theorem Staffed.setTask (h : b.Staffed) (ht : b.tasks[k]? = some t) (hsession : t'.sessionId = t.sessionId)
    (hcancelled : t'.cancelled = t.cancelled) (hfinished : t'.finished = true → t'.cancelled = true) :
    (b.setTask k t').Staffed := by
  have hlt := (List.getElem?_eq_some_iff.1 ht).1
  refine ⟨fun sessionId k' hget => ?_, fun k' t₁ ht₁ => ?_⟩
  · obtain ⟨t₁, ht₁, hsid, hopen⟩ := h.owner sessionId k' hget
    by_cases hk : k = k'
    · subst hk
      obtain rfl : t = t₁ := Option.some.inj (ht.symm.trans ht₁)
      exact ⟨t', List.getElem?_set_self hlt, hsession.trans hsid, hcancelled.trans hopen⟩
    · exact ⟨t₁, (List.getElem?_set_ne hk).trans ht₁, hsid, hopen⟩
  · rw [State.setTask] at ht₁
    by_cases hk : k = k'
    · subst hk
      rw [List.getElem?_set_self hlt] at ht₁
      obtain rfl := Option.some.inj ht₁
      exact hfinished
    · rw [List.getElem?_set_ne hk] at ht₁
      exact h.finished k' t₁ ht₁

theorem Staffed.of_same {b' : State} (h : b.Staffed) (hsessions : b'.sessions = b.sessions)
    (htasks : b'.tasks = b.tasks) : b'.Staffed := by
  refine ⟨fun sessionId k hget => ?_, fun k t ht => h.finished k t (htasks ▸ ht)⟩
  rw [htasks]
  exact h.owner sessionId k (hsessions ▸ hget)

theorem Staffed.stopSession (h : b.Staffed) (sessionId : UInt32) : (b.stopSession sessionId).Staffed := by
  rw [State.stopSession]
  rcases hget : b.sessions.get sessionId with _ | k
  · exact h
  · obtain ⟨t, ht, hsid, -⟩ := h.owner sessionId k hget
    refine ⟨fun sessionId' k' hget' => ?_, fun k' t' ht' => ?_⟩
    · have hne : sessionId' ≠ sessionId := by
        rintro rfl
        rw [Table.get_remove_self] at hget'
        cases hget'
      rw [Table.get_remove_ne _ hne] at hget'
      obtain ⟨t', ht', hsid', hopen⟩ := h.owner sessionId' k' hget'
      have hk : k ≠ k' := by
        rintro rfl
        rw [ht] at ht'
        obtain rfl := Option.some.inj ht'
        exact hne (hsid'.symm.trans hsid)
      exact ⟨t', (List.getElem?_modify_ne _ _ hk).trans ht', hsid', hopen⟩
    · by_cases hk : k = k'
      · subst hk
        dsimp only at ht'
        rw [List.getElem?_modify_eq, ht] at ht'
        obtain rfl := Option.some.inj ht'
        exact fun _ => rfl
      · dsimp only at ht'
        rw [List.getElem?_modify_ne _ _ hk] at ht'
        exact h.finished k' t' ht'

theorem Staffed.spawnSession (h : b.Staffed) (sessionId : UInt32) : (b.spawnSession sessionId).Staffed := by
  have h := h.stopSession sessionId
  refine ⟨fun sessionId' k' hget => ?_, fun k' t ht => ?_⟩
  · dsimp only [State.spawnSession] at hget ⊢
    rw [Table.get_insert] at hget
    split_ifs at hget with hsid
    · obtain rfl := Option.some.inj hget
      exact ⟨_, List.getElem?_concat_length, hsid.symm, rfl⟩
    · obtain ⟨t, ht, hsid', hopen⟩ := h.owner sessionId' k' hget
      refine ⟨t, ?_, hsid', hopen⟩
      rw [List.getElem?_append_left (List.getElem?_eq_some_iff.1 ht).1]
      exact ht
  · dsimp only [State.spawnSession] at ht
    rw [List.getElem?_append] at ht
    split_ifs at ht with hlt
    · exact h.finished k' t ht
    · rw [List.mem_singleton.1 (List.mem_of_getElem? ht)]
      exact fun hfinished => hfinished

theorem Staffed.stopAllSessions (h : b.Staffed) : b.stopAllSessions.Staffed := by
  rw [State.stopAllSessions]
  generalize b.sessions.toList.map Prod.fst = sessionIds
  induction sessionIds generalizing b with
  | nil => exact h
  | cons sessionId _ ih => exact ih (h.stopSession sessionId)

theorem held_setTask (ht : b.tasks[k]? = some t) :
    ∃ rest, b.held.Perm (t.held ++ rest) ∧ ∀ t', (b.setTask k t').held.Perm (t'.held ++ rest) := by
  obtain ⟨hlt, rfl⟩ := List.getElem?_eq_some_iff.1 ht
  refine ⟨(b.tasks.take k).flatMap SessionTask.held ++ ((b.tasks.drop (k + 1)).flatMap SessionTask.held ++
    (b.serverDispatch ++ b.dispatching.toList)), ?_, fun t' => ?_⟩
  · rw [State.held]
    nth_rewrite 1 [← List.take_append_drop k b.tasks]
    rw [List.drop_eq_getElem_cons hlt, List.flatMap_append, List.flatMap_cons, List.append_assoc,
      List.append_assoc]
    exact List.perm_append_comm_assoc ..
  · rw [State.held, State.setTask]
    dsimp only
    rw [List.set_eq_take_append_cons_drop, if_pos hlt, List.flatMap_append, List.flatMap_cons,
      List.append_assoc, List.append_assoc]
    exact List.perm_append_comm_assoc ..

theorem held_cancel (tasks : List SessionTask) (k : Nat) :
    (tasks.modify k fun t => { t with cancelled := true }).flatMap SessionTask.held =
      tasks.flatMap SessionTask.held := by
  induction tasks generalizing k with
  | nil => rw [List.modify_nil]
  | cons t tasks ih =>
      cases k with
      | zero => rfl
      | succ k => rw [List.modify_succ_cons, List.flatMap_cons, List.flatMap_cons, ih]

@[simp] theorem ledger_stopSession (b : State) (sessionId : UInt32) :
    (b.stopSession sessionId).ledger = b.ledger := by
  rw [State.stopSession]
  rcases b.sessions.get sessionId with _ | k
  · rfl
  · simp only [ledger, held, held_cancel]

@[simp] theorem ledger_spawnSession (b : State) (sessionId : UInt32) :
    (b.spawnSession sessionId).ledger = b.ledger := by
  rw [← b.ledger_stopSession sessionId]
  simp [ledger, held, State.spawnSession, SessionTask.held]

@[simp] theorem ledger_stopAllSessions (b : State) : b.stopAllSessions.ledger = b.ledger := by
  rw [State.stopAllSessions]
  generalize b.sessions.toList.map Prod.fst = sessionIds
  induction sessionIds generalizing b with
  | nil => rfl
  | cons sessionId _ ih => exact (ih (b.stopSession sessionId)).trans (b.ledger_stopSession sessionId)

/-! ### A step moves the ledger -/

theorem moves_finish (result : HandlerResult) {held : List Numbered} (hheld : held.Perm (request :: b.held))
    (hresult : IsRequest request.frame → request.number ∉ b.late → b.connected = true ∧ result ≠ .ok none) :
    Relation.ReflTransGen Ledger.Move { b.ledger with held } (b.finish request result).ledger := by
  refine (Relation.ReflTransGen.single (.sort hheld)).tail ?_
  have hforget : ¬ (b.connected = true ∧ result ≠ .ok none) →
      Ledger.Move { b.ledger with held := request :: b.held } b.ledger := by
    intro hnot
    refine .forget rfl ?_
    by_contra hfree
    rw [not_or, not_not] at hfree
    exact hnot (hresult hfree.1 hfree.2)
  rw [State.finish]
  split_ifs with hserial
  · exact .forget rfl (Or.inl fun hrequest => absurd (hserial ▸ hrequest.1) (by decide))
  · rcases result with err | _ | msg
    · rw [State.reply]
      split_ifs with hconnected
      · exact .reply (.error err) rfl
      · exact hforget fun h => hconnected h.1
    · exact hforget fun h => h.2 rfl
    · rw [State.reply]
      split_ifs with hconnected
      · exact .reply (.ok msg) rfl
      · exact hforget fun h => hconnected h.1

theorem take_eq (b : State) (request : Numbered) :
    b.take request = { b with late := (b.take request).late } := by
  rw [State.take]
  split_ifs <;> rfl

theorem moves_take (hmem : request ∈ b.held) :
    Relation.ReflTransGen Ledger.Move b.ledger (b.take request).ledger := by
  rw [State.take]
  split_ifs
  · exact .refl
  · exact .single (.late hmem)

theorem mem_late_take (h : b.connected = false) : request.number ∈ (b.take request).late := by
  rw [State.take, if_neg (by simp [h])]
  exact List.mem_append_right _ (List.mem_singleton_self _)

theorem Staffed.arrive (h : b.Staffed) (address : Address) (frame : BackendFrame) :
    (b.arrive address frame).2.Staffed :=
  h.of_same rfl rfl

theorem Staffed.reply (h : b.Staffed) (request : Numbered) (result : HandlerResult) :
    (b.reply request result).Staffed := by
  rcases result with err | _ | msg
  · rw [State.reply]
    split_ifs
    · exact h.of_same rfl rfl
    · exact h
  · exact h
  · rw [State.reply]
    split_ifs
    · exact h.of_same rfl rfl
    · exact h

theorem Staffed.finish (h : b.Staffed) (request : Numbered) (result : HandlerResult) :
    (b.finish request result).Staffed := by
  rw [State.finish]
  split_ifs
  · exact h
  · exact h.reply request result

theorem Staffed.take (h : b.Staffed) (request : Numbered) : (b.take request).Staffed := by
  rw [State.take]
  split_ifs
  · exact h
  · exact h.of_same rfl rfl

theorem moves_dispatchBusinessFrame (h : b.Staffed) (hconnected : b.connected = true) (frame : BackendFrame) :
    Relation.ReflTransGen Ledger.Move b.ledger (b.dispatchBusinessFrame frame).ledger ∧
      (b.dispatchBusinessFrame frame).Staffed := by
  rw [State.dispatchBusinessFrame]
  rcases hget : b.sessions.get frame.sessionId with _ | k
  · exact ⟨.refl, h⟩
  · obtain ⟨t, ht, -, hopen⟩ := h.owner _ _ hget
    have hrunning : t.finished = false := by
      rw [← Bool.not_eq_true]
      intro hfinished
      rw [h.finished k t ht hfinished] at hopen
      cases hopen
    simp only [ht, arrive]
    rw [if_neg (by simp [hrunning])]
    have harrive := Ledger.Move.arrive (l := b.ledger) (.client frame.sessionId) frame
    have hstaffed := h.arrive (.client frame.sessionId) frame
    split_ifs with hroom hserial
    · obtain ⟨rest, hbefore, hafter⟩ := held_setTask ht
      refine ⟨(Relation.ReflTransGen.single harrive).tail (.sort ?_), hstaffed.setTask ht rfl rfl (h.finished k t ht)⟩
      refine (hbefore.cons _).trans (.trans ?_ (hafter { t with mailbox := t.mailbox ++ [_] }).symm)
      simp only [SessionTask.held, List.append_assoc, List.singleton_append]
      exact (List.perm_middle.symm.trans ((@List.perm_middle _ _ t.mailbox _).symm.append_left _))
    · have hmoves := moves_finish (b := (b.arrive (.client frame.sessionId) frame).2) (.error "mailbox full")
        (.refl (⟨b.arrived.length, .client frame.sessionId, frame⟩ :: _)) fun _ _ => ⟨hconnected, nofun⟩
      rw [State.finish, if_neg hserial] at hmoves
      exact ⟨(Relation.ReflTransGen.single harrive).trans hmoves, hstaffed.reply ..⟩
    · refine ⟨(Relation.ReflTransGen.single harrive).tail (.forget rfl (Or.inl fun hrequest => ?_)), hstaffed⟩
      rw [not_not] at hserial
      exact absurd (hserial ▸ hrequest.1) (by decide)

/-- A frame from a mailbox goes to the delegate, if it can be read. -/
theorem moves_processClientFrame {rest : List Numbered} (h : b.Staffed) (ht : b.tasks[k]? = some t)
    (hbusy : t.busy = none) (hmailbox : t.mailbox = request :: rest)
    (hread : b.connected = true → IsRequest request.frame →
      ∃ msg, m.decode request.frame.msgId request.frame.payload = .ok msg) :
    Relation.ReflTransGen Ledger.Move b.ledger
        ((b.take request).processClientFrame m k { t with mailbox := rest } request).ledger ∧
      ((b.take request).processClientFrame m k { t with mailbox := rest } request).Staffed := by
  have hstaffed := h.take request
  have htasks : (b.take request).tasks[k]? = some t := by
    rw [take_eq]
    exact ht
  obtain ⟨others, hbefore, hafter⟩ := held_setTask htasks
  have hheld : t.held = request :: rest := by rw [SessionTask.held, hbusy, hmailbox, Option.toList_none,
    List.nil_append]
  have hmem : request ∈ b.held := by
    have hmem : request ∈ (b.take request).held :=
      hbefore.mem_iff.2 (List.mem_append_left _ (hheld ▸ List.mem_cons_self))
    rw [take_eq] at hmem
    exact hmem
  rw [State.processClientFrame]
  rcases hdecode : m.decode request.frame.msgId request.frame.payload with err | msg
  · have hlet := hafter { t with mailbox := rest }
    refine ⟨((moves_take hmem).tail (.sort ?_)).tail (.forget (rfl : _ = request :: _) ?_),
      hstaffed.setTask htasks rfl rfl (h.finished k t ht)⟩
    · refine hbefore.trans ?_
      rw [hheld]
      refine .trans ?_ (hlet.symm.cons request)
      rw [SessionTask.held, hbusy]
      rfl
    · by_cases hconnected : b.connected = true
      · refine Or.inl fun hrequest => ?_
        obtain ⟨msg, hmsg⟩ := hread hconnected hrequest
        rw [hdecode] at hmsg
        cases hmsg
      · exact Or.inr (mem_late_take (Bool.eq_false_iff.2 hconnected))
  · refine ⟨(moves_take hmem).tail (.sort ?_), hstaffed.setTask htasks rfl rfl (h.finished k t ht)⟩
    refine hbefore.trans (.trans ?_ (hafter { t with mailbox := rest, busy := some request }).symm)
    rw [hheld]
    rfl

theorem moves_processServerMessage {rest : List Numbered} (h : b.Staffed) (hidle : b.dispatching = none)
    (hqueue : b.serverDispatch = request :: rest) :
    Relation.ReflTransGen Ledger.Move b.ledger
        ({ b.take request with serverDispatch := rest }.processServerMessage m request).ledger ∧
      ({ b.take request with serverDispatch := rest }.processServerMessage m request).Staffed := by
  have hbefore : (b.take request).held.Perm (request :: { b.take request with serverDispatch := rest }.held) := by
    rw [take_eq, State.held, State.held, hqueue, hidle]
    exact List.perm_middle
  have hmem : request ∈ b.held := by
    have hmem := hbefore.mem_iff.2 List.mem_cons_self
    rw [take_eq] at hmem
    exact hmem
  have hstaffed : { b.take request with serverDispatch := rest }.Staffed := (h.take request).of_same rfl rfl
  rw [State.processServerMessage]
  rcases hdecode : m.decode request.frame.msgId request.frame.payload with err | msg
  · have hmoves := moves_finish (b := { b.take request with serverDispatch := rest })
      (.error s!"decode server message failed: {err}") hbefore fun _ hlate => by
        refine ⟨?_, nofun⟩
        rw [take_eq]
        by_contra hconnected
        exact hlate (mem_late_take (Bool.eq_false_iff.2 hconnected))
    refine ⟨(moves_take hmem).trans ?_, ?_⟩
    · rw [State.finish, ← ite_not] at hmoves
      exact hmoves
    · dsimp only
      split_ifs
      · exact hstaffed.reply ..
      · exact hstaffed
  · refine ⟨(moves_take hmem).tail (.sort (hbefore.trans ?_)), hstaffed.of_same rfl rfl⟩
    rw [take_eq]
    simp only [State.held, hidle, Option.toList_none, Option.toList_some, List.append_nil]
    rw [← List.append_assoc]
    exact (List.perm_append_singleton ..).symm

theorem Staffed.moves {e : Event} {b' : State} (h : b.Staffed) (hstep : Step m b e b') (hok : CanReply m b e) :
    Relation.ReflTransGen Ledger.Move b.ledger b'.ledger ∧ b'.Staffed := by
  cases e with
  | connected | closed =>
      cases hstep
      exact ⟨.refl, h.of_same rfl rfl⟩
  | disconnected =>
      cases hstep
      refine ⟨?_, h.stopAllSessions.of_same rfl rfl⟩
      exact b.ledger_stopAllSessions ▸ .refl
  | sessionOnline sessionId =>
      simp only [Step, next, Option.ite_none_right_eq_some, Option.some.injEq] at hstep
      rw [← hstep.2, ledger_spawnSession]
      exact ⟨.refl, h.spawnSession sessionId⟩
  | sessionOffline sessionId =>
      simp only [Step, next, Option.ite_none_right_eq_some, Option.some.injEq] at hstep
      rw [← hstep.2, ledger_stopSession]
      exact ⟨.refl, h.stopSession sessionId⟩
  | stopAllSessions =>
      cases hstep
      rw [ledger_stopAllSessions]
      exact ⟨.refl, h.stopAllSessions⟩
  | clientFrame frame =>
      simp only [Step, next, Option.ite_none_right_eq_some, Option.some.injEq] at hstep
      obtain ⟨⟨hconnected, -⟩, rfl⟩ := hstep
      exact moves_dispatchBusinessFrame h hconnected frame
  | serverFrame source inner =>
      simp only [Step, next, Option.ite_none_right_eq_some, Option.some.injEq] at hstep
      obtain ⟨-, rfl⟩ := hstep
      refine ⟨(Relation.ReflTransGen.single (.arrive (.server source) inner)).tail (.sort ?_), h.of_same rfl rfl⟩
      simp only [State.ledger, State.held, State.arrive, List.append_assoc, List.singleton_append]
      rw [← List.append_assoc, ← List.append_assoc]
      exact List.perm_middle.symm
  | started k =>
      simp only [Step, next, Option.bind_eq_bind, Option.bind_eq_some_iff, Option.ite_none_left_eq_some,
        Option.some.injEq] at hstep
      obtain ⟨t, ht, -, rfl⟩ := hstep
      obtain ⟨rest, hbefore, hafter⟩ := held_setTask ht
      exact ⟨.single (.sort (hbefore.trans (hafter { t with started := true }).symm)),
        h.setTask ht rfl rfl (h.finished k t ht)⟩
  | receive k =>
      simp only [Step, next, Option.bind_eq_bind, Option.bind_eq_some_iff, Option.ite_none_left_eq_some] at hstep
      obtain ⟨t, ht, hfree, hstep⟩ := hstep
      rcases hmailbox : t.mailbox with _ | ⟨request, rest⟩
      · simp [hmailbox] at hstep
      · simp only [hmailbox, Option.some.injEq] at hstep
        subst hstep
        simp only [not_or, Bool.not_eq_true, Option.isSome_eq_false_iff, Option.isNone_iff_eq_none] at hfree
        exact moves_processClientFrame h ht hfree.2.1 hmailbox (hok t request rest ht hmailbox)
  | handled k result =>
      simp only [Step, next, Option.bind_eq_bind, Option.bind_eq_some_iff, Option.some.injEq] at hstep
      obtain ⟨t, ht, request, hbusy, rfl⟩ := hstep
      obtain ⟨rest, hbefore, hafter⟩ := held_setTask ht
      have hstaffed : (b.setTask k { t with busy := none }).Staffed := h.setTask ht rfl rfl (h.finished k t ht)
      refine ⟨moves_finish (b := b.setTask k { t with busy := none }) _ (hbefore.trans ?_)
        (hok t request ht hbusy), hstaffed.finish ..⟩
      refine .trans ?_ ((hafter { t with busy := none }).symm.cons request)
      rw [SessionTask.held, hbusy]
      rfl
  | finished k =>
      simp only [Step, next, Option.bind_eq_bind, Option.bind_eq_some_iff, Option.ite_none_right_eq_some,
        Option.some.injEq] at hstep
      obtain ⟨t, ht, ⟨-, -, hcancelled⟩, rfl⟩ := hstep
      obtain ⟨rest, hbefore, hafter⟩ := held_setTask ht
      exact ⟨.single (.sort (hbefore.trans (hafter { t with finished := true }).symm)),
        h.setTask ht rfl rfl fun _ => hcancelled⟩
  | dispatch =>
      simp only [Step, next] at hstep
      split at hstep
      next request rest hidle hqueue =>
        obtain rfl := Option.some.inj hstep
        exact moves_processServerMessage h hidle hqueue
      next => cases hstep
  | dispatched result =>
      simp only [Step, next, Option.bind_eq_bind, Option.bind_eq_some_iff, Option.some.injEq] at hstep
      obtain ⟨request, hdispatching, rfl⟩ := hstep
      refine ⟨moves_finish (b := { b with dispatching := none }) _ ?_ (hok request hdispatching),
        (h.of_same rfl rfl : { b with dispatching := none }.Staffed).finish ..⟩
      simp only [State.held, hdispatching, Option.toList_some, Option.toList_none, List.append_nil]
      rw [← List.append_assoc]
      exact List.perm_append_singleton ..

end State

/-! ### Runs -/

section Runs

variable {m} {b : State} {trace : List (State × Event)}

theorem Ledger.sound_start : (State.ledger {}).Sound where
  known := nofun
  answers := nofun
  once _ := Nat.zero_le _
  kept n _ _ h := by simp [State.ledger] at h

theorem sound_of_run (hrun : Run (Step m) {} trace b) (hok : ∀ e ∈ trace, CanReply m e.1 e.2) :
    b.ledger.Sound ∧ b.Staffed := by
  refine hrun.invariant_of (CanReply m) (fun b => b.ledger.Sound ∧ b.Staffed) hok ⟨Ledger.sound_start, ?_⟩
    fun b e b' ⟨hsound, hstaffed⟩ hok hstep => ?_
  · exact ⟨fun _ _ h => by simp at h, fun _ _ h => by simp at h⟩
  · obtain ⟨hmoves, hstaffed⟩ := hstaffed.moves hstep hok
    exact ⟨hsound.moves hmoves, hstaffed⟩

end Runs

namespace Sample

/-- Messages with the id 1000 and no payload. -/
def messages : MessageMap where
  encode msg := (msg.msgId, [])
  decode msgId _ := if msgId = 1000 then .ok (.other 1000 []) else .error "unknown message id"

def request (msgId : UInt16) : BackendFrame := { cmd := backendCmdBusiness, msgId, serial := -5, sessionId := 7, payload := [] }

/-- Session 7 comes online and its client sends a request. -/
def events (msgId : UInt16) : List Event := [.connected, .sessionOnline 7, .started 0, .clientFrame (request msgId), .receive 0]

end Sample

end AxmolFighter.Backend.Replies
