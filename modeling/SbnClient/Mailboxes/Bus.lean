import SbnClient.Mailboxes.Refinement
import SbnClient.Stream.Decoder
import SbnClient.Threads.Atomicity

/-!
# The client as a message bus

What the client is for, with nothing of how it does it: mailboxes, and the bytes that its peer
has sent and nobody has looked at.  A message is taken off the bytes and put into a mailbox in
one step, and every call is one step on the mailboxes.  All threads of the client together, the
segments of the socket, the buffers, the mutex and the condition variable do nothing else.
-/

namespace SbnClient

open SegmentedInput

variable {P : Platform} {Thread : Type*}

/-- The mailboxes, and what is still to be decoded. -/
structure Bus (P : Platform) where
  boxes : Mailboxes P
  stream : List UInt8

/-- What happens on the bus. -/
inductive BusEvent (P : Platform) (Thread : Type*) where
  | frame (status : Status)
  | called (thread : Thread) (op : Op P) (outcome : SpecOutcome)
  | gaveUp (thread : Thread)

/-- A message without a payload for the application is dropped. -/
def Mailboxes.arrive (boxes : Mailboxes P) : Option (Payload P) → Mailboxes P
  | some payload => boxes.ingest payload.bytes
  | none => boxes

/-- The calls of the threads that use the bus: all but those of the receive minder. -/
def Op.OfThread : Op P → Prop
  | .ingestAppMessage .. | .recvMsg .. => False
  | _ => True

/-- The steps of the bus. -/
inductive Bus.Step (bus : Bus P) : BusEvent P Thread → Bus P → Prop where
  | frame : Step bus (.frame (decodeFrame P bus.stream).status)
      ⟨bus.boxes.arrive (decodeFrame P bus.stream).payload, (decodeFrame P bus.stream).rest⟩
  | called (thread : Thread) {op : Op P} (ofThread : op.OfThread) :
      Step bus (.called thread op (bus.boxes.apply op).2) ⟨(bus.boxes.apply op).1, bus.stream⟩
  | gaveUp (thread : Thread) : Step bus (.gaveUp thread) bus

/-- The caller of the code and the user of the bus learn the same. -/
inductive AtomicEvent.Agrees : AtomicEvent P Thread → BusEvent P Thread → Prop where
  | frame (status : Status) : Agrees (.frame status) (.frame status)
  | called (thread : Thread) (op : Op P) {outcome : Outcome P} {told : SpecOutcome}
      (agrees : OutcomeAgrees outcome told) :
      Agrees (.called thread op outcome) (.called thread op told)
  | gaveUp (thread : Thread) (outcome : Outcome P) :
      Agrees (.gaveUp thread outcome) (.gaveUp thread)

/-- The mutex calls of a `RcvMsg` call succeed. -/
def AtomicEvent.Calm : AtomicEvent P Thread → Prop
  | .called _ op _ => op.Calm
  | _ => True

theorem ConcurrentEvent.Calm.effects {event : ConcurrentEvent P Thread} (calm : event.Calm) :
    ∀ taken ∈ event.effects, taken.Calm := by
  cases event with
  | turned status =>
      cases status with
      | none => exact List.forall_mem_nil _
      | some status => exact List.forall_mem_singleton.mpr trivial
  | called thread op outcome => exact List.forall_mem_singleton.mpr calm
  | resumed thread entered waitMutexStatus outcome =>
      rw [ConcurrentEvent.effects]
      split
      · exact List.forall_mem_singleton.mpr calm
      · exact List.forall_mem_singleton.mpr trivial
  | signalled | recvReturned | looked | blocked | woke => exact List.forall_mem_nil _

/-! ## Each call -/

/-- The table and the socket stand for the bus. -/
structure OnBus (state : PipeTbl P × Socket) (bus : Bus P) : Prop where
  refines : Refines state.1 bus.boxes
  endsInClose : EndsInClose state.2
  stream_eq : available state.2 = bus.stream
  msgIds : HasMsgIds P bus.stream

variable {tbl : PipeTbl P} {boxes : Mailboxes P}

/-- Routing a decoded payload. -/
theorem Refines.arrive (format : DefaultFormat P) (refines : Refines tbl boxes)
    (locals : RecvLocals P) {decoded : Decoded P}
    (msgIds : ∀ payload, decoded.payload = some payload → 2 ≤ payload.bytes.length) :
    Refines (deliverDecoded tbl locals decoded) (boxes.arrive decoded.payload) := by
  rw [deliverDecoded]
  cases isPayload : decoded.payload with
  | none => exact refines
  | some payload =>
      simp only [getMsgId_filledWith format locals.msgBuffer (msgIds payload isPayload)]
      exact refines.deliver payload

/-- A `RcvMsg` call that does not wait. -/
theorem Refines.rcvBegin (format : DefaultFormat P) (refines : Refines tbl boxes)
    {bufPtr : Bool} {pipeId : UInt8} {timeOut : Int} {env : RcvEnv P} {result : RcvResult P}
    (locked : env.lockMutexStatus = 0) (unlocked : env.unlockMutexStatus = 0)
    (ran : rcvBegin tbl bufPtr pipeId timeOut env = some (.returned result)) :
    Refines result.tbl (boxes.apply (.rcvMsg bufPtr pipeId timeOut env)).1 ∧
      OutcomeAgrees result.outcome (boxes.apply (.rcvMsg bufPtr pipeId timeOut env)).2 := by
  by_cases refused : ¬ bufPtr ∨ timeOut < -1
  · rw [SbnClient.rcvBegin, if_pos refused] at ran
    cases ran
    rw [Mailboxes.apply, if_pos refused]
    exact ⟨refines, .nothing _⟩
  · obtain ⟨inTable, atOnce⟩ := sequential_of_accepted refines.registry refused ran
    have contract : (Op.rcvMsg bufPtr pipeId timeOut env).Contract tbl :=
      ⟨inTable, locked, unlocked, atOnce.resolve_left (not_not.mpr locked)⟩
    obtain ⟨next, outcome, applied, kept, agreed⟩ := refines.applyOp format contract
    have called : SbnClient.applyOp tbl (.rcvMsg bufPtr pipeId timeOut env) =
        some (result.tbl, result.outcome) := by
      rw [SbnClient.applyOp, rcvMsg, ran]
      rfl
    rw [called, Option.some.injEq, Prod.mk.injEq] at applied
    obtain ⟨rfl, rfl⟩ := applied
    exact ⟨kept, agreed⟩

/-- A call of the code is a step of the bus. -/
theorem OnBus.step (layout : SbnLayout P) (format : DefaultFormat P)
    {state next : PipeTbl P × Socket} {bus : Bus P} (onBus : OnBus state bus)
    {event : AtomicEvent P Thread} (step : AtomicStep state event next) (calm : event.Calm) :
    ∃ told after, bus.Step told after ∧ event.Agrees told ∧ OnBus next after := by
  have registry := onBus.refines.registry
  cases step with
  | @frame tbl socket locals received ran =>
      obtain ⟨again, ranAgain, decodes⟩ := recvMsg_decodes layout tbl locals onBus.endsInClose
      rw [ran, Option.some.injEq] at ranAgain
      subst ranAgain
      have stream : available socket = bus.stream := onBus.stream_eq
      rw [stream] at decodes
      refine ⟨_, _, .frame, decodes.status_eq ▸ .frame received.status, ?_, decodes.endsInClose,
        decodes.unread_eq, onBus.msgIds.rest⟩
      rw [decodes.tbl_eq]
      exact onBus.refines.arrive format locals fun _ => onBus.msgIds.first
  | @managed thread tbl next socket op outcome application ran =>
      have contract : op.Contract tbl := by
        cases op with
        | createPipe => trivial
        | deletePipe => trivial
        | subscribe => exact sequential_of_application application ran
        | ingestAppMessage | recvMsg | rcvMsg => exact application.elim
      obtain ⟨again, told, ranAgain, kept, agreed⟩ := onBus.refines.applyOp format contract
      rw [ran, Option.some.injEq, Prod.mk.injEq] at ranAgain
      obtain ⟨rfl, rfl⟩ := ranAgain
      have ofThread : op.OfThread := by
        cases op with
        | createPipe | deletePipe | subscribe => trivial
        | ingestAppMessage | recvMsg | rcvMsg => exact application.elim
      exact ⟨_, _, .called thread ofThread, .called thread op agreed, kept, onBus.endsInClose,
        onBus.stream_eq, onBus.msgIds⟩
  | @received thread tbl socket bufPtr pipeId timeOut env result ran =>
      obtain ⟨kept, agreed⟩ := onBus.refines.rcvBegin format calm.1 calm.2 ran
      have ofThread : (Op.rcvMsg bufPtr pipeId timeOut env).OfThread := trivial
      exact ⟨_, _, .called thread ofThread, .called thread _ agreed, kept, onBus.endsInClose,
        onBus.stream_eq, onBus.msgIds⟩
  | gaveUp thread failed => exact ⟨_, _, .gaveUp thread, .gaveUp thread _, onBus⟩

/-! ## Runs -/

/-- The calls that have taken effect carry out a run of the bus. -/
theorem exists_bus_run [DecidableEq Thread] (layout : SbnLayout P)
    (format : DefaultFormat P) (initial : PipeTbl P) {socket : Socket} (ends : EndsInClose socket)
    (msgIds : HasMsgIds P (available socket)) {trace : List (ConcurrentEvent P Thread)}
    {threads : Concurrent P Thread}
    (run : Machine.Run (Machine.Guarded Concurrent.Step Concurrent.Proper)
      (.start (initPipeTbl initial) socket) trace threads)
    (calm : ∀ event ∈ trace, event.Calm) :
    ∃ state events bus, Linked threads state ∧ OnBus state bus ∧
      Machine.Run Bus.Step ⟨.empty, available socket⟩ events bus ∧
      List.Forall₂ AtomicEvent.Agrees (trace.flatMap ConcurrentEvent.effects) events := by
  have reachable : Reachable (initPipeTbl initial) := ⟨initial, [], [], trivial, rfl⟩
  obtain ⟨state, atomic, linked⟩ := exists_linked reachable run
  have initially : OnBus (initPipeTbl initial, socket) ⟨.empty, available socket⟩ :=
    ⟨refines_initPipeTbl initial, ends, rfl, msgIds⟩
  have matched : ∀ (state : PipeTbl P × Socket) (event : AtomicEvent P Thread) next bus,
      OnBus state bus → Machine.Guarded AtomicStep (fun _ event => event.Calm) state event next →
      ∃ told after, bus.Step told after ∧ event.Agrees told ∧ OnBus next after :=
    fun _ _ _ _ onBus guarded => onBus.step layout format guarded.1 guarded.2
  have calmEffects : ∀ event ∈ trace.flatMap ConcurrentEvent.effects, event.Calm := by
    intro taken member
    obtain ⟨event, isEvent, effect⟩ := List.mem_flatMap.mp member
    exact (calm event isEvent).effects taken effect
  obtain ⟨events, bus, ran, agreed, onBus⟩ :=
    (atomic.guarded calmEffects).simulates_each matched initially
  exact ⟨state, events, bus, linked, onBus, ran, agreed⟩

/-- Between two `recv_msg` calls the bus has read what the client has. -/
theorem OnBus.stream_eq_of_outside {threads : Concurrent P Thread} {state : PipeTbl P × Socket}
    {bus : Bus P} (onBus : OnBus state bus) (linked : Linked threads state)
    (outside : threads.point = .outside) : bus.stream = available threads.socket := by
  rw [← onBus.stream_eq, linked.trails.eq_of_not_busy (by simp [outside, RecvPoint.Busy])]

/-- Every run of all threads of the client, on any bytes in any segments, is a run of the bus:
the callers learn what the users of the bus learn, in the order in which their calls take
effect, and the table carries the mailboxes. -/
theorem client_is_message_bus [DecidableEq Thread] (layout : SbnLayout P)
    (format : DefaultFormat P) (initial : PipeTbl P) {socket : Socket} (ends : EndsInClose socket)
    (msgIds : HasMsgIds P (available socket)) {trace : List (ConcurrentEvent P Thread)}
    {threads : Concurrent P Thread}
    (run : Machine.Run (Machine.Guarded Concurrent.Step Concurrent.Proper)
      (.start (initPipeTbl initial) socket) trace threads)
    (calm : ∀ event ∈ trace, event.Calm) :
    ∃ events bus, Machine.Run Bus.Step ⟨.empty, available socket⟩ events bus ∧
      List.Forall₂ AtomicEvent.Agrees (trace.flatMap ConcurrentEvent.effects) events ∧
      Refines threads.tbl bus.boxes ∧
      (threads.point = .outside → bus.stream = available threads.socket) := by
  obtain ⟨state, events, bus, linked, onBus, ran, agreed⟩ :=
    exists_bus_run layout format initial ends msgIds run calm
  refine ⟨events, bus, ran, agreed, ?_, onBus.stream_eq_of_outside linked⟩
  rw [← linked.tbl_eq]
  exact onBus.refines

theorem hasMsgIds_frameInPieces :
    HasMsgIds (standardPlatform 64) (available frameInPieces) := by
  refine .cons (fun payload isPayload => ?_) hasMsgIds_nil
  cases isPayload
  decide

/-- The client of `exists_midFrame_run` on its bus. -/
theorem midFrame_on_bus :
    ∃ (trace : List (ConcurrentEvent (standardPlatform 64) Unit))
      (threads : Concurrent (standardPlatform 64) Unit) (events : List (BusEvent _ Unit))
      (bus : Bus (standardPlatform 64)), trace.length = 14 ∧
      Machine.Run Bus.Step ⟨.empty, available frameInPieces⟩ events bus ∧
      List.Forall₂ AtomicEvent.Agrees (trace.flatMap ConcurrentEvent.effects) events ∧
      Refines threads.tbl bus.boxes ∧
      (threads.point = .outside → bus.stream = available threads.socket) := by
  obtain ⟨trace, threads, length, run⟩ := exists_midFrame_run
  have ends : EndsInClose frameInPieces := ⟨trivial, rfl⟩
  obtain ⟨events, bus, onBus⟩ := client_is_message_bus (standardPlatform_sbnLayout (by decide))
    (standardPlatform_defaultFormat 64) (zeroPipeTbl _) ends
    hasMsgIds_frameInPieces (run.mono fun _ _ _ guarded => ⟨guarded.1, guarded.2.1⟩)
    (run.each fun _ _ _ guarded => guarded.2.2)
  exact ⟨trace, threads, events, bus, length, onBus⟩

end SbnClient
