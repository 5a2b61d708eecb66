import SbnClient.Input.Publishing
import SbnClient.Mailboxes.HandedOut
import SbnClient.Mailboxes.Pending

/-!
# Nothing is lost on the way

As long as no pipe is created or deleted or subscribed to another id, and as long as a pipe is
not full when the receive minder goes on, each message that the peer sends for the pipe is
handed out of it or still waits there: in the order in which they were sent, none is left out,
none comes twice and none comes from elsewhere.
-/

namespace SbnClient

open SegmentedInput

variable {P : Platform} {Thread : Type*} {boxes : Mailboxes P} {k : Fin maxPipes}

/-! ## One mailbox -/

/-- The payload is one for the mailbox at an index. -/
def Mailboxes.takes (boxes : Mailboxes P) (k : Fin maxPipes) (payload : List UInt8) : Bool :=
  (Fin.find? fun i => boxes.Wants i (Mailboxes.msgId P payload)) = some k

/-- The mailbox at an index, if it exists, is not full. -/
def Mailboxes.HasRoom (boxes : Mailboxes P) (k : Fin maxPipes) : Prop :=
  ∀ box ∈ boxes k, box.queue.length < mailboxCapacity

theorem waiting_ingest_of_hasRoom (room : boxes.HasRoom k) (payload : List UInt8) :
    (boxes.ingest payload).waiting k =
      boxes.waiting k ++ [payload].filter (boxes.takes k) := by
  rw [Mailboxes.ingest, List.filter_singleton, Mailboxes.takes]
  cases found : Fin.find? fun i => boxes.Wants i (Mailboxes.msgId P payload) with
  | none => simp
  | some i =>
      obtain ⟨box, isBox, -⟩ := of_decide_eq_true (Fin.find?_eq_some_iff.mp found).1
      simp only [show boxes i = some box from isBox, Option.map_some, waiting_update]
      by_cases same : i = k
      · subst same
        simp [Mailboxes.waiting, Mailbox.waiting, show boxes i = some box from isBox,
          room box isBox]
      · simp [same, Function.update_of_ne (Ne.symm same)]

/-- The ids that each mailbox is subscribed to. -/
def Mailboxes.subscriptions (boxes : Mailboxes P) (i : Fin maxPipes) :
    Option (Fin maxMsgIdsPerPipe → MsgId P) :=
  (boxes i).map Mailbox.subscribedMsgIds

/-- A mailbox with another queue is subscribed to what it was. -/
theorem subscriptions_update {i : Fin maxPipes} {box : Mailbox P} (isBox : boxes i = some box)
    (queue : List (List UInt8)) :
    Mailboxes.subscriptions (Function.update boxes i (some { box with queue })) =
      boxes.subscriptions := by
  funext j
  by_cases same : j = i
  · subst same
    simp [Mailboxes.subscriptions, isBox]
  · simp [Mailboxes.subscriptions, Function.update_of_ne same]

theorem subscriptions_arrive (boxes : Mailboxes P) (payload : Option (Payload P)) :
    (boxes.arrive payload).subscriptions = boxes.subscriptions := by
  cases payload with
  | none => rfl
  | some payload =>
      rw [Mailboxes.arrive, Mailboxes.ingest]
      split
      next => rfl
      next i found =>
        obtain ⟨box, isBox, -⟩ := of_decide_eq_true (Fin.find?_eq_some_iff.mp found).1
        rw [show boxes i = some box from isBox, Option.map_some]
        split
        · exact subscriptions_update isBox _
        · exact subscriptions_update isBox box.queue

theorem subscriptions_receive (boxes : Mailboxes P) (pipeId : UInt8) :
    (boxes.receive pipeId).1.subscriptions = boxes.subscriptions := by
  rcases receive_cases boxes pipeId with
    ⟨status, nothing⟩ | ⟨i, box, payload, queue, found, isQueue, taken⟩
  · rw [nothing]
  · rw [taken]
    exact subscriptions_update (eq_of_lookup found).2 queue

/-- Mailboxes with the same subscriptions take the same payloads. -/
theorem takes_eq_of_subscriptions_eq {other : Mailboxes P}
    (same : other.subscriptions = boxes.subscriptions) : other.takes k = boxes.takes k := by
  have wants : ∀ i msgId, other.Wants i msgId ↔ boxes.Wants i msgId := by
    intro i msgId
    have entry := congrFun same i
    simp only [Mailboxes.subscriptions] at entry
    rw [Mailboxes.Wants, Mailboxes.Wants]
    cases isOther : other i <;> cases isBox : boxes i <;> simp_all
  funext payload
  simp only [Mailboxes.takes, wants]

/-! ## One step of the bus -/

/-- The call leaves every mailbox and its subscriptions as they are. -/
def BusEvent.KeepsBoxes : BusEvent P Thread → Prop
  | .called _ op _ => ¬ op.OfApplication
  | _ => True

/-- What became of the messages for one mailbox since the bus was at `start`. -/
structure Delivered (k : Fin maxPipes) (start : Bus P) (count : Nat)
    (events : List (BusEvent P Thread)) (bus : Bus P) : Prop where
  stream_eq : bus.stream = (decodeFrames P count start.stream).2
  subscriptions_eq : bus.boxes.subscriptions = start.boxes.subscriptions
  flow : start.boxes.waiting k ++ (payloadsOf P count start.stream).filter (start.boxes.takes k) =
    events.flatMap (BusEvent.handedOut k) ++ bus.boxes.waiting k

variable {start bus after : Bus P} {count : Nat} {events : List (BusEvent P Thread)}

theorem delivered_start (k : Fin maxPipes) (bus : Bus P) :
    Delivered k bus 0 ([] : List (BusEvent P Thread)) bus where
  stream_eq := rfl
  subscriptions_eq := rfl
  flow := List.append_nil _

theorem Delivered.step (delivered : Delivered k start count events bus)
    {event : BusEvent P Thread} (step : bus.Step event after) (keeps : event.KeepsBoxes)
    (room : ∀ status, event = .frame status → bus.boxes.HasRoom k) :
    ∃ count, Delivered k start count (events ++ [event]) after := by
  cases step with
  | frame =>
      refine ⟨count + 1, ?_, ?_, ?_⟩
      · rw [decodeFrames_succ, delivered.stream_eq]
      · rw [subscriptions_arrive, delivered.subscriptions_eq]
      · have takes := @takes_eq_of_subscriptions_eq _ _ k _ delivered.subscriptions_eq
        rw [payloadsOf_succ, List.filter_append, ← List.append_assoc, delivered.flow,
          ← delivered.stream_eq, ← takes, List.flatMap_append,
          List.flatMap_singleton, handedOut_frame, List.append_nil, List.append_assoc]
        cases (decodeFrame P bus.stream).payload with
        | none => simp [Mailboxes.arrive]
        | some payload =>
            rw [Mailboxes.arrive, waiting_ingest_of_hasRoom (room _ rfl)]
            rfl
  | @called thread op ofThread =>
      cases op with
      | createPipe | deletePipe | subscribe => exact absurd trivial keeps
      | ingestAppMessage | recvMsg => exact ofThread.elim
      | rcvMsg bufPtr pipeId timeOut env =>
          refine ⟨count, delivered.stream_eq, ?_, ?_⟩
          · rw [← delivered.subscriptions_eq, Mailboxes.apply]
            split
            next => rfl
            next => exact subscriptions_receive ..
          · rw [List.flatMap_append, List.flatMap_singleton, List.append_assoc,
              handedOut_append_waiting_rcvMsg]
            exact delivered.flow
  | gaveUp thread =>
      refine ⟨count, delivered.stream_eq, delivered.subscriptions_eq, ?_⟩
      rw [List.flatMap_append, List.flatMap_singleton, handedOut_gaveUp, List.append_nil]
      exact delivered.flow

/-! ## One step of the threads -/

/-- The call leaves every pipe and its subscriptions as they are. -/
def ConcurrentEvent.KeepsPipes : ConcurrentEvent P Thread → Prop
  | .called _ op _ => ¬ op.OfApplication
  | _ => True

/-- The receive minder ends a message while the pipe has room. -/
def Concurrent.HasRoom (k : Fin maxPipes) (threads : Concurrent P Thread) :
    ConcurrentEvent P Thread → Prop
  | .turned (some _) => (threads.tbl k).numberOfMessages ≠ maxPipeDepth
  | _ => True

/-- A step in which no message for the pipe can be lost. -/
structure Concurrent.Preserves (k : Fin maxPipes) (threads : Concurrent P Thread)
    (event : ConcurrentEvent P Thread) : Prop where
  proper : threads.Proper event
  calm : event.Calm
  keeps : event.KeepsPipes
  room : threads.HasRoom k event

theorem Refines.hasRoom {tbl : PipeTbl P} (refines : Refines tbl boxes)
    (room : (tbl k).numberOfMessages ≠ maxPipeDepth) : boxes.HasRoom k := by
  intro box isBox
  obtain ⟨live, -, holds⟩ := refines.live isBox
  have size := holds.count_eq
  have bounded := live.numberOfMessages_le
  have capacity : mailboxCapacity + 1 = maxPipeDepth := rfl
  omega

/-- What happens on the bus keeps the mailboxes when the threads keep the pipes. -/
theorem keepsBoxes_of_agrees {event : ConcurrentEvent P Thread} (keeps : event.KeepsPipes)
    {taken : AtomicEvent P Thread} (member : taken ∈ event.effects) {told : BusEvent P Thread}
    (agrees : taken.Agrees told) : told.KeepsBoxes := by
  cases agrees with
  | frame | gaveUp => trivial
  | called thread op agrees =>
      intro application
      rw [eq_called_of_mem_effects application member] at keeps
      exact keeps application

/-- The bus that the threads have been carrying out since it was at `start`. -/
structure Carrying (k : Fin maxPipes) (start : Bus P) (trace : List (ConcurrentEvent P Thread))
    (threads : Concurrent P Thread) (state : PipeTbl P × Socket) (bus : Bus P) (count : Nat)
    (events : List (BusEvent P Thread)) : Prop where
  linked : Linked threads state
  onBus : OnBus state bus
  agreed : List.Forall₂ AtomicEvent.Agrees (trace.flatMap ConcurrentEvent.effects) events
  delivered : Delivered k start count events bus

variable [DecidableEq Thread] {threads later : Concurrent P Thread}
  {trace : List (ConcurrentEvent P Thread)} {state : PipeTbl P × Socket}

theorem Carrying.step (layout : SbnLayout P) (format : DefaultFormat P)
    (carrying : Carrying k start trace threads state bus count events)
    {event : ConcurrentEvent P Thread} (step : threads.Step event later)
    (preserves : threads.Preserves k event) :
    ∃ state bus count events, Carrying k start (trace ++ [event]) later state bus count events := by
  obtain ⟨final, run, linked⟩ := carrying.linked.step step preserves.proper
  have effects : (trace ++ [event]).flatMap ConcurrentEvent.effects =
      trace.flatMap ConcurrentEvent.effects ++ event.effects := by
    rw [List.flatMap_append, List.flatMap_singleton]
  rcases effects_cases event with none | ⟨taken, single⟩
  · rw [none] at run
    rw [none, List.append_nil] at effects
    obtain rfl := run.eq_of_nil
    exact ⟨_, bus, count, events, linked, carrying.onBus, effects ▸ carrying.agreed,
      carrying.delivered⟩
  · have member : taken ∈ event.effects := by
      rw [single]
      exact List.mem_singleton_self taken
    rw [single] at run effects
    obtain ⟨told, after, stepped, agrees, onBus⟩ := carrying.onBus.step layout format
      run.step_of_single (preserves.calm.effects taken member)
    have room : ∀ status, told = .frame status → bus.boxes.HasRoom k := by
      rintro status rfl
      cases agrees with
      | frame =>
          have hasRoom := preserves.room
          rw [eq_turned_of_mem_effects member, Concurrent.HasRoom, ← carrying.linked.tbl_eq]
            at hasRoom
          exact carrying.onBus.refines.hasRoom hasRoom
    obtain ⟨more, delivered⟩ := carrying.delivered.step stepped
      (keepsBoxes_of_agrees preserves.keeps member agrees) room
    refine ⟨final, after, more, events ++ [told], linked, onBus, ?_, delivered⟩
    rw [effects]
    exact List.rel_append carrying.agreed (.cons agrees .nil)

/-! ## Runs -/

theorem exists_carrying (layout : SbnLayout P) (format : DefaultFormat P)
    (linked : Linked threads state) (onBus : OnBus state bus)
    (run : Machine.Run (Machine.Guarded Concurrent.Step (Concurrent.Preserves k)) threads trace
      later) :
    ∃ state after count events, Carrying k bus trace later state after count events := by
  have preserves : ∀ trace (threads : Concurrent P Thread) event later,
      (∃ state after count events, Carrying k bus trace threads state after count events) →
      Machine.Guarded Concurrent.Step (Concurrent.Preserves k) threads event later →
      ∃ state after count events,
        Carrying k bus (trace ++ [event]) later state after count events := by
    rintro trace threads event later ⟨state, after, count, events, carrying⟩ guarded
    exact carrying.step layout format guarded.1 guarded.2
  exact @Machine.Run.invariant _ _ _ _ (fun trace later => ∃ state after count events,
    Carrying k bus trace later state after count events)
    ⟨state, bus, 0, [], linked, onBus, .nil, delivered_start k bus⟩ preserves _ _ run

/-- The messages that the mailbox takes are those for which the pipe is the first subscriber. -/
theorem Refines.takes_eq {tbl : PipeTbl P} (refines : Refines tbl boxes) :
    boxes.takes k = fun payload => decide (FirstSubscriber tbl (Mailboxes.msgId P payload) k) := by
  funext payload
  rw [Mailboxes.takes, ← refines.route_eq]
  exact decide_eq_decide.mpr route_eq_some_iff_first

/-- A pipe in use carries what waits in its mailbox. -/
theorem Refines.carries {tbl : PipeTbl P} (refines : Refines tbl boxes)
    (used : (tbl k).inUse = inUse) : (tbl k).Carries (boxes.waiting k) := by
  obtain ⟨box, isBox⟩ := Option.ne_none_iff_exists'.mp ((refines.inUse_iff k).mp used)
  rw [Mailboxes.waiting, isBox]
  exact (refines.live isBox).2.2

/-- What waited in the pipe and what arrived for it are what has been handed out of it and what
waits in it now, in this order. -/
structure Passes (k : Fin maxPipes) (threads later : Concurrent P Thread)
    (trace : List (ConcurrentEvent P Thread)) (arrived waiting taken left : List (List UInt8)) :
    Prop where
  before : (threads.tbl k).Carries waiting
  after : (later.tbl k).Carries left
  shown : List.Forall₂ Shows (trace.flatMap (ConcurrentEvent.handedOut k)) taken
  flow : waiting ++ arrived.filter
    (fun payload => FirstSubscriber threads.tbl (Mailboxes.msgId P payload) k) = taken ++ left

theorem exists_passes (layout : SbnLayout P) (format : DefaultFormat P)
    (linked : Linked threads state) (onBus : OnBus state bus)
    (used : (threads.tbl k).inUse = inUse)
    (run : Machine.Run (Machine.Guarded Concurrent.Step (Concurrent.Preserves k)) threads trace
      later) :
    ∃ count waiting taken left,
      Passes k threads later trace (payloadsOf P count bus.stream) waiting taken left ∧
      (later.point = .outside →
        available later.socket = (decodeFrames P count bus.stream).2) := by
  obtain ⟨final, after, count, events, carrying⟩ := exists_carrying layout format linked onBus run
  have refines := onBus.refines
  rw [linked.tbl_eq] at refines
  have refinesLater := carrying.onBus.refines
  rw [carrying.linked.tbl_eq] at refinesLater
  have usedLater : (later.tbl k).inUse = inUse := by
    rw [refinesLater.inUse_iff]
    intro missing
    have same := congrFun carrying.delivered.subscriptions_eq k
    rw [Mailboxes.subscriptions, missing, Option.map_none] at same
    exact (refines.inUse_iff k).mp used (Option.map_eq_none_iff.mp same.symm)
  refine ⟨count, bus.boxes.waiting k, events.flatMap (BusEvent.handedOut k),
    after.boxes.waiting k, ⟨refines.carries used, refinesLater.carries usedLater, ?_, ?_⟩, ?_⟩
  · have handedOut := handedOut_agree carrying.agreed k
    rwa [List.flatMap_assoc] at handedOut
  · rw [← carrying.delivered.flow, refines.takes_eq]
  · intro outside
    rw [← carrying.onBus.stream_eq_of_outside carrying.linked outside,
      carrying.delivered.stream_eq]

/-- After any run of the threads, and from then on in any stretch in which no pipe is created,
deleted or subscribed and the pipe is not full when a message has been read, no message for the
pipe is lost: those that waited in it and those that are read for it are the ones that are handed
out of it and those that wait in it then, in this order, and there are no others. -/
theorem nothing_lost (layout : SbnLayout P) (format : DefaultFormat P) (initial : PipeTbl P)
    {socket : Socket} (ends : EndsInClose socket) (msgIds : HasMsgIds P (available socket))
    {earlier : List (ConcurrentEvent P Thread)}
    (prepared : Machine.Run (Machine.Guarded Concurrent.Step Concurrent.Proper)
      (.start (initPipeTbl initial) socket) earlier threads)
    (calm : ∀ event ∈ earlier, event.Calm) (used : (threads.tbl k).inUse = inUse)
    (run : Machine.Run (Machine.Guarded Concurrent.Step (Concurrent.Preserves k)) threads trace
      later) :
    ∃ first count waiting taken left,
      Passes k threads later trace
        (payloadsOf P count (decodeFrames P first (available socket)).2) waiting taken left ∧
      (threads.point = .outside →
        available threads.socket = (decodeFrames P first (available socket)).2) ∧
      (later.point = .outside →
        available later.socket = (decodeFrames P (first + count) (available socket)).2) := by
  obtain ⟨state, events, bus, linked, onBus, ran, -⟩ :=
    exists_bus_run layout format initial ends msgIds prepared calm
  obtain ⟨first, dealtOut⟩ := exists_dealtOut ran
  obtain ⟨count, waiting, taken, left, passes, rest⟩ :=
    exists_passes layout format linked onBus used run
  rw [dealtOut.stream_eq] at passes rest
  refine ⟨first, count, waiting, taken, left, passes, fun outside => ?_, fun outside => ?_⟩
  · rw [← onBus.stream_eq_of_outside linked outside, dealtOut.stream_eq]
  · rw [rest outside, decodeFrames_add]

/-- A pipe is created and subscribed to an id.  Then the receive minder reads the message of
`frameInPieces` while a thread waits for it. -/
theorem exists_preserving_run :
    ∃ (earlier trace : List (ConcurrentEvent (standardPlatform 64) Unit))
      (threads later : Concurrent (standardPlatform 64) Unit), trace.length = 12 ∧
      Machine.Run (Machine.Guarded Concurrent.Step Concurrent.Proper)
        (.start (initPipeTbl (zeroPipeTbl _)) frameInPieces) earlier threads ∧
      (∀ event ∈ earlier, event.Calm) ∧ (threads.tbl 0).inUse = inUse ∧
      threads.point = .outside ∧ threads.socket = frameInPieces ∧
      Machine.Run (Machine.Guarded Concurrent.Step (Concurrent.Preserves 0)) threads trace later ∧
      later.point = .outside ∧ available later.socket = [] := by
  have prepared := Machine.Run.refl
    |>.snoc (show Machine.Guarded Concurrent.Step Concurrent.Proper
        (.start (initPipeTbl (zeroPipeTbl (standardPlatform 64))) frameInPieces)
        (.called () (.createPipe true 4 [0x41]) _) _ from
        ⟨.managed () ⟨rfl, rfl⟩ trivial rfl, trivial⟩)
    |>.snoc (show Machine.Guarded Concurrent.Step _ _
        (.called () (.subscribe 0x0801 0 .complete) _) _ from
        ⟨.managed () ⟨rfl, rfl⟩ trivial rfl, trivial⟩)
  have goesOn {start threads : Concurrent (standardPlatform 64) Unit} {earlier}
      (_ : Machine.Run (Machine.Guarded Concurrent.Step Concurrent.Proper) start earlier threads) :
      Machine.Run (Machine.Guarded Concurrent.Step (Concurrent.Preserves 0)) threads [] threads :=
    .refl
  have run := goesOn prepared
    |>.snoc ⟨.recvCalled (zeroLocals _) rfl, trivial, trivial, trivial, trivial⟩
    |>.snoc ⟨.turned rfl, trivial, trivial, trivial, trivial⟩
    |>.snoc ⟨.turned rfl, trivial, trivial, trivial, trivial⟩
    |>.snoc ⟨.turned rfl, trivial, trivial, trivial, trivial⟩
    |>.snoc ⟨.turned rfl, trivial, trivial, trivial, trivial⟩
    |>.snoc (show Machine.Guarded Concurrent.Step _ _ (.looked () ⟨0, 0, -1, calmEnv _⟩) _ from
        ⟨.looked () ⟨rfl, rfl⟩ rfl, trivial, trivial, trivial, trivial⟩)
    |>.snoc ⟨.blocked () rfl rfl, trivial, trivial, trivial, trivial⟩
    |>.snoc ⟨.turned rfl, trivial, trivial, trivial, trivial⟩
    |>.snoc ⟨.turned rfl, trivial, trivial, trivial, show 1 ≠ maxPipeDepth by decide⟩
    |>.snoc ⟨.signalled rfl (.wakes () (.wake rfl)), trivial, trivial, trivial, trivial⟩
    |>.snoc ⟨.resumed () rfl rfl, fun _ => Nat.le_refl 2, ⟨rfl, rfl⟩, trivial, trivial⟩
    |>.snoc ⟨.recvReturned rfl, trivial, trivial, trivial, trivial⟩
  exact ⟨_, _, _, _, rfl, prepared, by simp [ConcurrentEvent.Calm, Op.Calm], rfl, rfl, rfl, run,
    rfl, rfl⟩

theorem frameInPieces_not_lost :
    ∃ (threads later : Concurrent (standardPlatform 64) Unit)
      (trace : List (ConcurrentEvent (standardPlatform 64) Unit)) (first count : Nat)
      (waiting taken left : List (List UInt8)), trace.length = 12 ∧
      Passes 0 threads later trace (payloadsOf (standardPlatform 64) count
        (decodeFrames (standardPlatform 64) first (available frameInPieces)).2)
        waiting taken left ∧
      (threads.point = .outside → available threads.socket =
        (decodeFrames (standardPlatform 64) first (available frameInPieces)).2) ∧
      (later.point = .outside → available later.socket =
        (decodeFrames (standardPlatform 64) (first + count) (available frameInPieces)).2) := by
  obtain ⟨earlier, trace, threads, later, length, prepared, calm, used, -, -, run, -⟩ :=
    exists_preserving_run
  have ends : EndsInClose frameInPieces := ⟨trivial, rfl⟩
  obtain ⟨first, count, waiting, taken, left, kept⟩ := nothing_lost
    (standardPlatform_sbnLayout (by decide)) (standardPlatform_defaultFormat 64) (zeroPipeTbl _)
    ends hasMsgIds_frameInPieces prepared calm used run
  exact ⟨threads, later, trace, first, count, waiting, taken, left, length, kept⟩

end SbnClient
