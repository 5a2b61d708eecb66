import SbnClient.Foundations.Dealing
import SbnClient.Mailboxes.Bus

/-!
# Messages are handed out in order, and once

The payloads that a peer sends are one stream.  Whatever the threads do, the payloads that are
handed out of a pipe are some of those of the stream, in their order, and no payload is handed
out twice, by the same pipe or by another one.
-/

namespace SbnClient

open Dealing SegmentedInput

variable {P : Platform} {Thread : Type*}

/-! ## What is handed out -/

/-- The call reads from the pipe at an index. -/
def Op.Reads (k : Fin maxPipes) : Op P → Prop
  | .rcvMsg _ pipeId _ _ => pipeId = indexId k
  | _ => False

instance (k : Fin maxPipes) : DecidablePred (Op.Reads (P := P) k)
  | .rcvMsg _ pipeId _ _ => inferInstanceAs (Decidable (pipeId = indexId k))
  | .createPipe .. | .deletePipe _ | .subscribe .. | .ingestAppMessage .. | .recvMsg .. =>
      .isFalse id

/-- The buffer that a call with this outcome hands out. -/
def Outcome.buffer? : Outcome P → Option (Buffer P.maxMessageSize)
  | .delivered .success buffer => buffer
  | _ => none

/-- The payload that it hands out. -/
def SpecOutcome.payload? : SpecOutcome → Option (List UInt8)
  | .delivered .success payload => payload
  | _ => none

/-- The buffers that a call hands out of the pipe at an index. -/
def AtomicEvent.handedOut (k : Fin maxPipes) :
    AtomicEvent P Thread → List (Buffer P.maxMessageSize)
  | .called _ op outcome => if op.Reads k then outcome.buffer?.toList else []
  | _ => []

/-- The buffers that a step of the threads hands out of the pipe at an index. -/
def ConcurrentEvent.handedOut (k : Fin maxPipes) (event : ConcurrentEvent P Thread) :
    List (Buffer P.maxMessageSize) :=
  event.effects.flatMap (AtomicEvent.handedOut k)

/-- The payloads that a step of the bus hands out of the mailbox at an index. -/
def BusEvent.handedOut (k : Fin maxPipes) : BusEvent P Thread → List (List UInt8)
  | .called _ op outcome => if op.Reads k then outcome.payload?.toList else []
  | _ => []

@[simp] theorem handedOut_frame (k : Fin maxPipes) (status : Status) :
    (BusEvent.frame status : BusEvent P Thread).handedOut k = [] := rfl

@[simp] theorem handedOut_gaveUp (k : Fin maxPipes) (thread : Thread) :
    (BusEvent.gaveUp thread : BusEvent P Thread).handedOut k = [] := rfl

theorem AtomicEvent.Agrees.handedOut {event : AtomicEvent P Thread} {told : BusEvent P Thread}
    (agrees : event.Agrees told) (k : Fin maxPipes) :
    List.Forall₂ Shows (event.handedOut k) (told.handedOut k) := by
  cases agrees with
  | frame => exact .nil
  | gaveUp => exact .nil
  | called thread op agrees =>
      rw [AtomicEvent.handedOut, BusEvent.handedOut]
      split
      · cases agrees with
        | message status shows =>
            cases status with
            | success => exact .cons shows .nil
            | _ => exact .nil
        | nothing status => cases status <;> exact .nil
        | _ => exact .nil
      · exact .nil

/-- What is handed out in a run, in the code and on the bus. -/
theorem handedOut_agree {effects : List (AtomicEvent P Thread)} {events : List (BusEvent P Thread)}
    (agreed : List.Forall₂ AtomicEvent.Agrees effects events) (k : Fin maxPipes) :
    List.Forall₂ Shows (effects.flatMap (AtomicEvent.handedOut k))
      (events.flatMap (BusEvent.handedOut k)) := by
  induction agreed with
  | nil => exact .nil
  | cons agrees _ ih =>
      rw [List.flatMap_cons, List.flatMap_cons]
      exact List.rel_append (agrees.handedOut k) ih

/-! ## What is still to be handed out -/

/-- What is in a mailbox, if it exists. -/
def Mailbox.waiting : Option (Mailbox P) → List (List UInt8)
  | some box => box.queue
  | none => []

/-- What is in the mailbox at an index. -/
def Mailboxes.waiting (boxes : Mailboxes P) (k : Fin maxPipes) : List (List UInt8) :=
  Mailbox.waiting (boxes k)

theorem waiting_update (boxes : Mailboxes P) (i : Fin maxPipes) (box : Option (Mailbox P)) :
    Mailboxes.waiting (Function.update boxes i box) =
      Function.update boxes.waiting i (Mailbox.waiting box) :=
  funext fun k => Function.apply_update (fun _ => Mailbox.waiting) boxes i box k

/-- A payload that arrives goes into one mailbox or into none. -/
theorem waiting_ingest (boxes : Mailboxes P) (payload : List UInt8) :
    (boxes.ingest payload).waiting = boxes.waiting ∨
      ∃ i, (boxes.ingest payload).waiting =
        Function.update boxes.waiting i (boxes.waiting i ++ [payload]) := by
  rw [Mailboxes.ingest]
  split
  next => exact .inl rfl
  next i found =>
    obtain ⟨box, exists_box, -⟩ := of_decide_eq_true (Fin.find?_eq_some_iff.mp found).1
    rw [exists_box, Option.map_some, waiting_update]
    split
    · refine .inr ⟨i, ?_⟩
      rw [Mailboxes.waiting, exists_box]
      rfl
    · refine .inl ?_
      rw [Function.update_eq_self_iff, Mailboxes.waiting, exists_box]

/-- A mailbox that loses payloads. -/
theorem waiting_update_sublist {boxes : Mailboxes P} {i : Fin maxPipes}
    (box : Option (Mailbox P)) (loses : (Mailbox.waiting box).Sublist (boxes.waiting i))
    (k : Fin maxPipes) :
    (Mailboxes.waiting (Function.update boxes i box) k).Sublist (boxes.waiting k) := by
  rw [waiting_update]
  by_cases same : k = i
  · subst same
    rwa [Function.update_self]
  · rw [Function.update_of_ne same]

/-- The mailbox that a call looks up. -/
theorem eq_of_lookup {boxes : Mailboxes P} {pipeId : UInt8} {i : Fin maxPipes} {box : Mailbox P}
    (found : boxes.lookup pipeId = some (i, box)) : pipeId = indexId i ∧ boxes i = some box := by
  obtain ⟨j, isIndex, exists_box⟩ := Option.bind_eq_some_iff.mp found
  obtain ⟨owned, isBox, same⟩ := Option.map_eq_some_iff.mp exists_box
  cases same
  exact ⟨(of_decide_eq_true (Fin.find?_eq_some_iff.mp isIndex).1).symm, isBox⟩

theorem waiting_of_lookup {boxes : Mailboxes P} {pipeId : UInt8} {i : Fin maxPipes}
    {box : Mailbox P} (found : boxes.lookup pipeId = some (i, box)) :
    pipeId = indexId i ∧ boxes.waiting i = box.queue := by
  obtain ⟨isId, isBox⟩ := eq_of_lookup found
  refine ⟨isId, ?_⟩
  rw [Mailboxes.waiting, isBox]
  rfl

/-- The calls that manage pipes put no payload into a mailbox. -/
theorem waiting_apply_of_application (boxes : Mailboxes P) (op : Op P)
    (application : op.OfApplication) (k : Fin maxPipes) :
    ((boxes.apply op).1.waiting k).Sublist (boxes.waiting k) := by
  cases op with
  | createPipe pipeIdPtr depth pipeName =>
      rw [Mailboxes.apply]
      split
      next => exact .refl _
      next =>
        split
        next => exact .refl _
        next =>
          rw [Mailboxes.create]
          split
          next => exact .refl _
          next => exact waiting_update_sublist (some ⟨_, []⟩) (List.nil_sublist _) k
  | deletePipe pipeId =>
      rw [Mailboxes.apply, Mailboxes.delete]
      split
      next => exact waiting_update_sublist none (List.nil_sublist _) k
      next => exact .refl _
  | subscribe msgId pipeId outcome =>
      rw [Mailboxes.apply, Mailboxes.subscribe]
      split
      next => exact .refl _
      next i box found =>
        split
        next => exact .refl _
        next slot free =>
          refine waiting_update_sublist _ ?_ k
          rw [(waiting_of_lookup found).2]
          exact .refl _
  | ingestAppMessage | recvMsg | rcvMsg => exact application.elim

/-- A read finds nothing, or takes the front of a mailbox. -/
theorem receive_cases (boxes : Mailboxes P) (pipeId : UInt8) :
    (∃ status, boxes.receive pipeId = (boxes, .delivered status none)) ∨
      ∃ i box payload queue, boxes.lookup pipeId = some (i, box) ∧ box.queue = payload :: queue ∧
        boxes.receive pipeId = (Function.update boxes i (some { box with queue }),
          .delivered .success (some payload)) := by
  rw [Mailboxes.receive]
  split
  next => exact .inl ⟨_, rfl⟩
  next i box found =>
    split
    next => exact .inl ⟨_, rfl⟩
    next payload queue isQueue => exact .inr ⟨i, box, payload, queue, found, isQueue, rfl⟩

/-- A read hands out what it takes from the front of its mailbox. -/
theorem payload_append_waiting_receive (boxes : Mailboxes P) (pipeId : UInt8) (k : Fin maxPipes) :
    (if pipeId = indexId k then (boxes.receive pipeId).2.payload?.toList else []) ++
      (boxes.receive pipeId).1.waiting k = boxes.waiting k := by
  rcases receive_cases boxes pipeId with
    ⟨status, nothing⟩ | ⟨i, box, payload, queue, found, isQueue, taken⟩
  · rw [nothing]
    split <;> cases status <;> rfl
  · obtain ⟨rfl, waits⟩ := waiting_of_lookup found
    rw [taken, waiting_update]
    by_cases same : k = i
    · subst same
      rw [if_pos rfl, Function.update_self, waits, isQueue]
      rfl
    · have other : indexId i ≠ indexId k := fun equal => same (indexId_injective equal).symm
      rw [if_neg other, Function.update_of_ne same, List.nil_append]

/-- So does a `RcvMsg` call. -/
theorem handedOut_append_waiting_rcvMsg (boxes : Mailboxes P) (thread : Thread) (bufPtr : Bool)
    (pipeId : UInt8) (timeOut : Int) (env : RcvEnv P) (k : Fin maxPipes) :
    let received := boxes.apply (.rcvMsg bufPtr pipeId timeOut env)
    (BusEvent.called thread (.rcvMsg bufPtr pipeId timeOut env) received.2).handedOut k ++
      received.1.waiting k = boxes.waiting k := by
  simp only [Mailboxes.apply]
  split
  next =>
    rw [BusEvent.handedOut]
    split <;> rfl
  next => exact payload_append_waiting_receive boxes pipeId k

/-- A call takes payloads out of mailboxes only, and hands out only what it takes. -/
theorem handedOut_append_waiting_apply (boxes : Mailboxes P) (thread : Thread) {op : Op P}
    (ofThread : op.OfThread) (k : Fin maxPipes) :
    ((BusEvent.called thread op (boxes.apply op).2).handedOut k ++
      (boxes.apply op).1.waiting k).Sublist (boxes.waiting k) := by
  cases op with
  | createPipe pipeIdPtr depth pipeName =>
      exact waiting_apply_of_application boxes (.createPipe ..) trivial k
  | deletePipe pipeId => exact waiting_apply_of_application boxes (.deletePipe _) trivial k
  | subscribe msgId pipeId outcome =>
      exact waiting_apply_of_application boxes (.subscribe ..) trivial k
  | ingestAppMessage | recvMsg => exact ofThread.elim
  | rcvMsg bufPtr pipeId timeOut env =>
      rw [handedOut_append_waiting_rcvMsg]

/-! ## Runs -/

/-- The payloads of the app messages among so many messages of a stream. -/
def payloadsOf (P : Platform) (count : Nat) (stream : List UInt8) : List (List UInt8) :=
  (decodeFrames P count stream).1.flatMap fun decoded =>
    decoded.payload.toList.map Payload.bytes

/-- One message more. -/
theorem decodeFrames_succ (count : Nat) (stream : List UInt8) :
    decodeFrames P (count + 1) stream =
      ((decodeFrames P count stream).1 ++ [decodeFrame P (decodeFrames P count stream).2],
        (decodeFrame P (decodeFrames P count stream).2).rest) := by
  induction count generalizing stream with
  | zero => rfl
  | succ count ih =>
      rw [decodeFrames, ih]
      rfl

theorem decodeFrames_add (first count : Nat) (stream : List UInt8) :
    (decodeFrames P count (decodeFrames P first stream).2).2 =
      (decodeFrames P (first + count) stream).2 := by
  induction count with
  | zero => rfl
  | succ count ih => rw [← Nat.add_assoc, decodeFrames_succ, decodeFrames_succ, ih]

theorem payloadsOf_succ (count : Nat) (stream : List UInt8) :
    payloadsOf P (count + 1) stream = payloadsOf P count stream ++
      (decodeFrame P (decodeFrames P count stream).2).payload.toList.map Payload.bytes := by
  rw [payloadsOf, decodeFrames_succ, List.flatMap_append, List.flatMap_singleton]
  rfl

/-- The bus has taken so many messages off the stream, and they have been dealt to the pipes:
what a pipe has handed out and what it still holds. -/
structure DealtOut (stream : List UInt8) (count : Nat) (events : List (BusEvent P Thread))
    (bus : Bus P) : Prop where
  stream_eq : bus.stream = (decodeFrames P count stream).2
  dealt : Dealt (payloadsOf P count stream) fun k =>
    events.flatMap (BusEvent.handedOut k) ++ bus.boxes.waiting k

variable {stream : List UInt8} {count : Nat} {events : List (BusEvent P Thread)} {bus after : Bus P}

theorem DealtOut.step (dealtOut : DealtOut stream count events bus) {event : BusEvent P Thread}
    (step : bus.Step event after) : ∃ count, DealtOut stream count (events ++ [event]) after := by
  have dealt := dealtOut.dealt
  cases step with
  | frame =>
      refine ⟨count + 1, ?_, ?_⟩
      · rw [decodeFrames_succ, dealtOut.stream_eq]
      · simp only [List.flatMap_append, List.flatMap_singleton, handedOut_frame, List.append_nil]
        rw [payloadsOf_succ, ← dealtOut.stream_eq]
        cases (decodeFrame P bus.stream).payload with
        | none => simpa [Mailboxes.arrive] using dealt
        | some payload =>
            rcases waiting_ingest bus.boxes payload.bytes with same | ⟨i, routed⟩
            · simp only [Mailboxes.arrive, same]
              exact dealt.skip payload.bytes
            · refine dealt.deal (i := i) ?_ fun k other => ?_
              · simp only [Mailboxes.arrive, routed, Function.update_self, List.append_assoc]
              · simp only [Mailboxes.arrive, routed, Function.update_of_ne other]
  | called thread ofThread =>
      refine ⟨count, dealtOut.stream_eq, dealt.lose fun k => ?_⟩
      rw [List.flatMap_append, List.flatMap_singleton, List.append_assoc]
      exact (List.Sublist.refl _).append
        (handedOut_append_waiting_apply bus.boxes thread ofThread k)
  | gaveUp thread =>
      refine ⟨count, dealtOut.stream_eq, ?_⟩
      simpa only [List.flatMap_append, List.flatMap_singleton, handedOut_gaveUp,
        List.append_nil] using dealt

/-- Every run of the bus deals out its stream. -/
theorem exists_dealtOut (run : Machine.Run Bus.Step ⟨.empty, stream⟩ events bus) :
    ∃ count, DealtOut stream count events bus := by
  have initially : DealtOut stream 0 ([] : List (BusEvent P Thread)) ⟨.empty, stream⟩ :=
    ⟨rfl, Dealt.empty⟩
  have preserves : ∀ events (bus : Bus P) (event : BusEvent P Thread) after,
      (∃ count, DealtOut stream count events bus) → bus.Step event after →
      ∃ count, DealtOut stream count (events ++ [event]) after :=
    fun _ _ _ _ dealtOut step => dealtOut.elim fun _ dealtOut => dealtOut.step step
  exact run.invariant ⟨0, initially⟩ preserves

/-- The buffers that the threads get show what has been dealt out. -/
theorem DealtOut.exists_payloads (dealtOut : DealtOut stream count events bus)
    {trace : List (ConcurrentEvent P Thread)}
    (agreed : List.Forall₂ AtomicEvent.Agrees (trace.flatMap ConcurrentEvent.effects) events) :
    ∃ payloads,
      (∀ k, List.Forall₂ Shows (trace.flatMap (ConcurrentEvent.handedOut k)) (payloads k)) ∧
      Dealt (payloadsOf P count stream) payloads := by
  refine ⟨fun k => events.flatMap (BusEvent.handedOut k), fun k => ?_,
    dealtOut.dealt.lose fun k => List.sublist_append_left ..⟩
  have handedOut := handedOut_agree agreed k
  rwa [List.flatMap_assoc] at handedOut

/-- In every run of all threads, on any bytes in any segments, the buffers that the threads get
from a pipe show payloads of the stream in the order in which the peer sent them, and none of
them is handed out twice, by the same pipe or by another, to the same thread or to another.
Between two `recv_msg` calls the messages that have been dealt out are those that have been
read. -/
theorem handed_out_in_order [DecidableEq Thread] (layout : SbnLayout P)
    (format : DefaultFormat P) (initial : PipeTbl P) {socket : Socket} (ends : EndsInClose socket)
    (msgIds : HasMsgIds P (available socket)) {trace : List (ConcurrentEvent P Thread)}
    {threads : Concurrent P Thread}
    (run : Machine.Run (Machine.Guarded Concurrent.Step Concurrent.Proper)
      (.start (initPipeTbl initial) socket) trace threads)
    (calm : ∀ event ∈ trace, event.Calm) :
    ∃ count payloads,
      (∀ k, List.Forall₂ Shows (trace.flatMap (ConcurrentEvent.handedOut k)) (payloads k)) ∧
      Dealt (payloadsOf P count (available socket)) payloads ∧
      (threads.point = .outside →
        available threads.socket = (decodeFrames P count (available socket)).2) := by
  obtain ⟨state, events, bus, linked, onBus, ran, agreed⟩ :=
    exists_bus_run layout format initial ends msgIds run calm
  obtain ⟨count, dealtOut⟩ := exists_dealtOut ran
  obtain ⟨payloads, shown, dealt⟩ := dealtOut.exists_payloads agreed
  refine ⟨count, payloads, shown, dealt, fun outside => ?_⟩
  rw [← onBus.stream_eq_of_outside linked outside, dealtOut.stream_eq]

/-- What the threads of `exists_midFrame_run` get. -/
theorem midFrame_handed_out :
    ∃ (trace : List (ConcurrentEvent (standardPlatform 64) Unit))
      (threads : Concurrent (standardPlatform 64) Unit) (count : Nat)
      (payloads : Fin maxPipes → List (List UInt8)), trace.length = 14 ∧
      (∀ k, List.Forall₂ Shows (trace.flatMap (ConcurrentEvent.handedOut k)) (payloads k)) ∧
      Dealt (payloadsOf (standardPlatform 64) count (available frameInPieces)) payloads ∧
      (threads.point = .outside → available threads.socket =
        (decodeFrames (standardPlatform 64) count (available frameInPieces)).2) := by
  obtain ⟨trace, threads, length, run⟩ := exists_midFrame_run
  have ends : EndsInClose frameInPieces := ⟨trivial, rfl⟩
  obtain ⟨count, payloads, handedOut⟩ := handed_out_in_order
    (standardPlatform_sbnLayout (by decide)) (standardPlatform_defaultFormat 64) (zeroPipeTbl _)
    ends hasMsgIds_frameInPieces (run.mono fun _ _ _ guarded => ⟨guarded.1, guarded.2.1⟩)
    (run.each fun _ _ _ guarded => guarded.2.2)
  exact ⟨trace, threads, count, payloads, length, handedOut⟩

end SbnClient
