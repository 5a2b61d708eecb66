import SbnClient.Model.Reconnecting
import SbnClient.Registry.AcrossThreads
import SbnClient.Registry.Answers

/-!
# The registry under all threads and connections

However often and whenever `SBN_Client_Init` is called, and whatever the minders and the threads
are doing then, the table is that of the calls made since the last connection, except for the
counters.  Nothing is assumed of the run: a pipe may be deleted or the table initialised while a
`RcvMsg` call waits, two minders may share the bytes of one frame, and a wait may end without a
message.
-/

namespace SbnClient

variable {P : Platform} {Minder Thread : Type*} {tbl : PipeTbl P} {history : History P}

/-- The calls since the last connection, after one step more. -/
def ReconnectingEvent.since (history : History P) :
    ReconnectingEvent P Minder Thread → History P
  | .connected env => if connectToServer env < 0 then history else []
  | .took _ event => history ++ event.call?.toList

/-- The calls of the application since the last connection, in the order in which they took
effect. -/
def callsSinceConnect (trace : List (ReconnectingEvent P Minder Thread)) : History P :=
  trace.foldl ReconnectingEvent.since []

/-- An id that the code can look up. -/
def Op.InTable : Op P → Prop
  | .subscribe _ pipeId _ => pipeId.toNat < maxPipes
  | _ => True

/-- What holds of the client in every run. -/
structure Reconnecting.Consistent (history : History P)
    (client : Reconnecting P Minder Thread) : Prop where
  recorded : Recorded history (withoutCounters client.tbl)
  inRange : ∀ minder, client.points minder = .outside ∨ (client.points minder).InRange

variable [DecidableEq Minder] [DecidableEq Thread] {client after : Reconnecting P Minder Thread}
  {socket : Socket} {trace : List (ReconnectingEvent P Minder Thread)}

theorem Reconnecting.Consistent.step (consistent : client.Consistent history)
    {event : ReconnectingEvent P Minder Thread} (step : client.Step event after) :
    after.Consistent (event.since history) := by
  cases step with
  | connected env socket =>
      refine ⟨?_, consistent.inRange⟩
      simp only [ReconnectingEvent.since]
      split
      · exact consistent.recorded
      · exact recorded_initPipeTbl client.tbl
  | took minder step =>
      have seen : SbnClient.Consistent history (client.beside minder) :=
        ⟨consistent.recorded, consistent.inRange minder⟩
      have next := seen.step step
      refine ⟨next.recorded, fun other => ?_⟩
      by_cases same : other = minder
      · subst same
        simpa only [Reconnecting.put, Function.update_self] using next.inRange
      · simpa only [Reconnecting.put, Function.update_of_ne same] using consistent.inRange other

theorem reconnecting_consistent_run (initial : PipeTbl P)
    (run : Machine.Run Reconnecting.Step (.start (initPipeTbl initial) socket) trace client) :
    client.Consistent (callsSinceConnect trace) := by
  have initially : (Reconnecting.start (initPipeTbl initial) socket :
      Reconnecting P Minder Thread).Consistent [] :=
    ⟨recorded_initPipeTbl initial, fun _ => .inl rfl⟩
  have preserves : ∀ trace (client : Reconnecting P Minder Thread) event after,
      client.Consistent (callsSinceConnect trace) → client.Step event after →
      after.Consistent (callsSinceConnect (trace ++ [event])) := by
    intro trace client event after consistent step
    rw [callsSinceConnect, List.foldl_append]
    exact consistent.step step
  exact @Machine.Run.invariant _ _ _ _ (fun trace client =>
    client.Consistent (callsSinceConnect trace)) initially preserves _ _ run

/-- In every run at all, with any number of minders and with the client initialised again at any
time, nobody comes to undefined behaviour with an id below the number of pipes: no receive minder,
no call that manages pipes and no `RcvMsg` call.  And the ids of pipes are those that `CreatePipe`
has returned since the last connection and `DeletePipe` has not ended since. -/
theorem threads_never_undefined (initial : PipeTbl P)
    (run : Machine.Run Reconnecting.Step (.start (initPipeTbl initial) socket) trace client) :
    (∀ minder, (client.points minder).Busy → ∃ turn, recvTurn client.tbl
      (client.sockets (client.reads minder)) (client.points minder) = some turn) ∧
    (∀ op : Op P, op.OfApplication → op.InTable → ∃ result, applyOp client.tbl op = some result) ∧
    (∀ bufPtr pipeId timeOut, pipeId.toNat < maxPipes →
      ∃ found, rcvLookup client.tbl bufPtr pipeId timeOut = some found) ∧
    ∀ pipeId, (deletePipe client.tbl pipeId).2 = .success ↔
      Owned (callsSinceConnect trace) pipeId := by
  have consistent := reconnecting_consistent_run initial run
  have answers := consistent.recorded.answers.of_withoutCounters
  refine ⟨fun minder busy => ?_, fun op application inTable => ?_,
    fun bufPtr pipeId timeOut inTable => ?_, answers.deleted⟩
  · have inside : client.points minder ≠ .outside := by
      intro outside
      rw [outside] at busy
      exact busy
    exact exists_recvTurn busy ((consistent.inRange minder).resolve_left inside) _ _
  · cases op with
    | createPipe | deletePipe => exact ⟨_, rfl⟩
    | subscribe msgId pipeId outcome =>
        obtain ⟨next, status, written, subscribed, -⟩ :=
          answers.subscribed msgId pipeId outcome inTable
        exact ⟨_, by rw [applyOp, subscribed]; rfl⟩
    | ingestAppMessage | recvMsg | rcvMsg => exact application.elim
  · obtain ⟨found, looked, -⟩ := answers.looked bufPtr pipeId timeOut inTable
    exact ⟨found, looked⟩

/-- Two minders share the bytes of one frame.  The client is initialised again while a call waits
for a pipe, and the call is woken and takes a message from the entry all the same. -/
theorem exists_initialised_while_waiting_run :
    ∃ (trace : List (ReconnectingEvent (standardPlatform 64) Bool Unit))
      (client : Reconnecting (standardPlatform 64) Bool Unit), trace.length = 10 ∧
      (client.tbl 0).numberOfMessages = 0 ∧
      Machine.Run Reconnecting.Step (.start (initPipeTbl (zeroPipeTbl _)) frameInPieces) trace
        client := by
  have run := Machine.Run.refl
    |>.snoc (show Reconnecting.Step
        (.start (initPipeTbl (zeroPipeTbl (standardPlatform 64))) frameInPieces)
        (.took true (.called () (.createPipe true 4 [0x41]) _)) _ from
        .took true (.managed () ⟨rfl, rfl⟩ trivial rfl))
    |>.snoc (.took true (.recvCalled (zeroLocals _) rfl))
    |>.snoc (.took true (.turned rfl))
    |>.snoc (.took false (.recvCalled (zeroLocals _) rfl))
    |>.snoc (.took false (.turned rfl))
    |>.snoc (show Reconnecting.Step _ (.took true (.looked () ⟨0, 0, -1, calmEnv _⟩)) _ from
        .took true (.looked () ⟨rfl, rfl⟩ rfl))
    |>.snoc (.took true (.blocked () rfl rfl))
    |>.snoc (.connected ⟨5, 1, 0⟩ [])
    |>.snoc (show Reconnecting.Step _ (.took true (.woke () 0)) _ from
        .took true (.woke () (.wake rfl)))
    |>.snoc (.took true (.resumed () rfl rfl))
  exact ⟨_, _, rfl, rfl, run⟩

/-- Nobody comes to undefined behaviour in that run. -/
theorem initialised_while_waiting_defined :
    ∃ (trace : List (ReconnectingEvent (standardPlatform 64) Bool Unit))
      (client : Reconnecting (standardPlatform 64) Bool Unit), trace.length = 10 ∧
      (client.tbl 0).numberOfMessages = 0 ∧
      (∀ minder, (client.points minder).Busy → ∃ turn, recvTurn client.tbl
        (client.sockets (client.reads minder)) (client.points minder) = some turn) ∧
      (∀ op : Op _, op.OfApplication → op.InTable →
        ∃ result, applyOp client.tbl op = some result) ∧
      (∀ bufPtr pipeId timeOut, pipeId.toNat < maxPipes →
        ∃ found, rcvLookup client.tbl bufPtr pipeId timeOut = some found) ∧
      ∀ pipeId, (deletePipe client.tbl pipeId).2 = .success ↔
        Owned (callsSinceConnect trace) pipeId := by
  obtain ⟨trace, client, length, taken, run⟩ := exists_initialised_while_waiting_run
  exact ⟨trace, client, length, taken, threads_never_undefined (zeroPipeTbl _) run⟩

/-- Beside one minder that reads from the current socket, the threads take their steps as if there
was no other one. -/
theorem exists_run_beside {start : Reconnecting P Minder Thread}
    (before : Machine.Run Reconnecting.Step start trace client) {minder : Minder}
    (reads : client.reads minder = client.current) {begun threads : Concurrent P Thread}
    (seen : client.beside minder = begun) {events : List (ConcurrentEvent P Thread)}
    (run : Machine.Run Concurrent.Step begun events threads) :
    ∃ final : Reconnecting P Minder Thread,
      Machine.Run Reconnecting.Step start (trace ++ events.map (.took minder)) final ∧
      final.beside minder = threads ∧ final.reads minder = final.current := by
  induction run with
  | refl => exact ⟨client, by rwa [List.map_nil, List.append_nil], seen, reads⟩
  | @snoc events threads next event _ step ih =>
      obtain ⟨final, ran, beside, same⟩ := ih
      rw [← beside] at step
      have stays : (final.put minder next).reads minder = final.current := by
        simp only [Reconnecting.reads, Reconnecting.put, Function.update_self]
        split
        next => rfl
        next => exact same
      refine ⟨final.put minder next, ?_, ?_, stays⟩
      · rw [List.map_append, ← List.append_assoc]
        exact ran.snoc (.took minder step)
      · rw [Reconnecting.beside, stays]
        simp [Reconnecting.put, same]

/-- A receive minder that has read a whole app message puts it into the first pipe that has been
created since the last connection and subscribed to its id since then, unless that pipe is full,
and drops it where there is none: in every run at all, the calls that have taken effect since the
connection decide it, whatever other threads and minders did while the message was read, and also
for a message that was read from an earlier connection.  The id of free slots is left aside. -/
theorem routed_by_calls (initial : PipeTbl P)
    (run : Machine.Run Reconnecting.Step (.start (initPipeTbl initial) socket) trace client)
    {minder : Minder} {msgSz : UInt16} {msgBuffer : Buffer P.maxMessageSize}
    (point : client.points minder = .enqueueing msgSz msgBuffer)
    (proper : getMsgId P msgBuffer.bytes ≠ invalidMsgId) :
    ∃ (payload : Payload P) (next : PipeTbl P) (result : IngestResult),
      payload.bytes = msgBuffer.read msgSz.toNat ∧
      (∀ unread, recvTurn client.tbl unread (client.points minder) =
        some (next, unread, result.point)) ∧
      RoutedByCalls (callsSinceConnect trace) (getMsgId P msgBuffer.bytes) payload client.tbl next
        result := by
  have consistent := reconnecting_consistent_run initial run
  have inRange : (RecvPoint.enqueueing msgSz msgBuffer).InRange := by
    rw [← point]
    exact (consistent.inRange minder).resolve_left (by simp [point])
  obtain ⟨payload, whole, enqueued⟩ := exists_enqueueMessage inRange client.tbl
  refine ⟨payload, _, _, whole, fun unread => ?_,
    @routedByCalls _ client.tbl _ _ (fun _ => consistent.recorded.enlisted_iff proper)
      (fun _ => consistent.recorded.owned_iff) payload⟩
  rw [point, recvTurn, enqueued]
  rfl

/-- After a second connection, a pipe subscribes to the id while the header of the frame is
read. -/
theorem subscribed_after_connect_routed :
    ∃ (trace : List (ReconnectingEvent (standardPlatform 64) Unit Unit))
      (client : Reconnecting (standardPlatform 64) Unit Unit) (msgBuffer : Buffer 64),
      client.points () = .enqueueing 7 msgBuffer ∧
      ∃ (payload : Payload (standardPlatform 64)) (next : PipeTbl (standardPlatform 64))
        (result : IngestResult), payload.bytes = msgBuffer.read 7 ∧
        (∀ unread, recvTurn client.tbl unread (client.points ()) =
          some (next, unread, result.point)) ∧
        RoutedByCalls (callsSinceConnect trace) (getMsgId (standardPlatform 64) msgBuffer.bytes)
          payload client.tbl next result := by
  have connected := Machine.Run.refl
    |>.snoc (show Reconnecting.Step (.start (initPipeTbl (zeroPipeTbl (standardPlatform 64))) [])
        (.took () (.called () (.createPipe true 4 [0x41]) _)) _ from
        .took () (.managed () ⟨rfl, rfl⟩ trivial rfl))
    |>.snoc (.connected ⟨5, 1, 0⟩ frameInPieces)
  let opened := (createPipe (initPipeTbl (zeroPipeTbl (standardPlatform 64))) true 4 [0x41]).tbl
  have reading := Machine.Run.refl
    |>.snoc (show Concurrent.Step (.start (initPipeTbl opened) frameInPieces)
        (.called () (.createPipe true 4 [0x41]) _) _ from .managed () ⟨rfl, rfl⟩ trivial rfl)
    |>.snoc (.recvCalled (zeroLocals _) rfl)
    |>.snoc (.turned rfl)
    |>.snoc (show Concurrent.Step _ (.called () (.subscribe 0x0801 0 .complete) _) _ from
        .managed () ⟨rfl, rfl⟩ trivial rfl)
    |>.snoc (.turned rfl)
    |>.snoc (.turned rfl)
    |>.snoc (.turned rfl)
    |>.snoc (.turned rfl)
  obtain ⟨client, run, beside, -⟩ := @exists_run_beside _ _ _ _ _ _ _ _ connected () rfl _ _ rfl _
    reading
  have point : client.points () = .enqueueing 7 _ := congrArg Concurrent.point beside
  exact ⟨_, client, _, point, routed_by_calls (zeroPipeTbl _) run point
    (by decide)⟩

end SbnClient
