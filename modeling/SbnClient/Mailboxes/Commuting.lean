import SbnClient.Foundations.Commuting
import SbnClient.Mailboxes.Depth
import SbnClient.Mailboxes.Held

/-!
# Calls that commute

The receive thread and an application thread take turns in an order that nobody controls.  A
message acts on the pipe that it is routed to, and a `RcvMsg` call that does not wait on its
own, so that the order matters only where the two are the same pipe, and there only at its
limits: where the ring is full, or where the message is the one to be delivered.
-/

namespace SbnClient

open Machine RetainedRing SegmentedInput

variable {P : Platform} {tbl : PipeTbl P} {i k : Fin maxPipes} {pipe : PipeD P}
  {bufPtr : Bool} {timeOut : Int} {env : RcvEnv P}

/-! ## What a call does to its pipe -/

/-- A message that is routed to the pipe. -/
def ingestAct (i : Fin maxPipes) (payload : Payload P) (pipe : PipeD P) : PipeD P × Outcome P :=
  if pipe.numberOfMessages = maxPipeDepth then (pipe, .ingested (.pipeOverflow i))
  else (pushMessage pipe payload, .ingested (.received i))

/-- What the caller of `RcvMsg` learns. -/
def receiveOutcome (k : Fin maxPipes) (bufPtr : Bool) (timeOut : Int) (env : RcvEnv P)
    (pipe : PipeD P) : Outcome P :=
  let act := receiveAct k bufPtr timeOut env pipe
  .delivered act.2.1 (act.2.2.bind (MsgPtr.deref fun _ => act.1))

theorem inUse_ingestAct (i : Fin maxPipes) (payload : Payload P) (pipe : PipeD P) :
    (ingestAct i payload pipe).1.inUse = pipe.inUse := by
  rw [ingestAct]
  split <;> rfl

theorem subscribedMsgIds_ingestAct (i : Fin maxPipes) (payload : Payload P) (pipe : PipeD P) :
    (ingestAct i payload pipe).1.subscribedMsgIds = pipe.subscribedMsgIds := by
  rw [ingestAct]
  split <;> rfl

theorem inUse_receiveAct (k : Fin maxPipes) (bufPtr : Bool) (timeOut : Int) (env : RcvEnv P)
    (pipe : PipeD P) : (receiveAct k bufPtr timeOut env pipe).1.inUse = pipe.inUse := by
  have ended := receiveEnd_receiveAct k bufPtr timeOut env pipe
  generalize receiveAct k bufPtr timeOut env pipe = act at ended ⊢
  cases ended <;> rfl

theorem subscribedMsgIds_receiveAct (k : Fin maxPipes) (bufPtr : Bool) (timeOut : Int)
    (env : RcvEnv P) (pipe : PipeD P) :
    (receiveAct k bufPtr timeOut env pipe).1.subscribedMsgIds = pipe.subscribedMsgIds := by
  have ended := receiveEnd_receiveAct k bufPtr timeOut env pipe
  generalize receiveAct k bufPtr timeOut env pipe = act at ended ⊢
  cases ended <;> rfl

/-- A stored pointer points into the pipe of the call. -/
theorem deref_receiveAct {other : PipeTbl P}
    (atPipe : other k = (receiveAct k bufPtr timeOut env pipe).1) :
    (receiveAct k bufPtr timeOut env pipe).2.2.bind (MsgPtr.deref other) =
      (receiveAct k bufPtr timeOut env pipe).2.2.bind
        (MsgPtr.deref fun _ => (receiveAct k bufPtr timeOut env pipe).1) := by
  have ended := receiveEnd_receiveAct k bufPtr timeOut env pipe
  generalize receiveAct k bufPtr timeOut env pipe = act at ended atPipe ⊢
  cases ended with
  | refused failed => rfl
  | kept failed => rfl
  | hidden used available stuck => rfl
  | took used available unlocked =>
      rw [Option.bind_some, Option.bind_some, MsgPtr.deref, MsgPtr.deref, atPipe]

theorem Registry.actsOn_rcvMsg (registry : Registry tbl) (bufPtr : Bool)
    (atOnce : env.lockMutexStatus ≠ 0 ∨ ReturnsAtOnce tbl (indexId k) timeOut) :
    ActsOn SbnClient.applyOp tbl (.rcvMsg bufPtr (indexId k) timeOut env) k fun pipe =>
      ((receiveAct k bufPtr timeOut env pipe).1, receiveOutcome k bufPtr timeOut env pipe) := by
  rw [ActsOn, SbnClient.applyOp, registry.rcvMsg_eq bufPtr atOnce, Option.map_some,
    deref_receiveAct (Function.update_self ..)]
  rfl

/-! ## Messages -/

namespace CompleteMessage

variable (message : CompleteMessage P)

/-- The bytes that are put into a slot. -/
def payload : Payload P :=
  incoming message.socket _ message.accepted

theorem applyOp_eq (tbl : PipeTbl P) :
    SbnClient.applyOp tbl message.op = some (deliver tbl message.msgId message.payload,
      .ingested (ingestResult tbl message.msgId)) := by
  obtain ⟨rest, ran, -⟩ :=
    ingestAppMessage_of_complete tbl message.msgBuffer message.accepted message.complete
  rw [op, SbnClient.applyOp, ran]
  rfl

variable {message}

/-- A message acts on the pipe that it is routed to. -/
theorem actsOn_of_route (routed : route tbl message.msgId = some i) :
    ActsOn SbnClient.applyOp tbl message.op i (ingestAct i message.payload) := by
  rw [ActsOn, applyOp_eq, deliver, ingestResult, routed, ingestAct]
  by_cases full : (tbl i).numberOfMessages = maxPipeDepth
  · simp only [if_pos full, Function.update_eq_self]
  · simp only [if_neg full]

/-- A message without a route changes nothing, also after a call that keeps the use and the
slots of the pipes. -/
theorem idle_of_unrouted (unrouted : route tbl message.msgId = none) :
    ∃ outcome, SbnClient.applyOp tbl message.op = some (tbl, outcome) ∧
      ∀ (i : Fin maxPipes) (pipe : PipeD P), pipe.inUse = (tbl i).inUse →
        pipe.subscribedMsgIds = (tbl i).subscribedMsgIds →
        SbnClient.applyOp (Function.update tbl i pipe) message.op =
          some (Function.update tbl i pipe, outcome) := by
  refine ⟨.ingested (if ∃ i, (tbl i).inUse = inUse then .noSubscription else .noPipesInUse),
    ?_, fun i pipe inUse_eq slots_eq => ?_⟩
  · rw [applyOp_eq, deliver, ingestResult, unrouted]
  · have stillUnrouted : route (Function.update tbl i pipe) message.msgId = none := by
      rw [route_update tbl i pipe inUse_eq slots_eq, unrouted]
    have used : ∀ k, (Function.update tbl i pipe k).inUse = (tbl k).inUse := by
      intro k
      by_cases same : k = i <;> simp [same, inUse_eq]
    rw [applyOp_eq, deliver, ingestResult, stillUnrouted]
    simp only [used]

/-- A message without a route commutes with every such call. -/
theorem commute_of_unrouted (unrouted : route tbl message.msgId = none) {op : Op P}
    {act : PipeD P → PipeD P × Outcome P} (acts : ActsOn SbnClient.applyOp tbl op i act)
    (inUse_eq : (act (tbl i)).1.inUse = (tbl i).inUse)
    (slots_eq : (act (tbl i)).1.subscribedMsgIds = (tbl i).subscribedMsgIds) :
    Commute SbnClient.applyOp tbl message.op op := by
  obtain ⟨outcome, idle, stillIdle⟩ := idle_of_unrouted unrouted
  exact .of_idle idle acts (stillIdle i _ inUse_eq slots_eq)

/-- Messages for different pipes, or for none. -/
theorem commute {first second : CompleteMessage P}
    (apart : ∀ i, route tbl first.msgId = some i → route tbl second.msgId ≠ some i) :
    Commute SbnClient.applyOp tbl first.op second.op := by
  cases routed : route tbl first.msgId with
  | none =>
      cases routed' : route tbl second.msgId with
      | none =>
          obtain ⟨outcome, idle, -⟩ := idle_of_unrouted routed
          obtain ⟨outcome', idle', -⟩ := idle_of_unrouted routed'
          exact .of_idle idle idle' idle
      | some j =>
          exact commute_of_unrouted routed (actsOn_of_route routed')
            (inUse_ingestAct ..) (subscribedMsgIds_ingestAct ..)
  | some i =>
      cases routed' : route tbl second.msgId with
      | none =>
          exact (commute_of_unrouted routed' (actsOn_of_route routed)
            (inUse_ingestAct ..) (subscribedMsgIds_ingestAct ..)).symm
      | some j =>
          have different : i ≠ j := by
            rintro rfl
            exact apart i routed routed'
          refine .of_ne different (actsOn_of_route routed) (actsOn_of_route routed')
            (actsOn_of_route ?_) (actsOn_of_route ?_)
          · rw [route_update tbl i _ (inUse_ingestAct ..) (subscribedMsgIds_ingestAct ..), routed']
          · rw [route_update tbl j _ (inUse_ingestAct ..) (subscribedMsgIds_ingestAct ..), routed]

end CompleteMessage

/-! ## Both calls on one pipe -/

/-- Taking a message and putting one in leave each other's slots and cursors alone. -/
theorem advance_pushMessage (live : LivePipe k pipe)
    (room : pipe.numberOfMessages ≠ maxPipeDepth) (payload : Payload P) :
    advance (pushMessage pipe payload) = pushMessage (advance pipe) payload := by
  have positive := live.numberOfMessages_ge
  have bounded := live.numberOfMessages_le
  have fewer := numberOfMessages_advance positive bounded
  have more := numberOfMessages_pushMessage payload bounded
  have entry : entrySlot (advance pipe) = entrySlot pipe := by
    apply Fin.ext
    rw [val_entrySlot (nextMsg pipe).isLt (by omega), readMessage_advance,
      val_nextMsg live.readMessage_lt, fewer, val_entrySlot live.readMessage_lt bounded]
    exact position_pop positive
  have counted : (advance (pushMessage pipe payload)).numberOfMessages =
      pipe.numberOfMessages := by
    rw [numberOfMessages_advance (by omega) (by omega), more, Nat.add_sub_cancel]
  have counted' : (pushMessage (advance pipe) payload).numberOfMessages =
      pipe.numberOfMessages := by
    rw [numberOfMessages_pushMessage payload (by omega), fewer, Nat.sub_add_cancel positive]
  have count := counted.trans counted'.symm
  have slots : (advance (pushMessage pipe payload)).messages =
      (pushMessage (advance pipe) payload).messages := by
    simp only [pushMessage, entry, messages_advance]
  simp only [advance, pushMessage, PipeD.mk.injEq, true_and, and_true] at count slots ⊢
  exact ⟨count, rfl, slots⟩

/-- A call that finds a message in a pipe with room finds the same one after another message
has arrived. -/
theorem receiveAct_pushMessage (live : LivePipe k pipe) (available : 2 ≤ pipe.numberOfMessages)
    (room : pipe.numberOfMessages ≠ maxPipeDepth) (payload : Payload P) :
    receiveAct k bufPtr timeOut env (pushMessage pipe payload) =
      (pushMessage (receiveAct k bufPtr timeOut env pipe).1 payload,
        (receiveAct k bufPtr timeOut env pipe).2) := by
  have more := numberOfMessages_pushMessage payload live.numberOfMessages_le
  have moved := advance_pushMessage live room payload
  have same : ValidArguments (pushMessage pipe payload) bufPtr timeOut ↔
      ValidArguments pipe bufPtr timeOut := Iff.rfl
  have found : ¬ pipe.numberOfMessages < 2 := Nat.not_lt.mpr available
  have found' : ¬ (pushMessage pipe payload).numberOfMessages < 2 := by omega
  rw [receiveAct, receiveAct]
  by_cases valid : ValidArguments pipe bufPtr timeOut
  · rw [if_pos (same.mpr valid), if_pos valid]
    by_cases failed : env.lockMutexStatus ≠ 0
    · rw [if_pos failed, if_pos failed]
    · rw [if_neg failed, if_neg failed, if_neg found, if_neg found', moved]
      by_cases unlocked : env.unlockMutexStatus = 0
      · rw [if_pos unlocked, if_pos unlocked]
        rfl
      · rw [if_neg unlocked, if_neg unlocked]
  · rw [if_neg (mt same.mp valid), if_neg valid]

/-- What the call has been handed is not the slot that the next message enters. -/
theorem receiveOutcome_pushMessage (live : LivePipe k pipe)
    (available : 2 ≤ pipe.numberOfMessages) (room : pipe.numberOfMessages ≠ maxPipeDepth)
    (payload : Payload P) :
    receiveOutcome k bufPtr timeOut env (pushMessage pipe payload) =
      receiveOutcome k bufPtr timeOut env pipe := by
  simp only [receiveOutcome, receiveAct_pushMessage live available room]
  have ended := receiveEnd_receiveAct k bufPtr timeOut env pipe
  generalize receiveAct k bufPtr timeOut env pipe = act at ended ⊢
  cases ended with
  | refused failed => rfl
  | kept failed => rfl
  | hidden used available stuck => rfl
  | took used available unlocked =>
      have next := live.advance available
      have fewer := numberOfMessages_advance live.numberOfMessages_ge live.numberOfMessages_le
      have bounded := live.numberOfMessages_le
      have retained : (advance pipe).Occupied (nextMsg pipe) 0 :=
        ⟨(position_zero (nextMsg pipe).isLt).symm, next.numberOfMessages_ge,
          next.numberOfMessages_le⟩
      have kept := (retained.pushMessage next.readMessage_lt (by omega) payload).2
      rw [Option.bind_some, Option.bind_some, MsgPtr.deref, MsgPtr.deref, kept]

theorem numberOfMessages_receiveAct_ne (bufPtr : Bool) (timeOut : Int) (env : RcvEnv P)
    (live : LivePipe k pipe) (room : pipe.numberOfMessages ≠ maxPipeDepth) :
    (receiveAct k bufPtr timeOut env pipe).1.numberOfMessages ≠ maxPipeDepth := by
  have fewer := numberOfMessages_advance live.numberOfMessages_ge live.numberOfMessages_le
  have bounded := live.numberOfMessages_le
  have ended := receiveEnd_receiveAct k bufPtr timeOut env pipe
  generalize receiveAct k bufPtr timeOut env pipe = act at ended ⊢
  cases ended with
  | refused failed => exact room
  | kept failed => exact room
  | hidden used available stuck =>
      rw [fewer]
      omega
  | took used available unlocked =>
      rw [fewer]
      omega

theorem LivePipe.ingestAct (live : LivePipe k pipe) (payload : Payload P) :
    LivePipe k (ingestAct k payload pipe).1 := by
  rw [SbnClient.ingestAct]
  split
  next => exact live
  next room => exact live.pushMessage room payload

theorem LivePipe.receiveAct (live : LivePipe k pipe) (bufPtr : Bool) (timeOut : Int)
    (env : RcvEnv P) : LivePipe k (receiveAct k bufPtr timeOut env pipe).1 := by
  have ended := receiveEnd_receiveAct k bufPtr timeOut env pipe
  generalize SbnClient.receiveAct k bufPtr timeOut env pipe = act at ended ⊢
  cases ended with
  | refused failed => exact live
  | kept failed => exact live
  | hidden used available stuck => exact live.advance available
  | took used available unlocked => exact live.advance available

theorem numberOfMessages_ingestAct (payload : Payload P) (live : LivePipe k pipe) :
    (ingestAct k payload pipe).1.numberOfMessages =
      if pipe.numberOfMessages = maxPipeDepth then maxPipeDepth
      else pipe.numberOfMessages + 1 := by
  rw [ingestAct]
  split
  next full => exact full
  next => exact numberOfMessages_pushMessage payload live.numberOfMessages_le

theorem numberOfMessages_receiveAct (live : LivePipe k pipe)
    (valid : ValidArguments pipe bufPtr timeOut) (locked : env.lockMutexStatus = 0) :
    (receiveAct k bufPtr timeOut env pipe).1.numberOfMessages =
      if pipe.numberOfMessages < 2 then pipe.numberOfMessages
      else pipe.numberOfMessages - 1 := by
  have fewer := numberOfMessages_advance live.numberOfMessages_ge live.numberOfMessages_le
  rw [receiveAct, if_pos valid, if_neg (not_not.mpr locked)]
  split
  next => rfl
  next => split <;> exact fewer

/-! ## A message and a call -/

/-- `RcvMsg` hands out the same slot, whether the other call comes after it or before it. -/
def SameSlot (tbl : PipeTbl P) (op : Op P) (bufPtr : Bool) (pipeId : UInt8) (timeOut : Int)
    (env : RcvEnv P) : Prop :=
  ∃ next outcome before after, applyOp tbl op = some (next, outcome) ∧
    rcvMsg tbl bufPtr pipeId timeOut env = some before ∧
    rcvMsg next bufPtr pipeId timeOut env = some after ∧ after.bufPtr = before.bufPtr

/-- Whether a call waits depends on its own pipe only, and with more messages it does not. -/
theorem ReturnsAtOnce.mono {other : PipeTbl P} (atOnce : ReturnsAtOnce tbl (indexId k) timeOut)
    (inUse_eq : (other k).inUse = (tbl k).inUse)
    (grown : (tbl k).numberOfMessages ≤ (other k).numberOfMessages) :
    ReturnsAtOnce other (indexId k) timeOut := by
  rcases atOnce with outOfRange | poll | available
  · exact .inl outOfRange
  · exact .inr (.inl poll)
  · refine .inr (.inr fun i sameId used => ?_)
    rw [indexId_injective sameId] at used ⊢
    exact (available k rfl (inUse_eq.symm.trans used)).trans grown

theorem Registry.of_actsOn (registry : Registry tbl) {op : Op P} (sequential : op.Sequential tbl)
    {act : PipeD P → PipeD P × Outcome P} (acts : ActsOn SbnClient.applyOp tbl op i act) :
    Registry (Function.update tbl i (act (tbl i)).1) := by
  obtain ⟨next, outcome, ran, registryNext⟩ := registry.applyOp sequential
  rw [ActsOn, ran, Option.some.injEq, Prod.mk.injEq] at acts
  rwa [← acts.1]

namespace CompleteMessage

variable {message : CompleteMessage P}

/-- After a message the table is a valid one, and a call that did not wait still does not. -/
theorem rcvMsg_after (registry : Registry tbl) (routed : route tbl message.msgId = some i)
    (atOnce : env.lockMutexStatus ≠ 0 ∨ ReturnsAtOnce tbl (indexId k) timeOut) :
    let next := Function.update tbl i (ingestAct i message.payload (tbl i)).1
    Registry next ∧ (env.lockMutexStatus ≠ 0 ∨ ReturnsAtOnce next (indexId k) timeOut) := by
  have live := registry.live (route_eq_some_iff.mp routed).1.1
  have sequential : message.op.Sequential tbl := trivial
  refine ⟨registry.of_actsOn sequential (actsOn_of_route routed),
    atOnce.imp_right fun atOnce => ?_⟩
  by_cases same : k = i
  · subst same
    refine atOnce.mono ?_ ?_
    · rw [Function.update_self, inUse_ingestAct]
    · rw [Function.update_self, numberOfMessages_ingestAct message.payload live]
      split <;> omega
  · refine atOnce.mono ?_ ?_
    · rw [Function.update_of_ne same]
    · rw [Function.update_of_ne same]

/-- A message for another pipe than that of the call, or for none. -/
theorem commute_rcvMsg_of_ne (registry : Registry tbl)
    (apart : route tbl message.msgId ≠ some k)
    (atOnce : env.lockMutexStatus ≠ 0 ∨ ReturnsAtOnce tbl (indexId k) timeOut) :
    Commute SbnClient.applyOp tbl message.op (.rcvMsg bufPtr (indexId k) timeOut env) ∧
      SameSlot tbl message.op bufPtr (indexId k) timeOut env := by
  have receives := registry.actsOn_rcvMsg bufPtr atOnce
  have received := registry.rcvMsg_eq bufPtr atOnce
  cases routed : route tbl message.msgId with
  | none =>
      obtain ⟨outcome, idle, -⟩ := idle_of_unrouted routed
      exact ⟨commute_of_unrouted routed receives (inUse_receiveAct ..)
        (subscribedMsgIds_receiveAct ..), tbl, outcome, _, _, idle, received, received, rfl⟩
  | some i =>
      have different : k ≠ i := by
        rintro rfl
        exact apart routed
      have ingests := actsOn_of_route routed
      obtain ⟨registryNext, atOnceNext⟩ := rcvMsg_after registry routed atOnce
      refine ⟨.of_ne different.symm ingests receives (registryNext.actsOn_rcvMsg bufPtr atOnceNext)
        (actsOn_of_route ?_), _, _, _, _, ingests, received,
        registryNext.rcvMsg_eq bufPtr atOnceNext, ?_⟩
      · rw [route_update tbl k _ (inUse_receiveAct ..) (subscribedMsgIds_receiveAct ..), routed]
      · rw [Function.update_of_ne different]

/-- For the pipe of the call, the order matters as much as it does to that pipe alone. -/
theorem commute_rcvMsg_iff_acts (registry : Registry tbl)
    (routed : route tbl message.msgId = some k)
    (atOnce : env.lockMutexStatus ≠ 0 ∨ ReturnsAtOnce tbl (indexId k) timeOut) :
    let ingested := ingestAct k message.payload (tbl k)
    let received := (receiveAct k bufPtr timeOut env (tbl k)).1
    Commute SbnClient.applyOp tbl message.op (.rcvMsg bufPtr (indexId k) timeOut env) ↔
      (receiveAct k bufPtr timeOut env ingested.1).1 = (ingestAct k message.payload received).1 ∧
        (ingestAct k message.payload received).2 = ingested.2 ∧
        receiveOutcome k bufPtr timeOut env ingested.1 =
          receiveOutcome k bufPtr timeOut env (tbl k) := by
  obtain ⟨registryNext, atOnceNext⟩ := rcvMsg_after registry routed atOnce
  refine commute_iff_of_entry (actsOn_of_route routed) (registry.actsOn_rcvMsg bufPtr atOnce)
    (registryNext.actsOn_rcvMsg bufPtr atOnceNext) (actsOn_of_route ?_)
  rw [route_update tbl k _ (inUse_receiveAct ..) (subscribedMsgIds_receiveAct ..), routed]

/-- A message for the pipe of the call, which has a message to hand out and room for one. -/
theorem commute_rcvMsg_of_room (registry : Registry tbl)
    (routed : route tbl message.msgId = some k) (available : 2 ≤ (tbl k).numberOfMessages)
    (room : (tbl k).numberOfMessages < maxPipeDepth) :
    Commute SbnClient.applyOp tbl message.op (.rcvMsg bufPtr (indexId k) timeOut env) ∧
      SameSlot tbl message.op bufPtr (indexId k) timeOut env := by
  have live := registry.live (route_eq_some_iff.mp routed).1.1
  have atOnce : env.lockMutexStatus ≠ 0 ∨ ReturnsAtOnce tbl (indexId k) timeOut :=
    .inr (returnsAtOnce_of_available timeOut available)
  obtain ⟨registryNext, atOnceNext⟩ := rcvMsg_after registry routed atOnce
  have pushed : ingestAct k message.payload (tbl k) =
      (pushMessage (tbl k) message.payload, .ingested (.received k)) := if_neg room.ne
  have left := numberOfMessages_receiveAct_ne bufPtr timeOut env live room.ne
  refine ⟨(commute_rcvMsg_iff_acts registry routed atOnce).mpr ⟨?_, ?_, ?_⟩, _, _, _, _,
    actsOn_of_route routed, registry.rcvMsg_eq bufPtr atOnce,
    registryNext.rcvMsg_eq bufPtr atOnceNext, ?_⟩
  · rw [pushed, receiveAct_pushMessage live available room.ne, ingestAct, if_neg left]
  · rw [pushed, ingestAct, if_neg left]
  · rw [pushed, receiveOutcome_pushMessage live available room.ne]
  · rw [Function.update_self, pushed, receiveAct_pushMessage live available room.ne]

/-- At the limits of the ring the order matters: a call that gets to the pipe commutes with a
message for it only in between. -/
theorem commute_rcvMsg_iff (registry : Registry tbl)
    (routed : route tbl message.msgId = some k) (valid : ValidArguments (tbl k) bufPtr timeOut)
    (locked : env.lockMutexStatus = 0) (atOnce : ReturnsAtOnce tbl (indexId k) timeOut) :
    Commute SbnClient.applyOp tbl message.op (.rcvMsg bufPtr (indexId k) timeOut env) ↔
      2 ≤ (tbl k).numberOfMessages ∧ (tbl k).numberOfMessages < maxPipeDepth := by
  constructor
  · intro commute
    have live := registry.live valid.2.2
    have positive := live.numberOfMessages_ge
    have bounded := live.numberOfMessages_le
    have validNext : ValidArguments (ingestAct k message.payload (tbl k)).1 bufPtr timeOut :=
      ⟨valid.1, valid.2.1, (inUse_ingestAct ..).trans valid.2.2⟩
    obtain ⟨entry, -⟩ := (commute_rcvMsg_iff_acts registry routed (.inr atOnce)).mp commute
    have counts := congrArg PipeD.numberOfMessages entry
    rw [numberOfMessages_receiveAct (live.ingestAct message.payload) validNext locked,
      numberOfMessages_ingestAct _ (live.receiveAct bufPtr timeOut env),
      numberOfMessages_ingestAct _ live, numberOfMessages_receiveAct live valid locked] at counts
    have depth := maxPipeDepth_eq
    -- what is left compares the counters of the two orders
    grind
  · rintro ⟨available, room⟩
    exact (commute_rcvMsg_of_room registry routed available room).1

end CompleteMessage

/-- In every reachable table, messages commute unless they are routed to one pipe, and a message
commutes with a `RcvMsg` call that does not wait unless it is routed to the pipe of the call;
then it does so too where the pipe has a message to hand out and room for another. -/
theorem independent_calls_commute (reachable : Reachable tbl) :
    (∀ first second : CompleteMessage P,
      (∀ i, route tbl first.msgId = some i → route tbl second.msgId ≠ some i) →
        Machine.Commute applyOp tbl first.op second.op) ∧
    (∀ (message : CompleteMessage P) (bufPtr : Bool) (k : Fin maxPipes) (timeOut : Int)
      (env : RcvEnv P), Op.Sequential tbl (.rcvMsg bufPtr (indexId k) timeOut env) →
      route tbl message.msgId ≠ some k →
        Machine.Commute applyOp tbl message.op (.rcvMsg bufPtr (indexId k) timeOut env) ∧
          SameSlot tbl message.op bufPtr (indexId k) timeOut env) ∧
    (∀ (message : CompleteMessage P) (bufPtr : Bool) (k : Fin maxPipes) (timeOut : Int)
      (env : RcvEnv P), route tbl message.msgId = some k → 2 ≤ (tbl k).numberOfMessages →
      (tbl k).numberOfMessages ≤ 31 →
        Machine.Commute applyOp tbl message.op (.rcvMsg bufPtr (indexId k) timeOut env) ∧
          SameSlot tbl message.op bufPtr (indexId k) timeOut env) := by
  have registry := reachable.registry
  refine ⟨fun _ _ apart => CompleteMessage.commute apart, ?_, ?_⟩
  · intro message bufPtr k timeOut env sequential apart
    exact CompleteMessage.commute_rcvMsg_of_ne registry apart sequential.2
  · intro message bufPtr k timeOut env routed available room
    refine CompleteMessage.commute_rcvMsg_of_room registry routed available ?_
    rw [maxPipeDepth_eq]
    omega

/-- A pipe that holds one message, another one for it, one that nobody has subscribed to, and a
poll. -/
theorem second_message_commutes :
    let P := standardPlatform 32768
    let routed : CompleteMessage P :=
      ⟨Buffer.filled _ 0, whole [8, 1, 7], 3, Nat.le_of_ble_eq_true rfl, Nat.le_refl 3⟩
    let unrouted : CompleteMessage P :=
      ⟨Buffer.filled _ 0, whole [9, 1, 7], 3, Nat.le_of_ble_eq_true rfl, Nat.le_refl 3⟩
    let poll : Op P := .rcvMsg true (indexId 0) 0 (calmEnv P)
    ∃ tbl : PipeTbl P, Reachable tbl ∧ Machine.Commute applyOp tbl routed.op unrouted.op ∧
      (Machine.Commute applyOp tbl unrouted.op poll ∧
        SameSlot tbl unrouted.op true (indexId 0) 0 (calmEnv P)) ∧
      (Machine.Commute applyOp tbl routed.op poll ∧
        SameSlot tbl routed.op true (indexId 0) 0 (calmEnv P)) := by
  intro P routed unrouted poll
  have usualId : routed.msgId = 0x0801 := rfl
  have strangeId : unrouted.msgId = 0x0901 := rfl
  have start := reachable_subscribedPipe (zeroPipeTbl P) [0x41] 0x0801
  have usual := route_subscribedPipe (zeroPipeTbl P) [0x41] 0x0801
  have strange : route (subscribedPipe (zeroPipeTbl P) [0x41] 0x0801) 0x0901 = none :=
    route_subscribedPipe_of_ne _ _ (by decide) (by decide)
  have empty := numberOfMessages_subscribedPipe (zeroPipeTbl P) [0x41] 0x0801
  generalize subscribedPipe (zeroPipeTbl P) [0x41] 0x0801 = first at start usual strange empty
  rw [← usualId] at usual
  rw [← strangeId] at strange
  have room : (first 0).numberOfMessages ≠ maxPipeDepth := by
    rw [empty]
    decide
  have ingested := CompleteMessage.actsOn_of_route usual
  rw [ActsOn, ingestAct, if_neg room] at ingested
  have sequential : routed.op.Sequential first := trivial
  have reachable := start.concat sequential ingested
  rw [← route_update_pushMessage first 0 routed.payload] at usual strange
  have two : (Function.update first 0 (pushMessage (first 0) routed.payload) 0).numberOfMessages =
      2 := by
    rw [Function.update_self, numberOfMessages_pushMessage _ (by rw [empty]; decide), empty]
  obtain ⟨messages, otherPipe, samePipe⟩ := independent_calls_commute reachable
  refine ⟨_, reachable, messages routed unrouted ?_,
    otherPipe unrouted true 0 0 (calmEnv P) ⟨by decide, .inr (.inr (.inl rfl))⟩ ?_,
    samePipe routed true 0 0 (calmEnv P) usual two.ge (two.trans_le (by decide))⟩
  · simp [strange]
  · simp [strange]

end SbnClient
