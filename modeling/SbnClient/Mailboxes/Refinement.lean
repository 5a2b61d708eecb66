import SbnClient.Foundations.RetainedRing
import SbnClient.Mailboxes.Spec
import SbnClient.Registry.Consequences

/-!
# The pipe table refines the mailboxes

A free entry stands for no mailbox, and a live one for a mailbox with the same
subscriptions whose queue its ring carries, one more slot being occupied by the message
that was handed out last.  Every call keeps that relation and tells its caller what the
specification says.
-/

namespace SbnClient

open RetainedRing

variable {P : Platform} {tbl : PipeTbl P} {boxes : Mailboxes P}

/-- What an entry of the table stands for. -/
inductive EntryRefines (i : Fin maxPipes) (pipe : PipeD P) : Option (Mailbox P) → Prop where
  | free (free : FreePipe pipe) : EntryRefines i pipe none
  | live {box : Mailbox P} (live : LivePipe i pipe)
      (subscribed : pipe.subscribedMsgIds = box.subscribedMsgIds)
      (holds : Holds Shows pipe.messages pipe.readMessage pipe.numberOfMessages box.queue) :
      EntryRefines i pipe (some box)

theorem EntryRefines.live_or_free {i : Fin maxPipes} {pipe : PipeD P}
    {entry : Option (Mailbox P)} (refines : EntryRefines i pipe entry) :
    LivePipe i pipe ∨ FreePipe pipe := by
  cases refines with
  | free free => exact .inr free
  | live live => exact .inl live

/-- The table stands for the mailboxes. -/
def Refines (tbl : PipeTbl P) (boxes : Mailboxes P) : Prop :=
  ∀ i, EntryRefines i (tbl i) (boxes i)

theorem refines_initPipeTbl (tbl : PipeTbl P) : Refines (initPipeTbl tbl) .empty :=
  fun i => .free (freePipe_invalidatePipe (tbl i))

namespace Refines

theorem registry (refines : Refines tbl boxes) : Registry tbl :=
  fun i => (refines i).live_or_free

theorem free (refines : Refines tbl boxes) {i : Fin maxPipes} (missing : boxes i = none) :
    FreePipe (tbl i) := by
  have entry := refines i
  rw [missing] at entry
  cases entry with
  | free free => exact free

theorem live (refines : Refines tbl boxes) {i : Fin maxPipes} {box : Mailbox P}
    (found : boxes i = some box) :
    LivePipe i (tbl i) ∧ (tbl i).subscribedMsgIds = box.subscribedMsgIds ∧
      Holds Shows (tbl i).messages (tbl i).readMessage (tbl i).numberOfMessages box.queue := by
  have entry := refines i
  rw [found] at entry
  cases entry with
  | live live subscribed holds => exact ⟨live, subscribed, holds⟩

theorem inUse_iff (refines : Refines tbl boxes) (i : Fin maxPipes) :
    (tbl i).inUse = inUse ↔ boxes i ≠ none := by
  cases found : boxes i with
  | none => simp [(refines.free found).inUse_ne]
  | some box => simp [(refines.live found).1.inUse_eq]

theorem update (refines : Refines tbl boxes) {i : Fin maxPipes} {pipe : PipeD P}
    {entry : Option (Mailbox P)} (changed : EntryRefines i pipe entry) :
    Refines (Function.update tbl i pipe) (Function.update boxes i entry) := by
  intro k
  by_cases same : k = i
  · subst same
    simpa using changed
  · simpa [same] using refines k

end Refines

/-! ## Searches -/

theorem find?_indexId_eq (k : Fin maxPipes) :
    (Fin.find? fun i => indexId i = indexId k) = some k := by
  rw [Fin.find?_eq_some_iff]
  refine ⟨by simp, fun i before => ?_⟩
  simpa using fun same => before.ne (indexId_injective same)

theorem lookup_indexId (boxes : Mailboxes P) (k : Fin maxPipes) :
    boxes.lookup (indexId k) = (boxes k).map fun box => (k, box) := by
  rw [Mailboxes.lookup, find?_indexId_eq, Option.bind_some]

theorem lookup_of_ne_indexId (boxes : Mailboxes P) {pipeId : UInt8}
    (unknown : ∀ i, pipeId ≠ indexId i) : boxes.lookup pipeId = none := by
  have missing : (Fin.find? fun i => indexId i = pipeId) = none := by
    rw [Fin.find?_eq_none_iff]
    intro i
    simpa using (unknown i).symm
  rw [Mailboxes.lookup, missing, Option.bind_none]

theorem Refines.availPipe_eq (refines : Refines tbl boxes) :
    availPipe tbl = Fin.find? fun i => boxes i = none := by
  have same : ∀ i, (tbl i).inUse ≠ inUse ↔ boxes i = none := by
    intro i
    rw [ne_eq, refines.inUse_iff, not_not]
  rw [availPipe]
  exact congrArg Fin.find? (funext fun i => decide_eq_decide.mpr (same i))

theorem Refines.route_eq (refines : Refines tbl boxes) (msgId : MsgId P) :
    route tbl msgId = Fin.find? fun i => boxes.Wants i msgId := by
  have same : ∀ i, ((tbl i).inUse = inUse ∧ (tbl i).Subscribed msgId) ↔ boxes.Wants i msgId := by
    intro i
    cases found : boxes i with
    | none => simp [(refines.free found).inUse_ne, Mailboxes.Wants, found]
    | some box =>
        obtain ⟨live, subscribed, -⟩ := refines.live found
        simp [live.inUse_eq, Mailboxes.Wants, found, PipeD.Subscribed, subscribed]
  rw [route]
  exact congrArg Fin.find? (funext fun i => decide_eq_decide.mpr (same i))

/-! ## Pushing and taking -/

theorem val_entrySlot {pipe : PipeD P} (inRange : pipe.readMessage < maxPipeDepth)
    (bounded : pipe.numberOfMessages ≤ maxPipeDepth) :
    (entrySlot pipe).val =
      position maxPipeDepth pipe.readMessage pipe.numberOfMessages := by
  rw [maxPipeDepth_eq] at inRange bounded
  have noWrap : uint32 (pipe.readMessage + pipe.numberOfMessages) =
      pipe.readMessage + pipe.numberOfMessages := by
    simp only [uint32]
    omega
  simp only [entrySlot, messageEntryPoint, noWrap, position]

/-- A message pushed into a ring with room joins the end of the queue. -/
theorem holds_pushMessage {pipe : PipeD P} {queue : List (List UInt8)}
    (holds : Holds Shows pipe.messages pipe.readMessage pipe.numberOfMessages queue)
    (room : pipe.numberOfMessages ≠ maxPipeDepth) (payload : Payload P) :
    let pushed := pushMessage pipe payload
    Holds Shows pushed.messages pushed.readMessage pushed.numberOfMessages
      (queue ++ [payload.bytes]) := by
  have bounded := holds.count_le
  have entry := val_entrySlot holds.cursor_lt bounded
  have carried : Shows ((pipe.messages (entrySlot pipe)).store 0 payload.bytes
      (by simpa using payload.length_le)) payload.bytes := Buffer.read_store_zero ..
  have grown := holds.push (lt_of_le_of_ne bounded room) entry carried
  rw [← numberOfMessages_pushMessage payload bounded] at grown
  exact grown

/-- A message taken from a ring is the oldest of the queue. -/
theorem holds_advance {pipe : PipeD P} {payload : List UInt8} {queue : List (List UInt8)}
    (holds : Holds Shows pipe.messages pipe.readMessage pipe.numberOfMessages
      (payload :: queue)) :
    Shows (pipe.messages (nextMsg pipe)) payload ∧
      Holds Shows (advance pipe).messages (advance pipe).readMessage
        (advance pipe).numberOfMessages queue := by
  have positive : 1 ≤ pipe.numberOfMessages := by
    rw [holds.count_eq]
    omega
  have fewer := numberOfMessages_advance positive holds.count_le
  obtain ⟨shown, rest⟩ := holds.pop (val_nextMsg holds.cursor_lt)
  rw [← fewer] at rest
  exact ⟨shown, rest⟩

/-! ## Calls -/

/-- The routing rule on the table is the one on the mailboxes. -/
theorem Refines.deliver (refines : Refines tbl boxes) (payload : Payload P) :
    Refines (deliver tbl payload.msgId payload) (boxes.ingest payload.bytes) := by
  have sameId : Mailboxes.msgId P payload.bytes = payload.msgId := rfl
  rw [SbnClient.deliver, refines.route_eq, Mailboxes.ingest, sameId]
  cases found : Fin.find? fun i => boxes.Wants i payload.msgId with
  | none => exact refines
  | some i =>
      have wants := (Fin.find?_eq_some_iff.mp found).1
      obtain ⟨box, isBox, -⟩ := of_decide_eq_true wants
      obtain ⟨live, subscribed, holds⟩ := refines.live isBox
      have size := holds.count_eq
      have capacity : mailboxCapacity + 1 = maxPipeDepth := rfl
      simp only [show boxes i = some box from isBox, Option.map_some]
      by_cases full : (tbl i).numberOfMessages = maxPipeDepth
      · have noRoom : ¬ box.queue.length < mailboxCapacity := by
          omega
        rw [if_pos full, if_neg noRoom]
        have same : Function.update boxes i (some box) = boxes := by
          rw [← show boxes i = some box from isBox, Function.update_eq_self]
        rwa [same]
      · have room : box.queue.length < mailboxCapacity := by
          have bounded := holds.count_le
          omega
        rw [if_neg full, if_pos room]
        exact refines.update (.live (live.pushMessage full payload) subscribed
          (holds_pushMessage holds full payload))

theorem Refines.create (refines : Refines tbl boxes) {depth : UInt16} {pipeName : List UInt8}
    (good : ¬ (depth.toNat > maxPipeDepth ∨ depth = 0)) :
    let created := createPipe tbl true depth pipeName
    Refines created.tbl boxes.create.1 ∧
      OutcomeAgrees (.created created.status created.pipeId : Outcome P) boxes.create.2 := by
  rw [createPipe_goodDepth pipeName good, Mailboxes.create, refines.availPipe_eq]
  cases found : Fin.find? fun i => boxes i = none with
  | none => exact ⟨refines, .created _ _⟩
  | some i =>
      have missing : boxes i = none := of_decide_eq_true (Fin.find?_eq_some_iff.mp found).1
      have free := refines.free missing
      refine ⟨refines.update (.live (free.livePipe_openPipe i pipeName) ?_ ?_), .created _ _⟩
      · exact funext free.subscribedMsgIds_eq
      · have empty : Holds Shows (tbl i).messages (tbl i).readMessage 1 [] :=
          .empty (by simp [free.readMessage_eq, maxPipeDepth])
        rw [← free.numberOfMessages_eq] at empty
        exact empty

theorem Refines.delete (refines : Refines tbl boxes) (pipeId : UInt8) :
    Refines (deletePipe tbl pipeId).1 (boxes.delete pipeId).1 ∧
      OutcomeAgrees (.deleted (deletePipe tbl pipeId).2 : Outcome P) (boxes.delete pipeId).2 := by
  by_cases known : ∃ k, pipeId = indexId k
  · obtain ⟨k, rfl⟩ := known
    rw [deletePipe_indexId refines.registry, Mailboxes.delete, lookup_indexId]
    cases found : boxes k with
    | none =>
        rw [if_neg (by simp [refines.inUse_iff, found])]
        simp only [Option.map_none, indexId_ne_invalidPipe, false_and, ↓reduceIte]
        exact ⟨refines, .deleted _⟩
    | some box =>
        rw [if_pos (by simp [refines.inUse_iff, found])]
        exact ⟨refines.update (.free (freePipe_invalidatePipe (tbl k))), .deleted _⟩
  · have unknown := not_exists.mp known
    have same : (∃ i, (tbl i).inUse ≠ inUse) ↔ ∃ i, boxes i = none := by
      simp [refines.inUse_iff]
    rw [deletePipe_of_ne_indexId refines.registry unknown, Mailboxes.delete,
      lookup_of_ne_indexId boxes unknown]
    simp only [same]
    exact ⟨refines, .deleted _⟩

theorem Refines.subscribe (refines : Refines tbl boxes) (msgId : MsgId P) (k : Fin maxPipes)
    (outcome : WriteOutcome) :
    ∃ next status written,
      subscribe tbl msgId (indexId k) outcome = some (next, status, written) ∧
      Refines next (boxes.subscribe msgId (indexId k)).1 ∧
      OutcomeAgrees (.subscribed status : Outcome P) (boxes.subscribe msgId (indexId k)).2 := by
  rw [subscribe_indexId refines.registry, Mailboxes.subscribe, lookup_indexId]
  cases found : boxes k with
  | none =>
      rw [if_neg (by simp [refines.inUse_iff, found])]
      exact ⟨_, _, _, rfl, refines, .subscribed _⟩
  | some box =>
      obtain ⟨live, subscribed, holds⟩ := refines.live found
      rw [if_pos live.inUse_eq]
      have same : freeSlot (tbl k) =
          Fin.find? fun j => box.subscribedMsgIds j = invalidMsgId := by
        rw [freeSlot, subscribed]
      simp only [Option.map_some, ← same]
      cases slot : freeSlot (tbl k) with
      | none => exact ⟨_, _, _, rfl, refines, .subscribed _⟩
      | some j =>
          refine ⟨_, _, _, rfl, refines.update (.live (live.storeMsgId slot msgId) ?_ holds),
            .subscribed _⟩
          simp [storeMsgId, subscribed]

theorem Refines.receive (refines : Refines tbl boxes) (k : Fin maxPipes) {timeOut : Int}
    {env : RcvEnv P} (inRange : -1 ≤ timeOut) (locked : env.lockMutexStatus = 0)
    (unlocked : env.unlockMutexStatus = 0) (atOnce : ReturnsAtOnce tbl (indexId k) timeOut) :
    ∃ result, rcvMsg tbl true (indexId k) timeOut env = some result ∧
      Refines result.tbl (boxes.receive (indexId k)).1 ∧
      OutcomeAgrees (.delivered result.status (result.bufPtr.bind (MsgPtr.deref result.tbl)))
        (boxes.receive (indexId k)).2 := by
  rw [Mailboxes.receive, lookup_indexId]
  cases found : boxes k with
  | none =>
      have bad : ¬ ((true : Bool) ∧ -1 ≤ timeOut ∧ (tbl k).inUse = inUse) := by
        simp [refines.inUse_iff, found]
      exact ⟨_, rcvMsg_of_badArgument refines.registry bad, refines, .nothing _⟩
  | some box =>
      obtain ⟨live, subscribed, holds⟩ := refines.live found
      have size := holds.count_eq
      refine ⟨_, rcvMsg_of_returnsAtOnce refines.registry live.inUse_eq inRange locked atOnce, ?_⟩
      simp only [rcvFinish, unlocked, ne_eq, not_true_eq_false, ↓reduceIte, Option.map_some]
      cases queue : box.queue with
      | nil =>
          rw [queue] at size
          rw [if_pos (show (tbl k).numberOfMessages < 2 by simp [size])]
          exact ⟨refines, .nothing _⟩
      | cons payload rest =>
          rw [queue] at size holds
          rw [if_neg (show ¬ (tbl k).numberOfMessages < 2 by simp [size])]
          obtain ⟨shown, remaining⟩ := holds_advance holds
          have available : 2 ≤ (tbl k).numberOfMessages := by simp [size]
          refine ⟨refines.update (.live (live.advance available) subscribed remaining), ?_⟩
          refine .message _ ?_
          simpa using shown

/-! ## Runs -/

/-- One call of the code is one call on the mailboxes. -/
theorem Refines.applyOp (format : DefaultFormat P) (refines : Refines tbl boxes) {op : Op P}
    (contract : op.Contract tbl) :
    ∃ next outcome, applyOp tbl op = some (next, outcome) ∧
      Refines next (boxes.apply op).1 ∧ OutcomeAgrees outcome (boxes.apply op).2 := by
  cases op with
  | createPipe pipeIdPtr depth pipeName =>
      refine ⟨_, _, rfl, ?_⟩
      cases pipeIdPtr with
      | false =>
          rw [createPipe_null]
          exact ⟨refines, .created _ _⟩
      | true =>
          simp only [Mailboxes.apply, not_true_eq_false, ↓reduceIte]
          by_cases bad : depth.toNat > maxPipeDepth ∨ depth = 0
          · rw [createPipe_badDepth pipeName bad, if_pos bad]
            exact ⟨refines, .created _ _⟩
          · rw [if_neg bad]
            exact refines.create bad
  | deletePipe pipeId => exact ⟨_, _, rfl, refines.delete pipeId⟩
  | subscribe msgId pipeId outcome =>
      obtain ⟨k, rfl⟩ := exists_indexId contract
      obtain ⟨next, status, written, ran, kept, agreed⟩ := refines.subscribe msgId k outcome
      exact ⟨next, .subscribed status, by rw [SbnClient.applyOp, ran]; rfl, kept, agreed⟩
  | ingestAppMessage msgBuffer socket msgSz =>
      obtain ⟨long, accepted, complete⟩ := contract
      obtain ⟨rest, ran, -⟩ :=
        ingestAppMessage_of_defaultFormat format tbl msgBuffer long accepted complete
      have stepped := congrArg
        (Option.map fun answer => (answer.1, (Outcome.ingested answer.2.2 : Outcome P))) ran
      exact ⟨_, _, stepped, refines.deliver (incoming socket _ accepted), .ingested _⟩
  | recvMsg locals socket => exact contract.elim
  | rcvMsg bufPtr pipeId timeOut env =>
      obtain ⟨inTable, locked, unlocked, atOnce⟩ := contract
      obtain ⟨k, rfl⟩ := exists_indexId inTable
      rw [SbnClient.applyOp, Mailboxes.apply]
      by_cases refused : ¬ bufPtr ∨ timeOut < -1
      · rw [rcvMsg, rcvBegin, if_pos refused, if_pos refused]
        exact ⟨_, _, rfl, refines, .nothing _⟩
      · obtain ⟨nonNull, inRange⟩ := not_or.mp refused
        obtain ⟨result, ran, kept, agreed⟩ :=
          refines.receive k (Int.not_lt.mp inRange) locked unlocked atOnce
        rw [if_neg refused, not_not.mp nonNull, ran]
        exact ⟨_, _, rfl, kept, agreed⟩

/-- The pipe table is a set of bounded first-in first-out queues.  Every run of calls from
the initial table returns and delivers what the mailboxes do, and the table it ends with
carries their queues: `NumberOfMessages` is one more than the length of the queue, and
item `k` is in the slot `k + 1` places after `ReadMessage`. -/
theorem pipeTable_refines_mailboxes (format : DefaultFormat P) (initial : PipeTbl P)
    (ops : List (Op P))
    (contract : Machine.Permitted applyOp Op.Contract (initPipeTbl initial) ops) :
    ∃ tbl outcomes, Machine.run applyOp (initPipeTbl initial) ops = some (tbl, outcomes) ∧
      Refines tbl (Machine.specRun Mailboxes.apply .empty ops).1 ∧
      List.Forall₂ OutcomeAgrees outcomes (Machine.specRun Mailboxes.apply .empty ops).2 := by
  have simulates : ∀ (tbl : PipeTbl P) (boxes : Mailboxes P) (op : Op P), Refines tbl boxes →
      op.Contract tbl → ∃ next outcome, applyOp tbl op = some (next, outcome) ∧
        Refines next (boxes.apply op).1 ∧ OutcomeAgrees outcome (boxes.apply op).2 :=
    fun _ _ _ refines contract => refines.applyOp format contract
  exact Machine.run_simulates simulates ops (refines_initPipeTbl initial) contract

/-- A pipe that receives one payload, hands it over and is polled once more. -/
theorem polled_pipe_refines_mailbox :
    let ops : List (Op (standardPlatform 32768)) :=
      [.createPipe true 8 [0x41], .subscribe 0x0801 0 .complete,
        .ingestAppMessage (Buffer.filled _ 0) [.received 8 [1], .received 0xC0 [], .closed] 3,
        .rcvMsg true 0 0 (calmEnv _), .rcvMsg true 0 0 (calmEnv _)]
    ∃ tbl outcomes, Machine.run applyOp (initPipeTbl (zeroPipeTbl _)) ops = some (tbl, outcomes) ∧
      Refines tbl (Machine.specRun Mailboxes.apply .empty ops).1 ∧
      List.Forall₂ OutcomeAgrees outcomes (Machine.specRun Mailboxes.apply .empty ops).2 := by
  apply pipeTable_refines_mailboxes (standardPlatform_defaultFormat 32768)
  have inTable : (0 : UInt8).toNat < maxPipes := by decide
  have polls : ∀ tbl, Op.Contract tbl (.rcvMsg true 0 0 (calmEnv (standardPlatform 32768))) :=
    fun _ => ⟨inTable, rfl, rfl, .inr (.inl rfl)⟩
  refine ⟨trivial, fun _ _ _ => ⟨inTable, fun _ _ _ => ⟨?_, fun _ _ _ => ⟨polls _,
    fun _ _ _ => ⟨polls _, fun _ _ _ => trivial⟩⟩⟩⟩⟩
  exact ⟨by decide, Nat.le_of_ble_eq_true rfl, by decide⟩

end SbnClient
