import SbnClient.Model.Run

/-!
# What the pipe table is for

Stated without the table: a pipe that exists owns the message ids it is subscribed to
and a first-in first-out queue of payloads, with room for 31 of them.  This is the
purpose of the pipe table in its own terms; `Mailboxes.apply` reads nothing of a call
but its arguments and the payload that arrives.
-/

namespace SbnClient

open SegmentedInput Wire

variable {P : Platform}

/-- What belongs to one pipe. -/
structure Mailbox (P : Platform) where
  subscribedMsgIds : Fin maxMsgIdsPerPipe → MsgId P
  queue : List (List UInt8)

/-- A mailbox for every pipe that exists. -/
abbrev Mailboxes (P : Platform) := Fin maxPipes → Option (Mailbox P)

/-- Payloads that one mailbox can hold. -/
abbrev mailboxCapacity : Nat := 31

/-- What a caller learns. -/
inductive SpecOutcome where
  | created (status : Status) (pipeId : Option UInt8)
  | deleted (status : Status)
  | subscribed (status : Status)
  | ingested
  | frame
  | delivered (status : Status) (payload : Option (List UInt8))

namespace Mailboxes

/-- Before any pipe has been created. -/
def empty : Mailboxes P := fun _ => none

/-- The message id of a payload. -/
def msgId (P : Platform) (payload : List UInt8) : MsgId P :=
  BitVec.ofNat P.msgIdBits (ofBigEndian (payload.take 2))

/-- The mailbox at an index is subscribed to the id. -/
def Wants (boxes : Mailboxes P) (i : Fin maxPipes) (msgId : MsgId P) : Prop :=
  ∃ box ∈ boxes i, ∃ j, box.subscribedMsgIds j = msgId

instance (boxes : Mailboxes P) (i : Fin maxPipes) (msgId : MsgId P) :
    Decidable (boxes.Wants i msgId) :=
  inferInstanceAs (Decidable (∃ box ∈ boxes i, ∃ j, box.subscribedMsgIds j = msgId))

/-- The lowest mailbox that wants the payload takes it, or drops it when full. -/
def ingest (boxes : Mailboxes P) (payload : List UInt8) : Mailboxes P :=
  match Fin.find? fun i => boxes.Wants i (msgId P payload) with
  | none => boxes
  | some i => Function.update boxes i <| (boxes i).map fun box =>
      if box.queue.length < mailboxCapacity then { box with queue := box.queue ++ [payload] }
      else box

/-- Open the lowest mailbox that does not exist yet. -/
def create (boxes : Mailboxes P) : Mailboxes P × SpecOutcome :=
  match Fin.find? fun i => boxes i = none with
  | none => (boxes, .created .maxPipesMet (some invalidPipe))
  | some i => (Function.update boxes i (some ⟨fun _ => invalidMsgId, []⟩),
      .created .success (some (indexId i)))

/-- The index of an existing mailbox with the id. -/
def lookup (boxes : Mailboxes P) (pipeId : UInt8) : Option (Fin maxPipes × Mailbox P) :=
  (Fin.find? fun i => indexId i = pipeId).bind fun i => (boxes i).map fun box => (i, box)

/-- Close a mailbox. -/
def delete (boxes : Mailboxes P) (pipeId : UInt8) : Mailboxes P × SpecOutcome :=
  match boxes.lookup pipeId with
  | some (i, _) => (Function.update boxes i none, .deleted .success)
  | none => (boxes, .deleted
      (if pipeId = invalidPipe ∧ ∃ i, boxes i = none then .minusOne else .minusTwo))

/-- Put an id into the first free slot of a mailbox. -/
def subscribe (boxes : Mailboxes P) (msgId : MsgId P) (pipeId : UInt8) :
    Mailboxes P × SpecOutcome :=
  match boxes.lookup pipeId with
  | none => (boxes, .subscribed .badArgument)
  | some (i, box) =>
      match Fin.find? fun j => box.subscribedMsgIds j = invalidMsgId with
      | none => (boxes, .subscribed .badArgument)
      | some j => (Function.update boxes i (some { box with
          subscribedMsgIds := Function.update box.subscribedMsgIds j msgId }),
          .subscribed .success)

/-- Hand over the oldest payload of a mailbox. -/
def receive (boxes : Mailboxes P) (pipeId : UInt8) : Mailboxes P × SpecOutcome :=
  match boxes.lookup pipeId with
  | none => (boxes, .delivered .badArgument none)
  | some (i, box) =>
      match box.queue with
      | [] => (boxes, .delivered .noMessage none)
      | payload :: queue =>
          (Function.update boxes i (some { box with queue }), .delivered .success (some payload))

/-- One call on the mailboxes. -/
def apply (boxes : Mailboxes P) : Op P → Mailboxes P × SpecOutcome
  | .createPipe pipeIdPtr depth _ =>
      if ¬ pipeIdPtr then (boxes, .created .badArgument none)
      else if depth.toNat > maxPipeDepth ∨ depth = 0 then
        (boxes, .created .badArgument (some invalidPipe))
      else boxes.create
  | .deletePipe pipeId => boxes.delete pipeId
  | .subscribe msgId pipeId _ => boxes.subscribe msgId pipeId
  | .ingestAppMessage _ socket msgSz =>
      (boxes.ingest ((available socket).take msgSz.toNat), .ingested)
  | .recvMsg _ _ => (boxes, .frame)
  | .rcvMsg bufPtr pipeId timeOut _ =>
      if ¬ bufPtr ∨ timeOut < -1 then (boxes, .delivered .badArgument none)
      else boxes.receive pipeId

end Mailboxes

/-! ## Comparing the two -/

/-- A reader of the buffer sees the payload. -/
def Shows {size : Nat} (buffer : Buffer size) (payload : List UInt8) : Prop :=
  buffer.read payload.length = payload

/-- The code and the specification tell their caller the same. -/
inductive OutcomeAgrees : Outcome P → SpecOutcome → Prop where
  | created (status : Status) (pipeId : Option UInt8) :
      OutcomeAgrees (.created status pipeId) (.created status pipeId)
  | deleted (status : Status) : OutcomeAgrees (.deleted status) (.deleted status)
  | subscribed (status : Status) : OutcomeAgrees (.subscribed status) (.subscribed status)
  | ingested (result : IngestResult) : OutcomeAgrees (.ingested result) .ingested
  | nothing (status : Status) :
      OutcomeAgrees (.delivered status none) (.delivered status none)
  | message (status : Status) {buffer : Buffer P.maxMessageSize} {payload : List UInt8}
      (shows : Shows buffer payload) :
      OutcomeAgrees (.delivered status (some buffer)) (.delivered status (some payload))

/-- The calls of the comparison: mutex calls succeed, ingested payloads arrive completely
and no receive has to wait. -/
def Op.Contract (tbl : PipeTbl P) : Op P → Prop
  | .createPipe .. => True
  | .deletePipe _ => True
  | .subscribe _ pipeId _ => pipeId.toNat < maxPipes
  | .ingestAppMessage _ socket msgSz =>
      2 ≤ msgSz.toNat ∧ msgSz.toNat ≤ P.maxMessageSize ∧
        msgSz.toNat ≤ (available socket).length
  | .recvMsg .. => False
  | .rcvMsg _ pipeId timeOut env =>
      pipeId.toNat < maxPipes ∧ env.lockMutexStatus = 0 ∧ env.unlockMutexStatus = 0 ∧
        ReturnsAtOnce tbl pipeId timeOut

end SbnClient
