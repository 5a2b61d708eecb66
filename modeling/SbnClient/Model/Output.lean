import SbnClient.Model.Run

/-!
# Runs that write to the socket

The heartbeat thread and the application share one socket.  Each `write` is atomic, so an
interleaving of the threads is a sequence of calls.  In `outputStepWith` the outcome of the
`write` comes with the call; in `outputStep` every `write` accepts its whole buffer.
-/

namespace SbnClient

variable {P : Platform}

/-- `sbn_client_cpuId` after `SBN_Client_Init` -/
def clientCpuId : Int32 := 2

/-- A call of one of the three writers, or another call on the pipe table. -/
inductive OutputCall (P : Platform) where
  | sendHeartbeat
  | sendMsg (malloc : (size : Nat) → Buffer size) (memory : List UInt8)
  | subscribe (msgId : MsgId P) (pipeId : UInt8)
  | silent (op : Op P)

/-- What a call returns. -/
inductive Returned where
  | count (retval : Int)
  | code (status : Status)
  | other
  deriving DecidableEq, Repr

/-- The call reports success. -/
def Returned.Succeeded : Returned → Prop
  | .count retval => 0 ≤ retval
  | .code status => status = .success
  | .other => True

instance : DecidablePred Returned.Succeeded
  | .count retval => inferInstanceAs (Decidable (0 ≤ retval))
  | .code status => inferInstanceAs (Decidable (status = .success))
  | .other => inferInstanceAs (Decidable True)

/-- What a call returns and the bytes that it puts on the socket. -/
structure Output where
  returned : Returned
  written : List UInt8

/-- One call whose `write`, where it gets to one, has the given outcome, as a step of the
pipe table. -/
def outputStepWith (outcome : WriteOutcome) (tbl : PipeTbl P) :
    OutputCall P → Option (PipeTbl P × Output)
  | .sendHeartbeat =>
      let (retval, written) := sendHeartbeat P outcome
      some (tbl, ⟨.count retval, written⟩)
  | .sendMsg malloc memory =>
      (sendMsg P clientCpuId malloc memory outcome).map fun (status, written) =>
        (tbl, ⟨.code status, written⟩)
  | .subscribe msgId pipeId =>
      (subscribe tbl msgId pipeId outcome).map fun (tbl, status, written) =>
        (tbl, ⟨.code status, written⟩)
  | .silent op => (applyOp tbl op).map fun (tbl, _) => (tbl, ⟨.other, []⟩)

/-- One call whose `write` accepts all it is given. -/
def outputStep (tbl : PipeTbl P) (call : OutputCall P) : Option (PipeTbl P × Output) :=
  outputStepWith .complete tbl call

/-- What a call hands to `write`: the bytes that would be on the socket if all were
accepted. -/
def OutputCall.handed (tbl : PipeTbl P) (call : OutputCall P) : List UInt8 :=
  match outputStep tbl call with
  | some (_, output) => output.written
  | none => []

/-- What a call needs of its caller, the id of a `Subscribe` apart.  A message that is sent has
as many bytes as its header tells, unless that is too many to send. -/
def OutputCall.Supplied (tbl : PipeTbl P) : OutputCall P → Prop
  | .sendHeartbeat => True
  | .sendMsg _ memory =>
      P.maxMessageSize < (getTotalMsgLength P memory).toNat + P.packedHdrSz ∨
        (getTotalMsgLength P memory).toNat ≤ memory.length
  | .subscribe .. => True
  | .silent op => op.Sequential tbl ∧ ∀ msgId pipeId outcome, op ≠ .subscribe msgId pipeId outcome

/-- A `Subscribe` is for an id of the table. -/
def OutputCall.InTable : OutputCall P → Prop
  | .subscribe _ pipeId => pipeId.toNat < maxPipes
  | _ => True

/-- The calls of a run. -/
def OutputCall.Permits (tbl : PipeTbl P) (call : OutputCall P) : Prop :=
  call.Supplied tbl ∧ call.InTable

end SbnClient
