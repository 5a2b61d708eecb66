import SbnClient.Model.Ingest

/-!
# The minder threads

`SBN_Client_ReceiveMinder` calls `recv_msg` until five calls in a row have failed, and then
clears `continue_heartbeat` and `continue_receive_check`.  What a call finds in its
uninitialised buffers is chosen anew for every call.  The log message of a failed call is
left out.
-/

namespace SbnClient

variable {P : Platform}

/-- `continue_heartbeat` and `continue_receive_check` -/
structure ContinueFlags where
  heartbeat : Bool
  receiveCheck : Bool
  deriving DecidableEq, Repr

/-- The initial values of the two flags. -/
def initialFlags : ContinueFlags := ⟨true, true⟩

/-- `consec_error_count` after a `recv_msg` call. -/
def countError (consecErrorCount : Nat) (status : Status) : Nat :=
  if status ≠ .success then consecErrorCount + 1 else 0

/-- The flags after a turn of the receive minder. -/
def checkErrorCount (flags : ContinueFlags) (consecErrorCount : Nat) : ContinueFlags :=
  if 5 = consecErrorCount then ⟨false, false⟩ else flags

/-- What the receive minder sees between two turns. -/
structure ReceiveMinder (P : Platform) where
  flags : ContinueFlags
  consecErrorCount : Nat
  tbl : PipeTbl P
  socket : Socket

/-- The body of the loop of `SBN_Client_ReceiveMinder`. -/
def receiveTurn (minder : ReceiveMinder P) (locals : RecvLocals P) :
    Option (ReceiveMinder P × Status) :=
  (recvMsg minder.tbl locals minder.socket).map fun received =>
    let consecErrorCount := countError minder.consecErrorCount received.status
    (⟨checkErrorCount minder.flags consecErrorCount, consecErrorCount, received.tbl,
      received.socket⟩, received.status)

/-- The loop, with the statuses that its `recv_msg` calls return.  `none` is also a loop that
goes on after `fuel` turns. -/
def receiveLoop (locals : Nat → RecvLocals P) :
    Nat → ReceiveMinder P → Option (ReceiveMinder P × List Status)
  | fuel, minder =>
      if minder.flags.receiveCheck = false then
        some (minder, [])
      else
        match fuel with
        | 0 => none
        | fuel + 1 =>
            (receiveTurn minder (locals 0)).bind fun (next, status) =>
              (receiveLoop (fun turn => locals (turn + 1)) fuel next).map
                fun (final, statuses) => (final, status :: statuses)

/-- `SBN_Client_ReceiveMinder` -/
def receiveMinder (locals : Nat → RecvLocals P) (fuel : Nat) (flags : ContinueFlags)
    (tbl : PipeTbl P) (socket : Socket) : Option (ReceiveMinder P × List Status) :=
  receiveLoop locals fuel ⟨flags, 0, tbl, socket⟩

end SbnClient
