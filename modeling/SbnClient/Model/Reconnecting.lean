import SbnClient.Model.Client
import SbnClient.Model.Interleaving

/-!
# Initialised again and again

`SBN_Client_Init` may be called at any time and more than once.  A call that gets a connection
initialises the pipe table under the threads that use it and starts another receive minder.  A
`recv_msg` call reads from the socket that `sbn_client_sockfd` names when the call begins, and
goes on with it; the minders that find the same socket there read from it side by side.  All
minders are there from the beginning, and may begin a call whenever they are outside.
-/

namespace SbnClient

open ConditionVariable SegmentedInput

variable {P : Platform} {Minder Thread : Type*}

/-- The table, what each of the sockets that have been opened still delivers, and where every
minder and every thread is. -/
structure Reconnecting (P : Platform) (Minder Thread : Type*) where
  tbl : PipeTbl P
  sockets : Nat → Socket
  opened : Nat
  /-- The socket that `sbn_client_sockfd` names. -/
  current : Nat
  /-- The socket that the call of a minder was given. -/
  given : Minder → Nat
  points : Minder → RecvPoint P
  entering : Thread → Option (RcvEntered P)
  phase : Thread → Phase (RcvEntered P)

namespace Reconnecting

/-- No connection has been made, and no thread is inside a call. -/
def start (tbl : PipeTbl P) (socket : Socket) : Reconnecting P Minder Thread :=
  ⟨tbl, fun _ => socket, 1, 0, fun _ => 0, fun _ => .outside, fun _ => none, fun _ => .running⟩

/-- The socket from which a minder reads, or will when it begins a call. -/
def reads (client : Reconnecting P Minder Thread) (minder : Minder) : Nat :=
  match client.points minder with
  | .outside => client.current
  | _ => client.given minder

/-- What a minder sees of the client. -/
def beside (client : Reconnecting P Minder Thread) (minder : Minder) : Concurrent P Thread :=
  ⟨client.tbl, client.sockets (client.reads minder), client.points minder, client.entering,
    client.phase⟩

variable [DecidableEq Minder]

/-- The client when what a minder sees has changed. -/
def put (client : Reconnecting P Minder Thread) (minder : Minder) (after : Concurrent P Thread) :
    Reconnecting P Minder Thread where
  tbl := after.tbl
  sockets := Function.update client.sockets (client.reads minder) after.socket
  opened := client.opened
  current := client.current
  given := Function.update client.given minder (client.reads minder)
  points := Function.update client.points minder after.point
  entering := after.entering
  phase := after.phase

end Reconnecting

/-- What happens in one step. -/
inductive ReconnectingEvent (P : Platform) (Minder Thread : Type*) where
  /-- `SBN_Client_Init` up to `CFE_SBN_Client_InitPipeTbl`. -/
  | connected (env : ConnectEnv)
  /-- A minder, or a thread beside it, takes a step. -/
  | took (minder : Minder) (event : ConcurrentEvent P Thread)

/-- The steps of all threads.  What a new socket delivers is up to the peer, also where `connect`
has failed and nothing can be read from it. -/
inductive Reconnecting.Step [DecidableEq Minder] [DecidableEq Thread]
    (client : Reconnecting P Minder Thread) :
    ReconnectingEvent P Minder Thread → Reconnecting P Minder Thread → Prop where
  | connected (env : ConnectEnv) (socket : Socket) :
      Step client (.connected env) { client with
        tbl := if connectToServer env < 0 then client.tbl else initPipeTbl client.tbl
        sockets := Function.update client.sockets client.opened socket
        opened := client.opened + 1
        current := client.opened }
  | took (minder : Minder) {event : ConcurrentEvent P Thread} {after : Concurrent P Thread}
      (step : (client.beside minder).Step event after) :
      Step client (.took minder event) (client.put minder after)

end SbnClient
