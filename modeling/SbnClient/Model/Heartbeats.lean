import SbnClient.Model.Client

/-!
# The heartbeat minders one by one

`SBN_Client_HeartbeatMinder` tests `continue_heartbeat` and calls `send_heartbeat` a few lines
later, and a receive minder may clear the flag between the two.  Here the test and the heartbeat
are two steps, and the heartbeat minders are told apart.  All other threads take the steps of the
process.
-/

namespace SbnClient

variable {P : Platform}

/-- Where a thread that runs `SBN_Client_HeartbeatMinder` is. -/
inductive HeartPhase where
  /-- At the test of `continue_heartbeat`, or asleep before it. -/
  | checking
  /-- Past the test. -/
  | sending
  | returned
  deriving DecidableEq, Repr

/-- The process, and where its heartbeat minders are; they are numbered in the order in which
they are started. -/
structure Beating (P : Platform) where
  process : Process P
  hearts : List HeartPhase

/-- No thread but the first, and that outside `SBN_Client_Init`. -/
def Beating.start (tbl : PipeTbl P) : Beating P :=
  ⟨.start tbl, []⟩

/-- What happens in one step. -/
inductive BeatingEvent (P : Platform) where
  | took (event : ProcessEvent P)
  | tested (heart : Nat)
  /-- `sockfd` is what the minder finds there, and to zero it sends nothing. -/
  | sent (heart : Nat) (sockfd : Int)
  | returned (heart : Nat)

/-- The event is not one of a heartbeat minder. -/
def ProcessEvent.OfOthers : ProcessEvent P → Prop
  | .beat | .heartReturned => False
  | _ => True

/-- The heartbeat minders that are started in the step. -/
def ProcessEvent.newHearts : ProcessEvent P → List HeartPhase
  | .heartCreated heartThreadStatus => if heartThreadStatus = 0 then [.checking] else []
  | _ => []

/-- The steps of all threads. -/
inductive Beating.Step (beating : Beating P) : BeatingEvent P → Beating P → Prop where
  | took {event : ProcessEvent P} {process : Process P}
      (step : beating.process.Step event process) (ofOthers : event.OfOthers) :
      Step beating (.took event) ⟨process, beating.hearts ++ event.newHearts⟩
  | tested {heart : Nat} (checking : beating.hearts[heart]? = some .checking)
      (continues : beating.process.client.flags.heartbeat = true) :
      Step beating (.tested heart)
        { beating with hearts := beating.hearts.set heart .sending }
  | sent {heart : Nat} (sending : beating.hearts[heart]? = some .sending) :
      Step beating (.sent heart beating.process.client.sockfd)
        { beating with hearts := beating.hearts.set heart .checking }
  | returned {heart : Nat} (checking : beating.hearts[heart]? = some .checking)
      (stops : beating.process.client.flags.heartbeat = false) :
      Step beating (.returned heart)
        ⟨{ beating.process with client := { beating.process.client with
            heartMinders := beating.process.client.heartMinders - 1 } },
          beating.hearts.set heart .returned⟩

/-- The step of the process that this is: a heartbeat minder takes its step with the test. -/
def BeatingEvent.observed : BeatingEvent P → List (ProcessEvent P)
  | .took event => [event]
  | .tested _ => [.beat]
  | .sent .. => []
  | .returned _ => [.heartReturned]

end SbnClient
