import SbnClient.Model.Output

/-!
# Writers on several threads

`send_heartbeat`, `__wrap_CFE_SB_SendMsg` and `__wrap_CFE_SB_Subscribe` each make up a frame in
memory of their own and then call `write` once.  Another thread may come between the two, and
then its frame goes out first, although its call has begun later.
-/

namespace SbnClient

variable {P : Platform} {Thread : Type*}

/-- A call up to its `write`. -/
def prepare (tbl : PipeTbl P) : OutputCall P → Option (PipeTbl P × Prepared Returned)
  | .sendHeartbeat => some (tbl, .writes (packHeartbeat P).buf.bytes)
  | .sendMsg malloc memory =>
      (prepareMsg P clientCpuId malloc memory).map fun prepared => (tbl, prepared.map .code)
  | .subscribe msgId pipeId =>
      (prepareSubscribe tbl msgId pipeId).map fun (tbl, prepared) => (tbl, prepared.map .code)
  | .silent op => (applyOp tbl op).map fun (tbl, _) => (tbl, .returns .other)

/-- A call from its `write` on. -/
def OutputCall.finish (outcome : WriteOutcome) (buffer : List UInt8) : OutputCall P → Output
  | .sendHeartbeat =>
      let (retval, written) := write outcome buffer
      ⟨.count retval, written⟩
  | .sendMsg _ memory =>
      let (status, written) := finishMsg P memory outcome buffer
      ⟨.code status, written⟩
  | .subscribe .. =>
      let (status, written) := finishSubscribe outcome buffer
      ⟨.code status, written⟩
  | .silent _ => ⟨.other, []⟩

/-- What becomes of a call whose `write`, where it gets to one, has the given outcome. -/
def OutputCall.output (outcome : WriteOutcome) (call : OutputCall P) :
    Prepared Returned → Output
  | .writes buffer => call.finish outcome buffer
  | .returns returned => ⟨returned, []⟩

/-- The call in one go. -/
theorem outputStepWith_eq_prepare (outcome : WriteOutcome) (tbl : PipeTbl P)
    (call : OutputCall P) :
    outputStepWith outcome tbl call =
      (prepare tbl call).map (Prod.map id (call.output outcome)) := by
  cases call with
  | sendHeartbeat => rfl
  | sendMsg malloc memory =>
      rw [outputStepWith, sendMsg, prepare, Option.map_map, Option.map_map]
      refine congrArg (Option.map · _) (funext fun prepared => ?_)
      cases prepared <;> rfl
  | subscribe msgId pipeId =>
      rw [outputStepWith, subscribe, prepare, Option.map_map, Option.map_map]
      refine congrArg (Option.map · _) (funext fun pair => ?_)
      obtain ⟨next, prepared⟩ := pair
      cases prepared <;> rfl
  | silent op =>
      rw [outputStepWith, prepare, Option.map_map]
      rfl

/-- The threads: the table, the bytes that are on the socket, and for each thread the call that
it has prepared with the bytes that it is about to write. -/
structure Writers (P : Platform) (Thread : Type*) where
  tbl : PipeTbl P
  stream : List UInt8
  about : Thread → Option (OutputCall P × List UInt8)

/-- What a thread does. -/
inductive WriterEvent (P : Platform) (Thread : Type*) where
  | prepared (thread : Thread) (call : OutputCall P) (buffer : List UInt8)
  | returned (thread : Thread) (call : OutputCall P) (returned : Returned)
  | wrote (thread : Thread) (call : OutputCall P) (outcome : WriteOutcome) (output : Output)

variable [DecidableEq Thread]

/-- The steps of the threads. -/
inductive Writers.Step (threads : Writers P Thread) :
    WriterEvent P Thread → Writers P Thread → Prop where
  | prepared (thread : Thread) {call : OutputCall P} {next : PipeTbl P} {buffer : List UInt8}
      (idle : threads.about thread = none)
      (ran : prepare threads.tbl call = some (next, .writes buffer)) :
      Step threads (.prepared thread call buffer) { threads with
        tbl := next, about := Function.update threads.about thread (some (call, buffer)) }
  | returned (thread : Thread) {call : OutputCall P} {next : PipeTbl P} {returned : Returned}
      (idle : threads.about thread = none)
      (ran : prepare threads.tbl call = some (next, .returns returned)) :
      Step threads (.returned thread call returned) { threads with tbl := next }
  | wrote (thread : Thread) {call : OutputCall P} {buffer : List UInt8} (outcome : WriteOutcome)
      (about : threads.about thread = some (call, buffer)) :
      Step threads (.wrote thread call outcome (call.finish outcome buffer)) { threads with
        stream := threads.stream ++ (call.finish outcome buffer).written
        about := Function.update threads.about thread none }

/-- No thread is in a call, and nothing has been written. -/
def Writers.start (tbl : PipeTbl P) : Writers P Thread :=
  ⟨tbl, [], fun _ => none⟩

end SbnClient
