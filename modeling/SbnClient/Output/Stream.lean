import Mathlib.Data.List.Forall2
import SbnClient.Model.Output
import SbnClient.Model.StandardPlatform
import SbnClient.Output.Packing
import SbnClient.Registry.Invariant

/-!
# The stream that the client writes

Whatever the order of the calls, what they put on the socket is a sequence of whole
frames, one for each writer that reports success.  A peer that reads headers as
`recv_msg` does therefore recovers the messages.  This needs each `Subscribe` to be for an id
below the number of pipes: the code looks the id up in the table before it checks it.
-/

namespace SbnClient

variable {P : Platform}

/-- The message that a successful call sends. -/
def OutputCall.message : OutputCall P → Option SbnMessage
  | .sendHeartbeat => some ⟨sbnHeartbeatMsg, 2, []⟩
  | .sendMsg _ memory =>
      some ⟨P.sbnAppMsg, 2, memory.take (getTotalMsgLength P memory).toNat⟩
  | .subscribe msgId _ => some ⟨P.sbnSubMsg, 2, subPayload P msgId ⟨0, 0⟩⟩
  | .silent _ => none

/-- The messages that a call has sent, given what it returned: one or none. -/
def OutputCall.sent (call : OutputCall P) (returned : Returned) : List SbnMessage :=
  if returned.Succeeded then call.message.toList else []

/-- What a call wrote is the frames of the messages it has sent, and nothing if it failed. -/
structure Emits (call : OutputCall P) (output : Output) : Prop where
  frames : ∃ frames : List Frame, output.written = streamOf frames ∧
    frames.map Frame.message = call.sent output.returned
  refused : ¬ output.returned.Succeeded → output.written = []

/-! ## One call -/

theorem emits_frame {call : OutputCall P} {returned : Returned} {frame : Frame}
    (succeeded : returned.Succeeded) (message : call.message = some frame.message) :
    Emits call ⟨returned, frame.bytes⟩ where
  frames := by
    refine ⟨[frame], ?_, ?_⟩
    · rw [streamOf_cons]
      exact (List.append_nil _).symm
    · rw [OutputCall.sent, if_pos succeeded, message]
      rfl
  refused failed := absurd succeeded failed

theorem emits_nothing {call : OutputCall P} {returned : Returned}
    (unsent : call.sent returned = []) : Emits call ⟨returned, []⟩ where
  frames := ⟨[], rfl, unsent.symm⟩
  refused _ := rfl

theorem emits_failed {call : OutputCall P} {status : Status} (failed : status ≠ .success) :
    Emits call ⟨.code status, []⟩ :=
  emits_nothing (if_neg failed)

theorem emits_subscribe (layout : SbnLayout P) {tbl : PipeTbl P} (registry : Registry tbl)
    (msgId : MsgId P) (k : Fin maxPipes) :
    ∃ next status written,
      subscribe tbl msgId (indexId k) .complete = some (next, status, written) ∧
      ContentStep tbl next ∧ Emits (.subscribe msgId (indexId k)) ⟨.code status, written⟩ := by
  obtain ⟨⟨next, status, written⟩, ran, step⟩ := contentStep_subscribe registry msgId k .complete
  refine ⟨next, status, written, ran, step, ?_⟩
  rw [subscribe_indexId registry, Option.some.injEq] at ran
  split at ran
  next =>
    cases ran
    rw [sendSubToSbn_eq layout]
    exact emits_frame rfl rfl
  next =>
    cases ran
    exact emits_failed (by simp)

theorem emits_sendMsg (layout : SbnLayout P) (malloc : (size : Nat) → Buffer size)
    {memory : List UInt8}
    (allowed : P.maxMessageSize < (getTotalMsgLength P memory).toNat + P.packedHdrSz ∨
      (getTotalMsgLength P memory).toNat ≤ memory.length) :
    ∃ status written, sendMsg P clientCpuId malloc memory .complete = some (status, written) ∧
      Emits (P := P) (.sendMsg malloc memory) ⟨.code status, written⟩ := by
  by_cases tooBig : P.maxMessageSize < (getTotalMsgLength P memory).toNat + P.packedHdrSz
  · exact ⟨_, _, sendMsg_tooBig tooBig, emits_failed (by simp)⟩
  · have fits := Nat.not_lt.mp tooBig
    have whole := allowed.resolve_left tooBig
    exact ⟨_, _, sendMsg_complete layout clientCpuId malloc fits whole, emits_frame rfl rfl⟩

/-- Every permitted call returns and emits its frame. -/
theorem outputStep_emits (layout : SbnLayout P) {tbl : PipeTbl P} {call : OutputCall P}
    (registry : Registry tbl) (permitted : call.Permits tbl) :
    ∃ next output, outputStep tbl call = some (next, output) ∧ Registry next ∧
      Emits call output := by
  cases call with
  | sendHeartbeat =>
      refine ⟨tbl, ⟨.count 7, heartbeatFrame.bytes⟩, ?_, registry, emits_frame ?_ rfl⟩
      · rw [outputStep, outputStepWith, sendHeartbeat_complete layout]
      · exact Int.le_of_lt (by decide)
  | sendMsg malloc memory =>
      obtain ⟨status, written, ran, emits⟩ := emits_sendMsg layout malloc permitted.1
      exact ⟨tbl, ⟨.code status, written⟩, by rw [outputStep, outputStepWith, ran]; rfl,
        registry, emits⟩
  | subscribe msgId pipeId =>
      obtain ⟨k, rfl⟩ := exists_indexId permitted.2
      obtain ⟨next, status, written, ran, step, emits⟩ := emits_subscribe layout registry msgId k
      exact ⟨next, ⟨.code status, written⟩, by rw [outputStep, outputStepWith, ran]; rfl,
        registry.contentStep step, emits⟩
  | silent op =>
      obtain ⟨next, outcome, ran, kept⟩ := registry.applyOp permitted.1.1
      exact ⟨next, ⟨.other, []⟩, by rw [outputStep, outputStepWith, ran]; rfl, kept,
        emits_nothing rfl⟩

/-! ## Runs -/

/-- The outputs of calls that emit their frames, one after the other. -/
theorem exists_frames_of_emits {calls : List (OutputCall P)} {outputs : List Output}
    (emits : List.Forall₂ Emits calls outputs) :
    ∃ frames : List Frame, outputs.flatMap Output.written = streamOf frames ∧
      frames.map Frame.message =
        (calls.zip outputs).flatMap fun pair => pair.1.sent pair.2.returned := by
  induction emits with
  | nil => exact ⟨[], rfl, rfl⟩
  | @cons call output calls outputs emits _ ih =>
      obtain ⟨first, written, messages⟩ := emits.frames
      obtain ⟨rest, restWritten, restMessages⟩ := ih
      refine ⟨first ++ rest, ?_, ?_⟩
      · rw [List.flatMap_cons, written, restWritten, streamOf, streamOf, streamOf,
          List.flatMap_append]
      · rw [List.map_append, messages, restMessages, List.zip_cons_cons, List.flatMap_cons]

/-- Every interleaving of heartbeats, messages, subscriptions and other calls writes a stream
that decodes, with nothing left over, to the messages of the successful calls in their
order.  A call that reports an error has written nothing. -/
theorem output_decodes (layout : SbnLayout P) {start : PipeTbl P} (reachable : Reachable start)
    (calls : List (OutputCall P))
    (permitted : Machine.Permitted outputStep OutputCall.Permits start calls) :
    ∃ final outputs, Machine.run outputStep start calls = some (final, outputs) ∧
      decodeStream (outputs.flatMap Output.written) =
        some ((calls.zip outputs).flatMap fun pair => pair.1.sent pair.2.returned) ∧
      List.Forall₂ (fun _ output => ¬ output.returned.Succeeded → output.written = [])
        calls outputs := by
  have emitting : ∀ (tbl : PipeTbl P) (call : OutputCall P), Registry tbl → call.Permits tbl →
      ∃ next output, outputStep tbl call = some (next, output) ∧ Registry next ∧
        Emits call output :=
    fun _ _ registry permitted => outputStep_emits layout registry permitted
  obtain ⟨final, outputs, ran, -, emits⟩ :=
    Machine.run_postcondition emitting calls reachable.registry permitted
  obtain ⟨frames, written, messages⟩ := exists_frames_of_emits emits
  refine ⟨final, outputs, ran, ?_, emits.imp fun _ _ emits => emits.refused⟩
  rw [written, decodeStream_streamOf, messages]

/-- A `Subscribe` with any other id reads outside the table. -/
theorem inTable_of_outputStep {tbl next : PipeTbl P} {call : OutputCall P} {output : Output}
    (ran : outputStep tbl call = some (next, output)) : call.InTable := by
  cases call with
  | subscribe msgId pipeId =>
      obtain ⟨result, subscribed, -⟩ := Option.map_eq_some_iff.mp ran
      exact inTable_of_subscribe subscribed
  | sendHeartbeat | sendMsg | silent => trivial

/-- The calls of any interleaving are defined and write such a stream if and only if each
`Subscribe` is for an id of the table. -/
theorem output_decodes_iff (layout : SbnLayout P) {start : PipeTbl P}
    (reachable : Reachable start) (calls : List (OutputCall P))
    (supplied : Machine.Permitted outputStep OutputCall.Supplied start calls) :
    (∃ final outputs, Machine.run outputStep start calls = some (final, outputs) ∧
      decodeStream (outputs.flatMap Output.written) =
        some ((calls.zip outputs).flatMap fun pair => pair.1.sent pair.2.returned) ∧
      List.Forall₂ (fun _ output => ¬ output.returned.Succeeded → output.written = [])
        calls outputs) ↔ ∀ call ∈ calls, call.InTable := by
  constructor
  · rintro ⟨final, outputs, ran, -⟩
    exact Machine.forall_of_run (fun _ _ _ _ => inTable_of_outputStep) ran
  · intro inTable
    have allowed : Machine.Permitted outputStep (fun _ call => call.InTable) start calls :=
      Machine.permitted_of_forall (fun call member _ => inTable call member) start
    exact output_decodes layout reachable calls (supplied.and allowed)

/-- A pipe is created and subscribed, with heartbeats in between, a message is sent and one
with too many bytes is refused. -/
theorem subscribed_client_output :
    let calls : List (OutputCall (standardPlatform 32768)) :=
      [.sendHeartbeat, .silent (.createPipe true 4 [0x41]), .subscribe 0x0801 0, .sendHeartbeat,
        .sendMsg (Buffer.filled · 0xEE) [8, 1, 0, 0, 0, 1, 7, 7],
        .sendMsg (Buffer.filled · 0xEE) [8, 1, 0, 0, 0xFF, 0]]
    let start := initPipeTbl (zeroPipeTbl (standardPlatform 32768))
    ∃ final outputs, Machine.run outputStep start calls = some (final, outputs) ∧
      decodeStream (outputs.flatMap Output.written) =
        some ((calls.zip outputs).flatMap fun pair => pair.1.sent pair.2.returned) ∧
      List.Forall₂ (fun _ output => ¬ output.returned.Succeeded → output.written = [])
        calls outputs := by
  refine (output_decodes_iff (standardPlatform_sbnLayout (by decide)) ⟨_, [], [], trivial, rfl⟩
    _ ?_).mpr ?_
  · have created : ∀ tbl, OutputCall.Supplied tbl
        (.silent (.createPipe true 4 [0x41]) : OutputCall (standardPlatform 32768)) :=
      fun _ => ⟨trivial, by simp⟩
    refine ⟨trivial, fun _ _ _ => ⟨created _, fun _ _ _ => ⟨trivial, fun _ _ _ => ⟨trivial,
      fun _ _ _ => ⟨.inr ?_, fun _ _ _ => ⟨.inl ?_, fun _ _ _ => trivial⟩⟩⟩⟩⟩⟩
    · decide
    · exact Nat.le_of_ble_eq_true rfl
  · simp [OutputCall.InTable, maxPipes]

/-- `CreatePipe` is refused and stores the invalid id, and `Subscribe` with that id reads
outside the table, so that the calls have no stream at all. -/
theorem invalid_pipe_has_no_output :
    let calls : List (OutputCall (standardPlatform 32768)) :=
      [.sendHeartbeat, .silent (.createPipe true 0 [0x41]), .subscribe 0x0801 invalidPipe]
    let start := initPipeTbl (zeroPipeTbl (standardPlatform 32768))
    Reachable start ∧ Machine.Permitted outputStep OutputCall.Supplied start calls ∧
      (createPipe start true 0 [0x41]).pipeId = some invalidPipe ∧
      outputStep start (.subscribe 0x0801 invalidPipe) = none ∧
      ¬ ∃ final outputs, Machine.run outputStep start calls = some (final, outputs) ∧
        decodeStream (outputs.flatMap Output.written) =
          some ((calls.zip outputs).flatMap fun pair => pair.1.sent pair.2.returned) ∧
        List.Forall₂ (fun _ output => ¬ output.returned.Succeeded → output.written = [])
          calls outputs := by
  intro calls start
  refine ⟨⟨_, [], [], trivial, rfl⟩, ?_, rfl, rfl, ?_⟩
  · exact ⟨trivial, fun _ _ _ => ⟨⟨trivial, by simp⟩, fun _ _ _ => ⟨trivial,
      fun _ _ _ => trivial⟩⟩⟩
  · rintro ⟨final, outputs, ran, -⟩
    have inTable := Machine.forall_of_run (fun _ _ _ _ => inTable_of_outputStep) ran
      (.subscribe 0x0801 invalidPipe) (by simp [calls])
    exact absurd inTable (show ¬ invalidPipe.toNat < maxPipes by decide)

end SbnClient
