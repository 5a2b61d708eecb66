import Mathlib.Data.Set.List
import SbnClient.Foundations.TornWrites
import SbnClient.Output.Stream

/-!
# Writes that fall short

`CFE_SBN_Client_ReadBytes` repeats a short `read`, but `write_message` and
`send_heartbeat` call `write` once.  A frame of which `write` accepts a part is torn for
good: its rest is never written, and whatever is written next follows its first part.
-/

namespace SbnClient

variable {P : Platform}

/-- How many of `size` bytes a `write` accepts. -/
def WriteOutcome.accepted : WriteOutcome → Nat → Nat
  | .failed, _ => 0
  | .short count, size => min count size
  | .complete, size => size

/-- A call, as one frame handed to `write`, with the answer of `write`. -/
structure WriteEvent extends Transfer UInt8 where
  outcome : WriteOutcome

namespace WriteEvent

/-- `write` accepts some bytes of the frame and not all of them. -/
def Short (event : WriteEvent) : Prop :=
  0 < event.outcome.accepted event.handed.length ∧
    event.outcome.accepted event.handed.length < event.handed.length

/-- `write` is not called, or accepts nothing. -/
def Refused (event : WriteEvent) : Prop :=
  event.outcome.accepted event.handed.length = 0

/-- Once `write` has accepted a part of a frame, it accepts nothing any more. -/
def RefusedAfterShort (events : List WriteEvent) : Prop :=
  events.Pairwise fun earlier later => earlier.Short → later.Refused

end WriteEvent

/-- The bytes of the calls are whole frames in the order of the calls and then at most one
incomplete frame, and after that no call writes anything. -/
structure FramingKept (events : List WriteEvent) : Prop where
  stream : ∃ (frames : List Frame) (cut : List UInt8),
    (events.flatMap fun event => event.written) = streamOf frames ++ cut ∧
      (frames.map Frame.bytes).Sublist (events.map fun event => event.handed) ∧
      (cut = [] ∨ ∃ (frame : Frame) (event : WriteEvent), event ∈ events ∧
        event.handed = frame.bytes ∧ cut <+: frame.bytes ∧ cut ≠ frame.bytes)
  quiet : Transfer.NothingAfterTorn (events.map WriteEvent.toTransfer)

/-- One call with the outcome of its `write`, as a step of the pipe table. -/
def writeEventStep (tbl : PipeTbl P) (input : OutputCall P × WriteOutcome) :
    Option (PipeTbl P × WriteEvent) :=
  (outputStepWith input.2 tbl input.1).map fun (next, output) =>
    (next, ⟨⟨input.1.handed tbl, output.written⟩, input.2⟩)

/-! ## One call -/

theorem WriteOutcome.accepted_le (outcome : WriteOutcome) (size : Nat) :
    outcome.accepted size ≤ size := by
  cases outcome with
  | failed => exact Nat.zero_le _
  | short count => exact Nat.min_le_right _ _
  | complete => exact Nat.le_refl _

theorem snd_write (outcome : WriteOutcome) (buffer : List UInt8) :
    (write outcome buffer).2 = buffer.take (outcome.accepted buffer.length) := by
  cases outcome with
  | failed => rfl
  | short count =>
      rw [write, WriteOutcome.accepted]
      exact List.take_eq_take_min
  | complete => exact List.take_length.symm

/-- The event is one `write` of a frame, or none. -/
structure WriteEvent.Sound (event : WriteEvent) : Prop where
  handed : event.handed = [] ∨ ∃ frame : Frame, event.handed = frame.bytes
  written : event.written = event.handed.take (event.outcome.accepted event.handed.length)

/-- A call hands the same bytes to `write` whatever `write` does with them. -/
theorem exists_handed (layout : SbnLayout P) {tbl : PipeTbl P} (registry : Registry tbl)
    {call : OutputCall P} (permitted : call.Permits tbl) :
    ∃ handed : List UInt8, (handed = [] ∨ ∃ frame : Frame, handed = frame.bytes) ∧
      ∀ outcome, ∃ next returned, outputStepWith outcome tbl call =
        some (next, ⟨returned, (write outcome handed).2⟩) ∧ Registry next := by
  have silent : ∀ outcome, (write outcome []).2 = [] := fun outcome => by
    rw [snd_write, List.take_nil]
  cases call with
  | sendHeartbeat =>
      refine ⟨heartbeatFrame.bytes, .inr ⟨_, rfl⟩, fun outcome =>
        ⟨tbl, .count (write outcome heartbeatFrame.bytes).1, ?_, registry⟩⟩
      rw [outputStepWith, sendHeartbeat_eq layout]
  | sendMsg malloc memory =>
      by_cases tooBig : P.maxMessageSize < (getTotalMsgLength P memory).toNat + P.packedHdrSz
      · refine ⟨[], .inl rfl, fun outcome => ⟨tbl, .code .msgTooBig, ?_, registry⟩⟩
        rw [outputStepWith, sendMsg_tooBig tooBig, silent]
        rfl
      · have fits := Nat.not_lt.mp tooBig
        have whole := permitted.1.resolve_left tooBig
        refine ⟨(appFrame P clientCpuId memory).bytes, .inr ⟨_, rfl⟩, fun outcome => ?_⟩
        have sent := sendMsg_eq layout clientCpuId malloc outcome fits whole
        exact ⟨tbl, _, by rw [outputStepWith, sent]; rfl, registry⟩
  | subscribe msgId pipeId =>
      obtain ⟨k, rfl⟩ := exists_indexId permitted.2
      cases found : (if (tbl k).inUse = inUse then freeSlot (tbl k) else none) with
      | none =>
          refine ⟨[], .inl rfl, fun outcome => ⟨tbl, .code .badArgument, ?_, registry⟩⟩
          rw [outputStepWith, subscribe_indexId registry, found, silent]
          rfl
      | some j =>
          refine ⟨(subFrame layout msgId).bytes, .inr ⟨_, rfl⟩, fun outcome =>
            ⟨Function.update tbl k (storeMsgId (tbl k) j msgId), .code .success, ?_, ?_⟩⟩
          · rw [outputStepWith, subscribe_indexId registry, found, sendSubToSbn_eq layout]
            rfl
          · split at found
            next used => exact registry.contentStep (.subscribed k j msgId used found)
            next => simp at found
  | silent op =>
      obtain ⟨next, outcome, ran, kept⟩ := registry.applyOp permitted.1.1
      refine ⟨[], .inl rfl, fun outcome => ⟨next, .other, ?_, kept⟩⟩
      rw [outputStepWith, ran, silent]
      rfl

theorem writeEventStep_sound (layout : SbnLayout P) {tbl : PipeTbl P} (registry : Registry tbl)
    {input : OutputCall P × WriteOutcome} (permitted : input.1.Permits tbl) :
    ∃ next event, writeEventStep tbl input = some (next, event) ∧ Registry next ∧
      event.Sound ∧ event.outcome = input.2 := by
  obtain ⟨handed, shape, writes⟩ := exists_handed layout registry permitted
  obtain ⟨next, returned, ran, kept⟩ := writes input.2
  obtain ⟨whole, success, ranWhole, -⟩ := writes .complete
  have handedEq : input.1.handed tbl = handed := by
    rw [OutputCall.handed, outputStep, ranWhole]
    rfl
  refine ⟨next, _, by rw [writeEventStep, ran, Option.map_some], kept, ?_, rfl⟩
  constructor
  · simpa [handedEq] using shape
  · simp only [handedEq, snd_write]

/-! ## Runs -/

namespace WriteEvent.Sound

variable {event : WriteEvent}

theorem length_written (sound : event.Sound) :
    event.written.length = event.outcome.accepted event.handed.length := by
  rw [sound.written, List.length_take_of_le (event.outcome.accepted_le _)]

theorem handed_ne_nil (sound : event.Sound) (wrote : event.written ≠ []) :
    event.handed ≠ [] := by
  intro none
  rw [sound.written, none, List.take_nil] at wrote
  exact wrote rfl

theorem refused_iff (sound : event.Sound) : event.Refused ↔ event.written = [] := by
  rw [Refused, ← sound.length_written, List.length_eq_zero_iff]

/-- The frame is torn exactly when `write` falls short. -/
theorem short_iff (sound : event.Sound) : event.Short ↔ event.Torn := by
  rw [Short, Transfer.Torn, ← sound.length_written, List.length_pos_iff]
  refine and_congr_right fun _ => ?_
  constructor
  · intro shorter same
    rw [same] at shorter
    exact lt_irrefl _ shorter
  · intro different
    by_contra notShorter
    rw [sound.length_written] at notShorter
    exact different (sound.written.trans (List.take_of_length_le (not_lt.mp notShorter)))

end WriteEvent.Sound

/-- Each call whose frame is torn is one whose `write` falls short, and so on. -/
theorem refusedAfterShort_iff {events : List WriteEvent} (sound : ∀ event ∈ events, event.Sound) :
    WriteEvent.RefusedAfterShort events ↔
      Transfer.NothingAfterTorn (events.map WriteEvent.toTransfer) := by
  rw [WriteEvent.RefusedAfterShort, Transfer.NothingAfterTorn, List.pairwise_map]
  refine List.Pairwise.iff_of_mem fun {earlier later} isEarlier isLater => ?_
  rw [(sound earlier isEarlier).short_iff, (sound later isLater).refused_iff]

/-- Frames that were handed over. -/
theorem exists_frames {events : List WriteEvent} (sound : ∀ event ∈ events, event.Sound)
    {units : List (List UInt8)}
    (handed : ∀ unit ∈ units, unit ≠ [] ∧ ∃ event ∈ events, event.handed = unit) :
    ∃ frames : List Frame, frames.map Frame.bytes = units := by
  have inRange : units ∈ Set.range (List.map Frame.bytes) := by
    rw [Set.range_list_map]
    intro unit member
    obtain ⟨nonempty, event, isEvent, same⟩ := handed unit member
    rcases (sound event isEvent).handed with none | ⟨frame, isFrame⟩
    · exact absurd (same.symm.trans none) nonempty
    · exact ⟨frame, isFrame.symm.trans same⟩
  exact inRange

theorem framingKept_iff {events : List WriteEvent} (sound : ∀ event ∈ events, event.Sound) :
    FramingKept events ↔ WriteEvent.RefusedAfterShort events := by
  rw [refusedAfterShort_iff sound]
  refine ⟨FramingKept.quiet, fun quiet => ⟨?_, quiet⟩⟩
  obtain ⟨units, tail, stream, inOrder, ending⟩ := quiet.exists_whole_units
  have handed : ∀ unit ∈ units, unit ≠ [] ∧ ∃ event ∈ events, event.handed = unit := by
    intro unit member
    obtain ⟨transfer, inFilter, rfl⟩ := List.mem_map.mp (inOrder.subset member)
    obtain ⟨isTransfer, wrote⟩ := List.mem_filter.mp inFilter
    obtain ⟨event, isEvent, rfl⟩ := List.mem_map.mp isTransfer
    exact ⟨(sound event isEvent).handed_ne_nil (of_decide_eq_true wrote), event, isEvent, rfl⟩
  obtain ⟨frames, rfl⟩ := exists_frames sound handed
  refine ⟨frames, tail, ?_, ?_, ?_⟩
  · rw [List.flatMap_map] at stream
    rw [stream, streamOf, List.flatMap_def]
  · have handedInOrder := inOrder.trans (List.filter_sublist.map _)
    rwa [List.map_map] at handedInOrder
  · rcases ending with none | ⟨transfer, isTransfer, torn, rfl⟩
    · exact .inl none
    · obtain ⟨event, isEvent, rfl⟩ := List.mem_map.mp isTransfer
      have eventSound := sound event isEvent
      rcases eventSound.handed with none | ⟨frame, isFrame⟩
      · exact absurd none (eventSound.handed_ne_nil torn.1)
      · refine .inr ⟨frame, event, isEvent, isFrame, ?_, fun same => ?_⟩
        · rw [← isFrame, eventSound.written]
          exact List.take_prefix _ _
        · exact torn.2 (same.trans isFrame.symm)

/-- Whatever each `write` accepts, the output of a run is framed after every call exactly when
no `write` accepts anything after one that has accepted a part of its frame. -/
theorem framing_kept_iff (layout : SbnLayout P) {start : PipeTbl P} (reachable : Reachable start)
    (calls : List (OutputCall P × WriteOutcome))
    (permitted : Machine.Permitted writeEventStep (fun tbl input => input.1.Permits tbl)
      start calls) :
    ∃ final events, Machine.run writeEventStep start calls = some (final, events) ∧
      events.map WriteEvent.outcome = calls.map Prod.snd ∧
      ((∀ count, FramingKept (events.take count)) ↔ WriteEvent.RefusedAfterShort events) := by
  have sounds : ∀ (tbl : PipeTbl P) (input : OutputCall P × WriteOutcome), Registry tbl →
      input.1.Permits tbl → ∃ next event, writeEventStep tbl input = some (next, event) ∧
        Registry next ∧ event.Sound ∧ event.outcome = input.2 :=
    fun _ _ registry permitted => writeEventStep_sound layout registry permitted
  obtain ⟨final, events, ran, -, post⟩ :=
    Machine.run_postcondition sounds calls reachable.registry permitted
  have eachEvent : List.Forall₂
      (fun (event : WriteEvent) (input : OutputCall P × WriteOutcome) =>
        event.Sound ∧ event.outcome = input.2) events calls := post.flip
  obtain ⟨sound, answers⟩ := (List.forall₂_and_left _ _).mp eachEvent
  refine ⟨final, events, ran, ?_, ?_⟩
  · rwa [← List.forall₂_eq_eq_eq, List.forall₂_map_left_iff, List.forall₂_map_right_iff]
  constructor
  · intro kept
    have all := kept events.length
    rwa [List.take_length, framingKept_iff sound] at all
  · intro refused count
    rw [framingKept_iff fun event member => sound event (List.mem_of_mem_take member)]
    exact refused.sublist (List.take_sublist _ _)

/-- Three bytes of a heartbeat, and then a whole heartbeat. -/
theorem heartbeat_after_short_heartbeat :
    ∃ (start final : PipeTbl (standardPlatform 32768)) (events : List WriteEvent),
      Reachable start ∧
      Machine.run writeEventStep start [(.sendHeartbeat, .short 3), (.sendHeartbeat, .complete)] =
        some (final, events) ∧
      (events.flatMap fun event => event.written) = [0, 0, 0xA0, 0, 0, 0xA0, 0, 0, 0, 2] ∧
      ¬ ∀ count, FramingKept (events.take count) := by
  refine ⟨initPipeTbl (zeroPipeTbl _), _, _, ⟨_, [], [], trivial, rfl⟩, rfl, by decide, ?_⟩
  intro kept
  have quiet := (kept 2).quiet
  have torn := (List.pairwise_cons.mp quiet).1 _ (.head _)
  exact absurd (torn ⟨by decide, by decide⟩) (by decide)

/-- A heartbeat, a failed one, and a message of which two bytes are written at the end. -/
theorem short_message_at_the_end :
    let calls : List (OutputCall (standardPlatform 32768) × WriteOutcome) :=
      [(.sendHeartbeat, .complete), (.sendHeartbeat, .failed),
        (.sendMsg (Buffer.filled · 0xEE) [8, 1, 0, 0, 0, 1, 7, 7], .short 2)]
    let start := initPipeTbl (zeroPipeTbl (standardPlatform 32768))
    ∃ final events, Machine.run writeEventStep start calls = some (final, events) ∧
      events.map WriteEvent.outcome = calls.map Prod.snd ∧
      ((∀ count, FramingKept (events.take count)) ↔ WriteEvent.RefusedAfterShort events) := by
  refine framing_kept_iff (standardPlatform_sbnLayout (by decide)) ⟨_, [], [], trivial, rfl⟩ _ ?_
  exact ⟨⟨trivial, trivial⟩, fun _ _ _ => ⟨⟨trivial, trivial⟩, fun _ _ _ =>
    ⟨⟨.inr (by decide), trivial⟩, fun _ _ _ => trivial⟩⟩⟩

end SbnClient
