import SbnClient.Model.Writers
import SbnClient.Output.Stream

/-!
# Writers that overtake each other

The table is the one of the calls in the order in which they have been prepared, and the stream
is that of the calls in the order in which they have been written.  The two orders may differ,
but not in the calls of one thread.
-/

namespace SbnClient

variable {P : Platform} {Thread : Type*}

/-- A call of a thread and what came of it. -/
structure Performed (P : Platform) (Thread : Type*) where
  thread : Thread
  call : OutputCall P
  output : Output

/-- The call that has done its work on the table, with what comes of it if its `write` is
complete. -/
def WriterEvent.begun : WriterEvent P Thread → Option (Performed P Thread)
  | .prepared thread call buffer => some ⟨thread, call, call.finish .complete buffer⟩
  | .returned thread call told => some ⟨thread, call, ⟨told, []⟩⟩
  | .wrote .. => none

/-- The call that has returned. -/
def WriterEvent.ended : WriterEvent P Thread → Option (Performed P Thread)
  | .prepared .. => none
  | .returned thread call told => some ⟨thread, call, ⟨told, []⟩⟩
  | .wrote thread call _ output => some ⟨thread, call, output⟩

/-- The call that a thread has begun and not ended. -/
def Writers.unended (threads : Writers P Thread) (thread : Thread) : List (Performed P Thread) :=
  (threads.about thread).toList.map fun (call, buffer) =>
    ⟨thread, call, call.finish .complete buffer⟩

/-- The calls are permitted, and every `write` is complete. -/
def Writers.Permits (permits : PipeTbl P → OutputCall P → Prop) (threads : Writers P Thread) :
    WriterEvent P Thread → Prop
  | .prepared _ call _ | .returned _ call _ => permits threads.tbl call
  | .wrote _ _ outcome _ => outcome = .complete

variable [DecidableEq Thread]

/-- The calls of one thread. -/
def callsBy (thread : Thread) (performed : List (Performed P Thread)) :
    List (Performed P Thread) :=
  performed.filter fun done => done.thread = thread

/-- What the threads have made of the table and of the stream, each call doing what `good`
says. -/
structure Progress (good : OutputCall P → Output → Prop) (start : PipeTbl P)
    (begun ended : List (Performed P Thread)) (threads : Writers P Thread) : Prop where
  registry : Registry threads.tbl
  ran : Machine.run outputStep start (begun.map Performed.call) =
    some (threads.tbl, begun.map Performed.output)
  stream_eq : threads.stream = ended.flatMap fun done => done.output.written
  good : ∀ done ∈ begun, good done.call done.output
  order : ∀ thread, callsBy thread begun = callsBy thread ended ++ threads.unended thread

/-! ## One step -/

/-- A call is done in one step of the table, whether or not it gets to its `write`. -/
theorem outputStep_of_prepare {tbl next : PipeTbl P} {call : OutputCall P}
    {prepared : Prepared Returned} (ran : prepare tbl call = some (next, prepared)) :
    outputStep tbl call = some (next, call.output .complete prepared) := by
  rw [outputStep, outputStepWith_eq_prepare, ran]
  rfl

variable {good : OutputCall P → Output → Prop} {permits : PipeTbl P → OutputCall P → Prop}
  {start : PipeTbl P} {begun ended : List (Performed P Thread)} {threads after : Writers P Thread}

/-- The calls of each thread are ended in the order in which they are begun. -/
theorem callsBy_step
    (order : ∀ thread, callsBy thread begun = callsBy thread ended ++ threads.unended thread)
    {event : WriterEvent P Thread} (step : threads.Step event after)
    (permitted : threads.Permits permits event) (thread : Thread) :
    callsBy thread (begun ++ event.begun.toList) =
      callsBy thread (ended ++ event.ended.toList) ++ after.unended thread := by
  have before := order thread
  cases step with
  | prepared actor idle ran =>
      by_cases same : thread = actor
      · subst same
        simpa [callsBy, Writers.unended, WriterEvent.begun, WriterEvent.ended, idle] using before
      · simpa [callsBy, Writers.unended, WriterEvent.begun, WriterEvent.ended, same,
          Ne.symm same] using before
  | returned actor idle ran =>
      by_cases same : thread = actor
      · subst same
        simpa [callsBy, Writers.unended, WriterEvent.begun, WriterEvent.ended, idle] using before
      · simpa [callsBy, Writers.unended, WriterEvent.begun, WriterEvent.ended, same,
          Ne.symm same] using before
  | wrote actor outcome about =>
      obtain rfl : outcome = .complete := permitted
      by_cases same : thread = actor
      · subst same
        simpa [callsBy, Writers.unended, WriterEvent.begun, WriterEvent.ended, about] using before
      · simpa [callsBy, Writers.unended, WriterEvent.begun, WriterEvent.ended, same,
          Ne.symm same] using before

theorem progress_start (registry : Registry start) :
    Progress good start [] [] (.start start : Writers P Thread) where
  registry := registry
  ran := rfl
  stream_eq := rfl
  good := List.forall_mem_nil _
  order _ := rfl

theorem Progress.step
    (performs : ∀ tbl call, Registry tbl → permits tbl call →
      ∃ next output, outputStep tbl call = some (next, output) ∧ Registry next ∧ good call output)
    (progress : Progress good start begun ended threads) {event : WriterEvent P Thread}
    (step : threads.Step event after) (permitted : threads.Permits permits event) :
    Progress good start (begun ++ event.begun.toList) (ended ++ event.ended.toList) after := by
  have goesOn : ∀ (thread : Thread) {call next prepared}, permits threads.tbl call →
      prepare threads.tbl call = some (next, prepared) →
      let done : Performed P Thread := ⟨thread, call, call.output .complete prepared⟩
      Registry next ∧ Machine.run outputStep start ((begun ++ [done]).map Performed.call) =
          some (next, (begun ++ [done]).map Performed.output) ∧
        ∀ other ∈ begun ++ [done], good other.call other.output := by
    intro thread call next prepared permitted ran done
    obtain ⟨again, output, stepped, registry, isGood⟩ := performs _ _ progress.registry permitted
    rw [outputStep_of_prepare ran, Option.some.injEq, Prod.mk.injEq] at stepped
    obtain ⟨rfl, rfl⟩ := stepped
    refine ⟨registry, ?_, ?_⟩
    · rw [List.map_append, List.map_append]
      exact Machine.run_concat progress.ran (outputStep_of_prepare ran)
    · rw [List.forall_mem_append, List.forall_mem_singleton]
      exact ⟨progress.good, isGood⟩
  have order := callsBy_step progress.order step permitted
  cases step with
  | @prepared thread call next buffer idle ran =>
      obtain ⟨registry, ranMore, goodMore⟩ := goesOn thread permitted ran
      refine ⟨registry, ranMore, ?_, goodMore, order⟩
      rw [WriterEvent.ended, Option.toList_none, List.append_nil]
      exact progress.stream_eq
  | @returned thread call next told idle ran =>
      obtain ⟨registry, ranMore, goodMore⟩ := goesOn thread permitted ran
      refine ⟨registry, ranMore, ?_, goodMore, order⟩
      rw [WriterEvent.ended, Option.toList_some, List.flatMap_append, List.flatMap_singleton,
        List.append_nil]
      exact progress.stream_eq
  | @wrote thread call buffer outcome about =>
      rw [WriterEvent.begun, Option.toList_none, List.append_nil] at order ⊢
      refine ⟨progress.registry, progress.ran, ?_, progress.good, order⟩
      rw [WriterEvent.ended, Option.toList_some, List.flatMap_append, List.flatMap_singleton,
        progress.stream_eq]

/-! ## Runs -/

/-- The calls that have done their work on the table, in that order. -/
def begunCalls (trace : List (WriterEvent P Thread)) : List (Performed P Thread) :=
  trace.flatMap fun event => event.begun.toList

/-- The calls that have returned, in that order. -/
def endedCalls (trace : List (WriterEvent P Thread)) : List (Performed P Thread) :=
  trace.flatMap fun event => event.ended.toList

theorem progress_run
    (performs : ∀ tbl call, Registry tbl → permits tbl call →
      ∃ next output, outputStep tbl call = some (next, output) ∧ Registry next ∧ good call output)
    (registry : Registry start) {trace : List (WriterEvent P Thread)}
    (run : Machine.Run (Machine.Guarded Writers.Step (Writers.Permits permits)) (.start start)
      trace threads) :
    Progress good start (begunCalls trace) (endedCalls trace) threads := by
  have preserves : ∀ trace (threads : Writers P Thread) event after,
      Progress good start (begunCalls trace) (endedCalls trace) threads →
      Machine.Guarded Writers.Step (Writers.Permits permits) threads event after →
      Progress good start (begunCalls (trace ++ [event])) (endedCalls (trace ++ [event]))
        after := by
    intro trace threads event after progress guarded
    rw [begunCalls, endedCalls, List.flatMap_append, List.flatMap_append, List.flatMap_singleton,
      List.flatMap_singleton]
    exact progress.step performs guarded.1 guarded.2
  exact @Machine.Run.invariant _ _ _ _
    (fun trace => Progress good start (begunCalls trace) (endedCalls trace))
    (progress_start registry) preserves _ _ run

/-- Calls that have ended are as good as those that have begun. -/
theorem Progress.good_of_ended (progress : Progress good start begun ended threads) :
    List.Forall₂ good (ended.map Performed.call) (ended.map Performed.output) := by
  rw [List.forall₂_map_left_iff, List.forall₂_map_right_iff, List.forall₂_same]
  intro done isEnded
  have member : done ∈ callsBy done.thread begun := by
    rw [progress.order]
    exact List.mem_append_left _ (List.mem_filter.mpr ⟨isEnded, decide_eq_true rfl⟩)
  exact progress.good done (List.mem_of_mem_filter member)

/-- Threads that send heartbeats, messages and subscriptions may come between the work that a
call does and its `write`.  The table is that of the calls, one after the other, as they did
their work; the stream decodes, with nothing left over, to the messages of the calls as they
have returned; and each thread has ended the calls that it has begun, in their order and with
what they return one after the other, but for the one that it is in. -/
theorem writers_decode (layout : SbnLayout P) (reachable : Reachable start)
    {trace : List (WriterEvent P Thread)}
    (run : Machine.Run (Machine.Guarded Writers.Step (Writers.Permits OutputCall.Permits))
      (.start start) trace threads) :
    Machine.run outputStep start ((begunCalls trace).map Performed.call) =
        some (threads.tbl, (begunCalls trace).map Performed.output) ∧
      decodeStream threads.stream = some
        ((endedCalls trace).flatMap fun done => done.call.sent done.output.returned) ∧
      ∀ thread, callsBy thread (begunCalls trace) =
        callsBy thread (endedCalls trace) ++ threads.unended thread := by
  have progress := progress_run
    (fun _ _ registry permitted => outputStep_emits layout registry permitted)
    reachable.registry run
  obtain ⟨frames, written, messages⟩ := exists_frames_of_emits progress.good_of_ended
  refine ⟨progress.ran, ?_, progress.order⟩
  rw [List.zip_map', List.flatMap_map] at messages
  rw [List.flatMap_map] at written
  rw [progress.stream_eq, written, decodeStream_streamOf, messages]

/-- Two threads subscribe one pipe, and the second one writes first. -/
theorem overtaken_subscription_decodes :
    ∃ (trace : List (WriterEvent (standardPlatform 64) Bool))
      (threads : Writers (standardPlatform 64) Bool), trace.length = 5 ∧
      ((threads.tbl 0).subscribedMsgIds 0, (threads.tbl 0).subscribedMsgIds 1) =
        (0x0801, 0x0802) ∧
      Machine.run outputStep (initPipeTbl (zeroPipeTbl _))
          ((begunCalls trace).map Performed.call) =
        some (threads.tbl, (begunCalls trace).map Performed.output) ∧
      decodeStream threads.stream = some
        ((endedCalls trace).flatMap fun done => done.call.sent done.output.returned) ∧
      ∀ thread, callsBy thread (begunCalls trace) =
        callsBy thread (endedCalls trace) ++ threads.unended thread := by
  have run := Machine.Run.refl
    |>.snoc (show Machine.Guarded Writers.Step (Writers.Permits OutputCall.Permits)
        (.start (initPipeTbl (zeroPipeTbl (standardPlatform 64))))
        (.returned true (.silent (.createPipe true 4 [0x41])) _) _ from
        ⟨.returned true rfl rfl, ⟨trivial, by simp⟩, trivial⟩)
    |>.snoc (show Machine.Guarded Writers.Step _ _ (.prepared true (.subscribe 0x0801 0) _) _ from
        ⟨.prepared true rfl rfl, trivial, show (0 : UInt8).toNat < maxPipes by decide⟩)
    |>.snoc (show Machine.Guarded Writers.Step _ _ (.prepared false (.subscribe 0x0802 0) _) _ from
        ⟨.prepared false rfl rfl, trivial, show (0 : UInt8).toNat < maxPipes by decide⟩)
    |>.snoc ⟨.wrote false .complete rfl, rfl⟩
    |>.snoc ⟨.wrote true .complete rfl, rfl⟩
  exact ⟨_, _, rfl, rfl, writers_decode (standardPlatform_sbnLayout (by decide))
    ⟨_, [], [], trivial, rfl⟩ run⟩

end SbnClient
