import SbnClient.Mailboxes.Refinement

/-!
# The queue of a pipe, read off its ring

A run may begin with any reachable table.  What its pipes hold then is the list of their
occupied slots after the retained one.
-/

namespace SbnClient

open RetainedRing

variable {P : Platform} {tbl : PipeTbl P}

/-- The payloads of every pipe that no `RcvMsg` has handed out yet, oldest first. -/
abbrev Queues := Fin maxPipes → List (List UInt8)

/-- The slot `offset` places after the one handed out last. -/
def slotAfter (pipe : PipeD P) (offset : Nat) : Fin maxPipeDepth :=
  ⟨position maxPipeDepth pipe.readMessage offset, position_lt (by decide) _ _⟩

/-- The undelivered messages of a pipe, each with the whole of its slot. -/
def pending (pipe : PipeD P) : List (List UInt8) :=
  (List.range (pipe.numberOfMessages - 1)).map fun k =>
    (pipe.messages (slotAfter pipe (k + 1))).bytes

/-- The ring of the pipe carries the queue. -/
def PipeD.Carries (pipe : PipeD P) (queue : List (List UInt8)) : Prop :=
  Holds Shows pipe.messages pipe.readMessage pipe.numberOfMessages queue

theorem LivePipe.carries_pending {i : Fin maxPipes} {pipe : PipeD P} (live : LivePipe i pipe) :
    pipe.Carries (pending pipe) where
  count_eq := by
    have := live.numberOfMessages_ge
    simp only [pending, List.length_map, List.length_range]
    omega
  count_le := live.numberOfMessages_le
  cursor_lt := live.readMessage_lt
  shown := by
    intro k inQueue slot slotEq
    have same : slot = slotAfter pipe (k + 1) := Fin.ext slotEq
    subst same
    simp [pending, Shows, Buffer.read]

/-- The slot that was handed out last counts as a message. -/
theorem PipeD.Carries.numberOfMessages_ge_two {pipe : PipeD P} {payload : List UInt8}
    {queue : List (List UInt8)} (carries : pipe.Carries (payload :: queue)) :
    2 ≤ pipe.numberOfMessages := by
  rw [carries.count_eq, List.length_cons]
  omega

/-- Every pipe in use carries its queue. -/
def Carries (tbl : PipeTbl P) (queues : Queues) : Prop :=
  ∀ i, (tbl i).inUse = inUse → (tbl i).Carries (queues i)

theorem Registry.carries_pending (registry : Registry tbl) :
    Carries tbl fun i => pending (tbl i) :=
  fun _ used => (registry.live used).carries_pending

theorem Carries.update {queues : Queues} (carries : Carries tbl queues) {i : Fin maxPipes}
    {pipe : PipeD P} {queue : List (List UInt8)} (changed : pipe.Carries queue) :
    Carries (Function.update tbl i pipe) (Function.update queues i queue) := by
  intro k used
  by_cases same : k = i
  · subst same
    simpa using changed
  · rw [Function.update_of_ne same] at used
    simpa [same] using carries k used

/-! ## Draining a pipe -/

/-- One `RcvMsg` call on the pipe at an index: its timeout and its environment. -/
structure Poll (P : Platform) where
  timeOut : Int
  env : RcvEnv P

/-- The arguments are accepted and the mutex calls succeed. -/
structure Poll.Ready (poll : Poll P) : Prop where
  timeOut_ge : -1 ≤ poll.timeOut
  locked : poll.env.lockMutexStatus = 0
  unlocked : poll.env.unlockMutexStatus = 0

/-- The call on the pipe at an index. -/
def Poll.op (i : Fin maxPipes) (poll : Poll P) : Op P :=
  .rcvMsg true (indexId i) poll.timeOut poll.env

/-- The call hands over the payload. -/
def Delivers (outcome : Outcome P) (payload : List UInt8) : Prop :=
  ∃ buffer, outcome = .delivered .success (some buffer) ∧ Shows buffer payload

/-- A call on a pipe that holds a message hands over the oldest one, without waiting. -/
theorem Registry.applyOp_poll (registry : Registry tbl) {i : Fin maxPipes}
    (used : (tbl i).inUse = inUse) {payload : List UInt8} {queue : List (List UInt8)}
    (carries : (tbl i).Carries (payload :: queue)) {poll : Poll P} (ready : poll.Ready) :
    ∃ outcome, SbnClient.applyOp tbl (poll.op i) =
        some (Function.update tbl i (advance (tbl i)), outcome) ∧
      Delivers outcome payload ∧ (advance (tbl i)).Carries queue := by
  have available := carries.numberOfMessages_ge_two
  have atOnce := returnsAtOnce_of_available poll.timeOut available
  have received := rcvMsg_of_returnsAtOnce registry used ready.timeOut_ge ready.locked atOnce
  rw [if_neg (Nat.not_lt.mpr available), ready.unlocked] at received
  obtain ⟨shown, remaining⟩ := holds_advance carries
  refine ⟨.delivered .success (some ((tbl i).messages (nextMsg (tbl i)))), ?_,
    ⟨_, rfl, shown⟩, remaining⟩
  rw [Poll.op, SbnClient.applyOp, received]
  simp [rcvFinish, MsgPtr.deref]

/-- As many calls as the pipe holds messages hand over all of them, in order. -/
theorem Registry.drain (registry : Registry tbl) {i : Fin maxPipes}
    (used : (tbl i).inUse = inUse) {queue : List (List UInt8)} (carries : (tbl i).Carries queue)
    {polls : List (Poll P)} (oneEach : polls.length = queue.length)
    (ready : ∀ poll ∈ polls, poll.Ready) :
    ∃ final outcomes, Machine.run SbnClient.applyOp tbl (polls.map (Poll.op i)) =
        some (final, outcomes) ∧ List.Forall₂ Delivers outcomes queue := by
  induction queue generalizing tbl polls with
  | nil =>
      obtain rfl := List.length_eq_zero_iff.mp oneEach
      exact ⟨tbl, [], rfl, .nil⟩
  | cons payload queue ih =>
      obtain ⟨poll, polls, rfl⟩ := List.exists_cons_of_length_eq_add_one oneEach
      obtain ⟨outcome, ran, delivers, remaining⟩ :=
        registry.applyOp_poll used carries (ready poll (by simp))
      have kept := registry.update
        (.inl ((registry.live used).advance carries.numberOfMessages_ge_two))
      obtain ⟨final, outcomes, ranRest, delivered⟩ := ih kept (by simpa using used)
        (by simpa using remaining) (by simpa using oneEach) fun later member =>
          ready later (by simp [member])
      refine ⟨final, outcome :: outcomes, ?_, .cons delivers delivered⟩
      simp [Machine.run, ran, ranRest]

end SbnClient
