import SbnClient.Registry.Invariant

/-!
# Publishing to every subscriber

`ingest_app_message` returns at the first subscriber it meets, whether it enqueues there
or finds the pipe full.  So a message reaches every subscriber with room only when no
subscriber with room has another one before it.
-/

namespace SbnClient

open SegmentedInput

variable {P : Platform} {tbl next : PipeTbl P} {msgId : MsgId P} {payload : Payload P}

/-- The entry is a pipe in use that is subscribed to the id. -/
def Subscriber (tbl : PipeTbl P) (msgId : MsgId P) (i : Fin maxPipes) : Prop :=
  (tbl i).inUse = inUse ∧ (tbl i).Subscribed msgId

instance (tbl : PipeTbl P) (msgId : MsgId P) (i : Fin maxPipes) :
    Decidable (Subscriber tbl msgId i) :=
  inferInstanceAs (Decidable (_ ∧ _))

/-- Every subscriber with room has the message appended, and nobody else is touched. -/
structure Published (tbl next : PipeTbl P) (msgId : MsgId P) (payload : Payload P) : Prop where
  appended : ∀ i, Subscriber tbl msgId i → (tbl i).numberOfMessages < maxPipeDepth →
    next i = pushMessage (tbl i) payload
  untouched : ∀ i, ¬ Subscriber tbl msgId i → next i = tbl i

/-- Every subscriber that is not the first one is full. -/
def LaterSubscribersFull (tbl : PipeTbl P) (msgId : MsgId P) : Prop :=
  ∀ k i, k < i → Subscriber tbl msgId k → Subscriber tbl msgId i →
    (tbl i).numberOfMessages = maxPipeDepth

instance (tbl : PipeTbl P) (msgId : MsgId P) : Decidable (LaterSubscribersFull tbl msgId) :=
  inferInstanceAs (Decidable (∀ k i, k < i → Subscriber tbl msgId k → Subscriber tbl msgId i → _))

/-- The pipe that a message with this id goes to. -/
structure FirstSubscriber (tbl : PipeTbl P) (msgId : MsgId P) (i : Fin maxPipes) : Prop where
  subscriber : Subscriber tbl msgId i
  first : ∀ k < i, ¬ Subscriber tbl msgId k

instance (tbl : PipeTbl P) (msgId : MsgId P) (i : Fin maxPipes) :
    Decidable (FirstSubscriber tbl msgId i) :=
  decidable_of_iff (Subscriber tbl msgId i ∧ ∀ k < i, ¬ Subscriber tbl msgId k)
    ⟨fun ⟨subscriber, first⟩ => ⟨subscriber, first⟩, fun target => ⟨target.1, target.2⟩⟩

theorem route_eq_some_iff_first {i : Fin maxPipes} :
    route tbl msgId = some i ↔ FirstSubscriber tbl msgId i := by
  rw [route_eq_some_iff]
  exact ⟨fun ⟨subscriber, first⟩ => ⟨subscriber, first⟩, fun target => ⟨target.1, target.2⟩⟩

/-- Only the first subscriber can change. -/
theorem deliver_of_ne_first {i : Fin maxPipes}
    (notFirst : ∀ first, route tbl msgId = some first → i ≠ first) :
    deliver tbl msgId payload i = tbl i := by
  unfold deliver
  cases found : route tbl msgId with
  | none => rfl
  | some first =>
      by_cases full : (tbl first).numberOfMessages = maxPipeDepth
      · simp only [full, ↓reduceIte]
      · simp only [full, ↓reduceIte, Function.update_of_ne (notFirst first found)]

theorem deliver_first {i : Fin maxPipes} (found : route tbl msgId = some i)
    (room : (tbl i).numberOfMessages < maxPipeDepth) :
    deliver tbl msgId payload i = pushMessage (tbl i) payload := by
  rw [deliver, found]
  simp [room.ne]

theorem pushMessage_ne {pipe : PipeD P} (bounded : pipe.numberOfMessages ≤ maxPipeDepth) :
    pushMessage pipe payload ≠ pipe := by
  intro same
  have grown := numberOfMessages_pushMessage payload bounded
  rw [same] at grown
  omega

/-- The routing rule publishes exactly when the later subscribers are full. -/
theorem published_deliver_iff (registry : Registry tbl) :
    Published tbl (deliver tbl msgId payload) msgId payload ↔ LaterSubscribersFull tbl msgId := by
  constructor
  · intro published k i before subscriberK subscriberI
    by_contra notFull
    have bounded := (registry.live subscriberI.1).numberOfMessages_le
    have appended := published.appended i subscriberI (lt_of_le_of_ne bounded notFull)
    rw [deliver_of_ne_first] at appended
    · exact pushMessage_ne bounded appended.symm
    · rintro first found rfl
      exact (route_eq_some_iff_first.mp found).2 k before subscriberK
  · intro laterFull
    refine ⟨fun i subscriber room => ?_, fun i other => ?_⟩
    · cases found : route tbl msgId with
      | none => exact absurd subscriber (route_eq_none_iff.mp found i)
      | some first =>
          obtain ⟨isSubscriber, isFirst⟩ := route_eq_some_iff_first.mp found
          rcases lt_trichotomy first i with before | rfl | after
          · exact absurd (laterFull first i before isSubscriber subscriber) room.ne
          · exact deliver_first found room
          · exact absurd subscriber (isFirst i after)
    · apply deliver_of_ne_first
      rintro first found rfl
      exact other (route_eq_some_iff_first.mp found).1

/-- In a reachable table, an app message that arrives completely is appended to every
subscriber with room if and only if every subscriber after the first is full. -/
theorem ingestAppMessage_published_iff (reachable : Reachable tbl)
    (msgBuffer : Buffer P.maxMessageSize) (socket : Socket) (msgSz : UInt16)
    (accepted : msgSz.toNat ≤ P.maxMessageSize)
    (complete : msgSz.toNat ≤ (available socket).length) :
    let payload : Payload P := incoming socket msgSz.toNat accepted
    let msgId := getMsgId P (filledWith msgBuffer payload)
    (∃ next rest result, ingestAppMessage tbl msgBuffer socket msgSz = some (next, rest, result) ∧
      Published tbl next msgId payload) ↔ LaterSubscribersFull tbl msgId := by
  intro payload msgId
  obtain ⟨rest, ran, -⟩ := ingestAppMessage_of_complete tbl msgBuffer accepted complete
  rw [ran, ← published_deliver_iff reachable.registry]
  constructor
  · rintro ⟨next, left, result, equal, published⟩
    cases equal
    exact published
  · intro published
    exact ⟨_, _, _, rfl, published⟩

/-- Two empty pipes are subscribed to `0x0801`.  A message with that id reaches the first
only. -/
theorem second_subscriber_missed :
    ∃ tbl : PipeTbl (standardPlatform 32768), Reachable tbl ∧ Subscriber tbl 0x0801 1 ∧
      (tbl 1).numberOfMessages < maxPipeDepth ∧
      ¬ ∃ next rest result, ingestAppMessage tbl (Buffer.filled _ 0) (whole [8, 1]) 2 =
          some (next, rest, result) ∧
        Published tbl next 0x0801 ⟨[8, 1], Nat.le_of_ble_eq_true rfl⟩ := by
  have ran : ∃ tbl outcomes,
      Machine.run applyOp (initPipeTbl (zeroPipeTbl (standardPlatform 32768)))
        [.createPipe true 4 [0x41], .createPipe true 4 [0x42], .subscribe 0x0801 0 .complete,
          .subscribe 0x0801 1 .complete] = some (tbl, outcomes) ∧
      Subscriber tbl 0x0801 0 ∧ Subscriber tbl 0x0801 1 ∧ (tbl 1).numberOfMessages = 1 :=
    ⟨_, _, rfl, ⟨rfl, 0, rfl⟩, ⟨rfl, 0, rfl⟩, rfl⟩
  obtain ⟨tbl, outcomes, ran, first, second, empty⟩ := ran
  have reachable : Reachable tbl := by
    refine ⟨_, _, outcomes, Machine.permitted_of_forall ?_ _, ran⟩
    simp [Op.Sequential, maxPipes]
  refine ⟨tbl, reachable, second, by simp [empty, maxPipeDepth], ?_⟩
  rintro ⟨next, rest, result, ingested, published⟩
  have long : 2 ≤ (2 : UInt16).toNat := Nat.le_refl 2
  have accepted : (2 : UInt16).toNat ≤ (standardPlatform 32768).maxMessageSize :=
    Nat.le_of_ble_eq_true rfl
  have complete : (2 : UInt16).toNat ≤ (available (whole [(8 : UInt8), 1])).length :=
    Nat.le_refl 2
  obtain ⟨left, routed, -⟩ := ingestAppMessage_of_defaultFormat
    (standardPlatform_defaultFormat 32768) tbl (Buffer.filled _ 0) long accepted complete
  rw [routed] at ingested
  cases ingested
  have laterFull : LaterSubscribersFull tbl 0x0801 :=
    (published_deliver_iff reachable.registry).mp published
  have full := laterFull 0 1 (by decide) first second
  rw [empty] at full
  exact absurd full (by decide)

/-- The second pipe was filled before the first one subscribed to the same id.  The first has
room, and a message that goes there only has reached every subscriber with room. -/
theorem published_beside_full_pipe :
    ∃ tbl : PipeTbl (standardPlatform 32768), Reachable tbl ∧
      Subscriber tbl 0x0801 0 ∧ (tbl 0).numberOfMessages = 1 ∧
      Subscriber tbl 0x0801 1 ∧ (tbl 1).numberOfMessages = maxPipeDepth ∧
      ∃ next rest result, ingestAppMessage tbl (Buffer.filled _ 0) (whole [8, 1]) 2 =
          some (next, rest, result) ∧
        Published tbl next 0x0801 ⟨[8, 1], Nat.le_of_ble_eq_true rfl⟩ := by
  have ran : ∃ tbl outcomes,
      Machine.run applyOp (initPipeTbl (zeroPipeTbl (standardPlatform 32768)))
        ([.createPipe true 4 [0x41], .createPipe true 4 [0x42], .subscribe 0x0801 1 .complete] ++
          List.replicate 31 (.ingestAppMessage (Buffer.filled _ 0) (whole [8, 1]) 2) ++
          [.subscribe 0x0801 0 .complete]) = some (tbl, outcomes) ∧
      Subscriber tbl 0x0801 0 ∧ (tbl 0).numberOfMessages = 1 ∧
      Subscriber tbl 0x0801 1 ∧ (tbl 1).numberOfMessages = maxPipeDepth ∧
      LaterSubscribersFull tbl 0x0801 :=
    ⟨_, _, rfl, ⟨rfl, 0, rfl⟩, rfl, ⟨rfl, 0, rfl⟩, rfl, by decide +kernel⟩
  obtain ⟨tbl, outcomes, ran, first, room, second, full, laterFull⟩ := ran
  have reachable : Reachable tbl := by
    refine ⟨_, _, outcomes, Machine.permitted_of_forall ?_ _, ran⟩
    simp [Op.Sequential, maxPipes]
  exact ⟨tbl, reachable, first, room, second, full,
    (ingestAppMessage_published_iff reachable (Buffer.filled _ 0) (whole [8, 1]) 2
      (Nat.le_of_ble_eq_true rfl) (Nat.le_refl 2)).mpr laterFull⟩

end SbnClient
