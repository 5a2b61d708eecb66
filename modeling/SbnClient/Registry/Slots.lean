import Mathlib.Data.Fintype.Card
import SbnClient.Registry.EntrySteps

/-!
# How many slots the calls have filled

A pipe takes a subscription while one of its slots is free.  How many of them are not is a matter
of the calls since it was created: each subscription that succeeds fills one, but for those to
`CFE_SBN_CLIENT_INVALID_MSG_ID`, which leave their slot as it was.
-/

namespace SbnClient

variable {P : Platform} {history : History P} {pipeId : UInt8} {call : Op P × Outcome P}

/-- The slots of a pipe that are not free. -/
def usedSlots (pipe : PipeD P) : Finset (Fin maxMsgIdsPerPipe) :=
  {j | pipe.subscribedMsgIds j ≠ invalidMsgId}

theorem mem_usedSlots {pipe : PipeD P} {j : Fin maxMsgIdsPerPipe} :
    j ∈ usedSlots pipe ↔ pipe.subscribedMsgIds j ≠ invalidMsgId := by
  simp [usedSlots]

theorem usedSlots_congr {left right : PipeD P}
    (same : left.subscribedMsgIds = right.subscribedMsgIds) : usedSlots left = usedSlots right := by
  ext j
  rw [mem_usedSlots, mem_usedSlots, same]

/-- A pipe has a free slot as long as fewer are used than there are. -/
theorem exists_freeSlot_iff {pipe : PipeD P} :
    (∃ j, freeSlot pipe = some j) ↔ (usedSlots pipe).card < maxMsgIdsPerPipe := by
  rw [← Option.isSome_iff_exists, freeSlot, Fin.isSome_find?_iff]
  have full : (usedSlots pipe).card = maxMsgIdsPerPipe ↔ usedSlots pipe = Finset.univ := by
    rw [← Finset.card_eq_iff_eq_univ, Fintype.card_fin]
  have atMost : (usedSlots pipe).card ≤ maxMsgIdsPerPipe := by
    simpa using Finset.card_le_univ (usedSlots pipe)
  rw [Nat.lt_iff_le_and_ne, and_iff_right atMost, ne_eq, full, Finset.eq_univ_iff_forall]
  simp [mem_usedSlots]

theorem usedSlots_storeMsgId {pipe : PipeD P} {j : Fin maxMsgIdsPerPipe} {msgId : MsgId P}
    (proper : msgId ≠ invalidMsgId) :
    usedSlots (storeMsgId pipe j msgId) = insert j (usedSlots pipe) := by
  ext k
  rw [Finset.mem_insert, mem_usedSlots, mem_usedSlots]
  by_cases same : k = j
  · simp [same, storeMsgId, proper]
  · simp [same, storeMsgId]

/-- A free slot stays free when the id of free slots is stored in it. -/
theorem storeMsgId_invalidMsgId {pipe : PipeD P} {j : Fin maxMsgIdsPerPipe}
    (free : pipe.subscribedMsgIds j = invalidMsgId) : storeMsgId pipe j invalidMsgId = pipe := by
  rw [storeMsgId, ← free, Function.update_eq_self]

/-! ## What the calls tell -/

/-- The slots of a pipe after one call more. -/
def slotsAfter (pipeId : UInt8) (taken : Nat) : Op P × Outcome P → Nat
  | (.createPipe .., .created .success (some id)) => if id = pipeId then 0 else taken
  | (.subscribe msgId id _, .subscribed .success) =>
      if id = pipeId ∧ msgId ≠ invalidMsgId then taken + 1 else taken
  | _ => taken

/-- The slots that the calls have filled since the pipe was created. -/
def slotsTaken (history : History P) (pipeId : UInt8) : Nat :=
  history.foldl (slotsAfter pipeId) 0

theorem slotsTaken_concat :
    slotsTaken (history ++ [call]) pipeId = slotsAfter pipeId (slotsTaken history pipeId) call := by
  rw [slotsTaken, List.foldl_append]
  rfl

theorem slotsTaken_of_creates (creates : Creates call pipeId) :
    slotsTaken (history ++ [call]) pipeId = 0 := by
  obtain ⟨_, _, _, rfl⟩ := creates
  simp [slotsTaken_concat, slotsAfter]

theorem slotsTaken_of_subscribes {msgId : MsgId P} (subscribes : Subscribes call msgId pipeId) :
    slotsTaken (history ++ [call]) pipeId =
      if msgId ≠ invalidMsgId then slotsTaken history pipeId + 1
      else slotsTaken history pipeId := by
  obtain ⟨_, rfl⟩ := subscribes
  simp [slotsTaken_concat, slotsAfter]

/-- All other calls leave the slots of the pipe alone. -/
theorem slotsTaken_of_other (uncreated : ¬ Creates call pipeId)
    (unsubscribed : ∀ msgId, ¬ Subscribes call msgId pipeId) :
    slotsTaken (history ++ [call]) pipeId = slotsTaken history pipeId := by
  rw [slotsTaken_concat, slotsAfter.eq_def]
  split
  next pipeIdPtr depth pipeName id =>
    rw [if_neg]
    rintro rfl
    exact uncreated ⟨pipeIdPtr, depth, pipeName, rfl⟩
  next msgId id written =>
    rw [if_neg]
    rintro ⟨rfl, -⟩
    exact unsubscribed msgId ⟨written, rfl⟩
  next => rfl

end SbnClient
