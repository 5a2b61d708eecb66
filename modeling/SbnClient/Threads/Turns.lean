import SbnClient.Model.Interleaving
import SbnClient.Registry.Steps

/-!
# The turns of one `recv_msg` call

`RecvPoint.finish` is what is left of a call at a point, if no other thread takes a step.
Every turn leaves less of the same call, and only the last one can touch the table, so that
what the other threads do to it in the meantime makes no difference to the turns.
-/

namespace SbnClient

open SegmentedInput

variable {P : Platform}

/-! ## The rest of a `CFE_SBN_Client_ReadBytes` call -/

/-- More turns than bytes are not needed. -/
theorem readLoop_eq_of_enough {size msgSz : Nat} {fuel more : Nat} {buffer : Buffer size}
    {total : Nat} {socket : Socket} (enough : msgSz ≤ total + fuel)
    (alsoEnough : msgSz ≤ total + more) :
    readLoop msgSz fuel buffer total socket = readLoop msgSz more buffer total socket := by
  induction fuel generalizing more buffer total socket with
  | zero =>
      rw [readLoop, readLoop.eq_def msgSz more]
      by_cases done : total = msgSz
      · simp only [done, ↓reduceIte]
      · have past : msgSz < total := by omega
        cases more <;> simp [done, past]
  | succ fuel ih =>
      cases more with
      | zero =>
          rw [readLoop, readLoop]
          by_cases done : total = msgSz
          · simp only [done, ↓reduceIte]
          · have past : msgSz < total := by omega
            simp [done, past]
      | succ more =>
          rw [readLoop, readLoop]
          by_cases done : total = msgSz
          · simp only [done, ↓reduceIte]
          · by_cases past : msgSz < total
            · simp only [done, past, ↓reduceIte]
            · simp only [done, past, ↓reduceIte]
              cases answer : read socket (msgSz - total) with
              | mk answered rest =>
                cases answered with
                | closed => rfl
                | failed => rfl
                | received chunk =>
                    obtain ⟨nonempty, -, -⟩ := read_received (by omega) answer
                    have progress := List.length_pos_iff.mpr nonempty
                    simp only
                    split
                    · rfl
                    · cases buffer.store? total chunk with
                      | none => rfl
                      | some buffer => exact ih (by omega) (by omega)

/-- What is left of the call when `total` bytes have been read. -/
def readFrom {size : Nat} (msgSz : Nat) (buffer : Buffer size) (total : Nat) (socket : Socket) :
    Option (Status × Buffer size × Socket) :=
  readLoop msgSz (msgSz - total) buffer total socket

/-- A turn of the loop, and the rest. -/
theorem readFrom_eq {size msgSz total : Nat} (room : total ≤ msgSz) (buffer : Buffer size)
    (socket : Socket) :
    readFrom msgSz buffer total socket =
      (readTurn msgSz buffer total socket).bind fun
        | (.again buffer total, socket) => readFrom msgSz buffer total socket
        | (.returned status buffer, socket) => some (status, buffer, socket) := by
  rw [readFrom, readTurn]
  by_cases done : total = msgSz
  · subst done
    simp [readLoop.eq_def]
  · obtain ⟨fuel, left⟩ := Nat.exists_eq_add_of_lt (lt_of_le_of_ne room done)
    have inOrder : ¬ msgSz < total := Nat.not_lt.mpr room
    rw [show msgSz - total = fuel + 1 by omega, readLoop]
    simp only [done, inOrder, ↓reduceIte, show msgSz - total = fuel + 1 by omega]
    cases answer : read socket (fuel + 1) with
    | mk answered rest =>
      cases answered with
      | closed => rfl
      | failed => rfl
      | received chunk =>
          obtain ⟨nonempty, -, -⟩ := read_received (Nat.succ_pos fuel) answer
          have progress := List.length_pos_iff.mpr nonempty
          simp only
          split
          · rfl
          · cases buffer.store? total chunk with
            | none => rfl
            | some buffer => exact readLoop_eq_of_enough (by omega) (by omega)

/-- A turn that goes on has read something, and no more than was wanted. -/
theorem readTurn_again {size msgSz total more : Nat} {buffer filled : Buffer size}
    {socket rest : Socket}
    (ran : readTurn msgSz buffer total socket = some (.again filled more, rest)) :
    total < more ∧ more ≤ msgSz := by
  rw [readTurn] at ran
  split at ran
  next => simp at ran
  next open' =>
    split at ran
    next => cases ran
    next inOrder =>
      cases answer : read socket (msgSz - total) with
      | mk answered left =>
        rw [answer] at ran
        cases answered with
        | closed => simp at ran
        | failed => simp at ran
        | received chunk =>
            obtain ⟨nonempty, within, -⟩ := read_received (by omega) answer
            have progress := List.length_pos_iff.mpr nonempty
            simp only at ran
            split at ran
            next => cases ran
            next =>
              obtain ⟨stored, -, equal⟩ := Option.map_eq_some_iff.mp ran
              cases equal
              omega

/-- A turn never leaves its buffer. -/
theorem exists_readTurn {size msgSz total : Nat} (fits : msgSz ≤ size) (small : msgSz ≤ intMax)
    (room : total ≤ msgSz) (buffer : Buffer size) (socket : Socket) :
    ∃ turn, readTurn msgSz buffer total socket = some turn := by
  rw [readTurn]
  by_cases done : total = msgSz
  · exact ⟨_, if_pos done⟩
  · rw [if_neg done, if_neg (Nat.not_lt.mpr room)]
    cases answer : read socket (msgSz - total) with
    | mk answered rest =>
      cases answered with
      | closed => exact ⟨_, rfl⟩
      | failed => exact ⟨_, rfl⟩
      | received chunk =>
          obtain ⟨-, within, -⟩ := read_received (by omega) answer
          have inRange : ¬ intMax < total + chunk.length := by omega
          have stored : buffer.store? total chunk = some (buffer.store total chunk (by omega)) :=
            Buffer.store?_eq_some _
          simp only [inRange, ↓reduceIte, stored]
          exact ⟨_, rfl⟩

/-! ## The rest of a `recv_msg` call -/

/-- A call is under way, and every byte count is within its buffer. -/
def RecvPoint.InRange : RecvPoint P → Prop
  | .readingHdr _ total => total ≤ P.packedHdrSz
  | .readingMsg msgSz _ total | .readingApp msgSz _ total =>
      total ≤ msgSz.toNat ∧ msgSz.toNat ≤ P.maxMessageSize
  | .enqueueing msgSz _ => msgSz.toNat ≤ P.maxMessageSize
  | .signalling _ | .returning _ => True
  | .outside => False

/-- What the call leaves behind if no other thread takes a step. -/
def RecvPoint.finish (tbl : PipeTbl P) (socket : Socket) : RecvPoint P → Option (Received P)
  | .outside => none
  | .readingHdr locals total =>
      (readFrom P.packedHdrSz locals.sbnHdrBuffer total socket).bind
        fun (status, sbnHdrBuffer, socket) =>
          if status ≠ .success then some ⟨status, tbl, socket⟩
          else recvPayload tbl locals (unpackSbnHdr P sbnHdrBuffer) socket
  | .readingMsg msgSz msg total =>
      (readFrom msgSz.toNat msg total socket).map fun (status, _, socket) => ⟨status, tbl, socket⟩
  | .readingApp msgSz msgBuffer total =>
      (readFrom msgSz.toNat msgBuffer total socket).bind fun (status, msgBuffer, socket) =>
        if status ≠ .success then some ⟨.success, tbl, socket⟩
        else (enqueueMessage tbl msgBuffer msgSz.toNat).map fun (tbl, _) => ⟨.success, tbl, socket⟩
  | .enqueueing msgSz msgBuffer =>
      (enqueueMessage tbl msgBuffer msgSz.toNat).map fun (tbl, _) => ⟨.success, tbl, socket⟩
  | .signalling _ => some ⟨.success, tbl, socket⟩
  | .returning status => some ⟨status, tbl, socket⟩

theorem readBytes_eq_readFrom {size msgSz : Nat} (accepted : ¬ P.maxMessageSize < msgSz)
    (socket : Socket) (buffer : Buffer size) :
    readBytes P socket buffer msgSz = readFrom msgSz buffer 0 socket :=
  if_neg accepted

/-- The `switch` leaves the rest of the call to be done. -/
theorem finish_dispatch (tbl : PipeTbl P) (locals : RecvLocals P) (hdr : SbnHdr)
    (socket : Socket) :
    (dispatch locals hdr).finish tbl socket = recvPayload tbl locals hdr socket := by
  rw [dispatch, recvPayload]
  by_cases isDropped : hdr.msgType ∈ dropped P
  · rw [if_pos isDropped, if_pos isDropped]
    by_cases tooLarge : P.maxMessageSize < hdr.msgSz.toNat
    · rw [if_pos tooLarge, readBytes_tooLarge tooLarge]
      rfl
    · rw [if_neg tooLarge, readBytes_eq_readFrom tooLarge]
      rfl
  · rw [if_neg isDropped, if_neg isDropped]
    by_cases isApp : hdr.msgType = P.sbnAppMsg
    · rw [if_pos isApp, if_pos isApp, ingestAppMessage]
      by_cases tooLarge : P.maxMessageSize < hdr.msgSz.toNat
      · rw [if_pos tooLarge, readBytes_tooLarge tooLarge]
        rfl
      · rw [if_neg tooLarge, readBytes_eq_readFrom tooLarge, RecvPoint.finish]
        cases readFrom hdr.msgSz.toNat locals.msgBuffer 0 socket with
        | none => rfl
        | some result =>
            simp only [Option.bind_some]
            split
            · rfl
            · rw [Option.map_map]
              rfl
    · rw [if_neg isApp, if_neg isApp]
      rfl

/-- At its beginning all of the call is left. -/
theorem finish_enterRecv (tbl : PipeTbl P) (locals : RecvLocals P) (socket : Socket) :
    (enterRecv locals).finish tbl socket = recvMsg tbl locals socket := by
  rw [enterRecv, recvMsg]
  by_cases tooLarge : P.maxMessageSize < P.packedHdrSz
  · rw [if_pos tooLarge, readBytes_tooLarge tooLarge]
    rfl
  · rw [if_neg tooLarge, readBytes_eq_readFrom tooLarge]
    rfl

theorem inRange_dispatch (locals : RecvLocals P) (hdr : SbnHdr) :
    (dispatch locals hdr).InRange := by
  rw [dispatch]
  split
  · split
    · trivial
    · exact ⟨Nat.zero_le _, by omega⟩
  · split
    · split
      · trivial
      · exact ⟨Nat.zero_le _, by omega⟩
    · trivial

theorem inRange_enterRecv (locals : RecvLocals P) : (enterRecv locals).InRange := by
  rw [enterRecv]
  split
  · trivial
  · exact Nat.zero_le _

/-! ## One turn -/

/-- A turn leaves the rest of the call to be done. -/
theorem recvTurn_finish {tbl next : PipeTbl P} {socket rest : Socket} {point later : RecvPoint P}
    (inRange : point.InRange) (ran : recvTurn tbl socket point = some (next, rest, later)) :
    later.finish next rest = point.finish tbl socket := by
  cases point with
  | outside | signalling pipe | returning status => cases ran
  | readingHdr locals total =>
      obtain ⟨⟨turn, left⟩, turned, equal⟩ := Option.map_eq_some_iff.mp ran
      rw [RecvPoint.finish, readFrom_eq inRange, turned, Option.bind_some]
      cases turn with
      | again sbnHdrBuffer more =>
          cases equal
          rfl
      | returned status sbnHdrBuffer =>
          cases equal
          simp only [Option.bind_some]
          split
          · rfl
          · exact finish_dispatch tbl locals _ rest
  | readingMsg msgSz msg total =>
      obtain ⟨⟨turn, left⟩, turned, equal⟩ := Option.map_eq_some_iff.mp ran
      rw [RecvPoint.finish, readFrom_eq inRange.1, turned, Option.bind_some]
      cases turn with
      | again msg more =>
          cases equal
          rfl
      | returned status msg =>
          cases equal
          rfl
  | readingApp msgSz msgBuffer total =>
      obtain ⟨⟨turn, left⟩, turned, equal⟩ := Option.map_eq_some_iff.mp ran
      rw [RecvPoint.finish, readFrom_eq inRange.1, turned, Option.bind_some]
      cases turn with
      | again msgBuffer more =>
          cases equal
          rfl
      | returned status msgBuffer =>
          cases equal
          simp only [Option.bind_some]
          split
          · rfl
          · rfl
  | enqueueing msgSz msgBuffer =>
      obtain ⟨⟨after, result⟩, enqueued, equal⟩ := Option.map_eq_some_iff.mp ran
      cases equal
      rw [RecvPoint.finish, enqueued]
      cases result <;> rfl

/-- Byte counts stay in range. -/
theorem recvTurn_inRange {tbl next : PipeTbl P} {socket rest : Socket} {point later : RecvPoint P}
    (inRange : point.InRange) (ran : recvTurn tbl socket point = some (next, rest, later)) :
    later.InRange := by
  cases point with
  | outside | signalling pipe | returning status => cases ran
  | readingHdr locals total =>
      obtain ⟨⟨turn, left⟩, turned, equal⟩ := Option.map_eq_some_iff.mp ran
      cases turn with
      | again sbnHdrBuffer more =>
          cases equal
          exact (readTurn_again turned).2
      | returned status sbnHdrBuffer =>
          cases equal
          split
          · trivial
          · exact inRange_dispatch locals _
  | readingMsg msgSz msg total =>
      obtain ⟨⟨turn, left⟩, turned, equal⟩ := Option.map_eq_some_iff.mp ran
      cases turn with
      | again msg more =>
          cases equal
          exact ⟨(readTurn_again turned).2, inRange.2⟩
      | returned status msg =>
          cases equal
          trivial
  | readingApp msgSz msgBuffer total =>
      obtain ⟨⟨turn, left⟩, turned, equal⟩ := Option.map_eq_some_iff.mp ran
      cases turn with
      | again msgBuffer more =>
          cases equal
          exact ⟨(readTurn_again turned).2, inRange.2⟩
      | returned status msgBuffer =>
          cases equal
          split
          · trivial
          · exact inRange.2
  | enqueueing msgSz msgBuffer =>
      obtain ⟨⟨after, result⟩, enqueued, equal⟩ := Option.map_eq_some_iff.mp ran
      cases equal
      cases result <;> trivial

/-- Only the turn that enqueues a message looks at the table, and it settles what the call
returns. -/
theorem recvTurn_frame {tbl next : PipeTbl P} {socket rest : Socket} {point later : RecvPoint P}
    (ran : recvTurn tbl socket point = some (next, rest, later))
    (unsettled : later.status? = none) :
    next = tbl ∧ ∀ other, recvTurn other socket point = some (other, rest, later) := by
  cases point with
  | outside | signalling pipe | returning status => cases ran
  | readingHdr locals total =>
      obtain ⟨⟨turn, left⟩, turned, equal⟩ := Option.map_eq_some_iff.mp ran
      cases turn <;> cases equal <;> exact ⟨rfl, fun other => by rw [recvTurn, turned]; rfl⟩
  | readingMsg msgSz msg total =>
      obtain ⟨⟨turn, left⟩, turned, equal⟩ := Option.map_eq_some_iff.mp ran
      cases turn <;> cases equal <;> exact ⟨rfl, fun other => by rw [recvTurn, turned]; rfl⟩
  | readingApp msgSz msgBuffer total =>
      obtain ⟨⟨turn, left⟩, turned, equal⟩ := Option.map_eq_some_iff.mp ran
      cases turn <;> cases equal <;> exact ⟨rfl, fun other => by rw [recvTurn, turned]; rfl⟩
  | enqueueing msgSz msgBuffer =>
      obtain ⟨⟨after, result⟩, enqueued, equal⟩ := Option.map_eq_some_iff.mp ran
      cases equal
      cases result <;> cases unsettled

/-- What a call leaves behind once its status is settled. -/
theorem finish_of_settled {point : RecvPoint P} {status : Status}
    (settled : point.status? = some status) (tbl : PipeTbl P) (socket : Socket) :
    point.finish tbl socket = some ⟨status, tbl, socket⟩ := by
  cases point with
  | signalling pipe =>
      cases settled
      rfl
  | returning status =>
      cases settled
      rfl
  | outside | readingHdr | readingMsg | readingApp | enqueueing => cases settled

theorem not_busy_of_settled {point : RecvPoint P} {status : Status}
    (settled : point.status? = some status) : ¬ point.Busy := by
  cases point with
  | signalling pipe => exact id
  | returning status => exact id
  | outside | readingHdr | readingMsg | readingApp | enqueueing => cases settled

theorem busy_of_unsettled {point : RecvPoint P} (inRange : point.InRange)
    (unsettled : point.status? = none) : point.Busy := by
  cases point with
  | outside => exact inRange
  | signalling pipe | returning status => cases unsettled
  | readingHdr | readingMsg | readingApp | enqueueing => trivial

/-- A message that fits its buffer is routed under the mutex. -/
theorem exists_enqueueMessage {msgSz : UInt16} {msgBuffer : Buffer P.maxMessageSize}
    (accepted : msgSz.toNat ≤ P.maxMessageSize) (tbl : PipeTbl P) :
    ∃ payload : Payload P, payload.bytes = msgBuffer.read msgSz.toNat ∧
      enqueueMessage tbl msgBuffer msgSz.toNat =
        some (deliver tbl (getMsgId P msgBuffer.bytes) payload,
          ingestResult tbl (getMsgId P msgBuffer.bytes)) := by
  have length : (msgBuffer.read msgSz.toNat).length = msgSz.toNat := by
    rw [Buffer.length_read]
    exact Nat.min_eq_left accepted
  let payload : Payload P := ⟨msgBuffer.read msgSz.toNat, length.le.trans accepted⟩
  have whole : msgBuffer.read payload.bytes.length = payload.bytes :=
    congrArg msgBuffer.read length
  have enqueued := enqueueMessage_eq tbl whole
  rw [show payload.bytes.length = msgSz.toNat from length] at enqueued
  exact ⟨payload, rfl, enqueued⟩

/-- A call with turns left takes the next one without undefined behaviour. -/
theorem exists_recvTurn {point : RecvPoint P} (busy : point.Busy) (inRange : point.InRange)
    (tbl : PipeTbl P) (socket : Socket) : ∃ turn, recvTurn tbl socket point = some turn := by
  cases point with
  | outside | signalling pipe | returning status => exact busy.elim
  | readingHdr locals total =>
      obtain ⟨turn, turned⟩ := exists_readTurn (Nat.le_refl _) (packedHdrSz_le_intMax P) inRange
        locals.sbnHdrBuffer socket
      exact ⟨_, by rw [recvTurn, turned]; rfl⟩
  | readingMsg msgSz msg total =>
      obtain ⟨turn, turned⟩ :=
        exists_readTurn inRange.2 (toNat_le_intMax msgSz) inRange.1 msg socket
      exact ⟨_, by rw [recvTurn, turned]; rfl⟩
  | readingApp msgSz msgBuffer total =>
      obtain ⟨turn, turned⟩ :=
        exists_readTurn inRange.2 (toNat_le_intMax msgSz) inRange.1 msgBuffer socket
      exact ⟨_, by rw [recvTurn, turned]; rfl⟩
  | enqueueing msgSz msgBuffer =>
      obtain ⟨payload, -, enqueued⟩ := @exists_enqueueMessage P msgSz msgBuffer inRange tbl
      exact ⟨_, by rw [recvTurn, enqueued]; rfl⟩

/-- A call that takes a turn has one left. -/
theorem inRange_of_recvTurn {tbl : PipeTbl P} {socket : Socket} {point : RecvPoint P}
    {turn : PipeTbl P × Socket × RecvPoint P} (inRange : point = .outside ∨ point.InRange)
    (ran : recvTurn tbl socket point = some turn) : point.InRange := by
  refine inRange.resolve_left ?_
  rintro rfl
  cases ran

section Steps

variable {Thread : Type*} [DecidableEq Thread] {threads after : Concurrent P Thread}

/-- No step of any thread takes the receive minder out of its buffers. -/
theorem Concurrent.Step.inRange {event : ConcurrentEvent P Thread}
    (step : threads.Step event after)
    (inRange : threads.point = .outside ∨ threads.point.InRange) :
    after.point = .outside ∨ after.point.InRange := by
  cases step with
  | recvCalled locals outside => exact .inr (inRange_enterRecv locals)
  | turned ran => exact .inr (recvTurn_inRange (inRange_of_recvTurn inRange ran) ran)
  | signalled due signal => exact .inr trivial
  | recvReturned returning => exact .inl rfl
  | managed | refused | looked | returned | blocked | woke | resumed => exact inRange

/-- A busy receive minder can go on. -/
theorem Concurrent.exists_turned (inRange : threads.point = .outside ∨ threads.point.InRange)
    (busy : threads.point.Busy) : ∃ status after, threads.Step (.turned status) after := by
  have inside : threads.point ≠ .outside := by
    intro outside
    rw [outside] at busy
    exact busy
  obtain ⟨turn, ran⟩ :=
    exists_recvTurn busy (inRange.resolve_left inside) threads.tbl threads.socket
  exact ⟨_, _, .turned ran⟩

end Steps

/-! ## Behind the turns -/

/-- The socket as it was when the call under way began, or as it is when nothing of a call is
left to be done.  For any table, the call does from there what is left of it. -/
inductive Trails (socket : Socket) (point : RecvPoint P) : Socket → Prop where
  | settled (done : ¬ point.Busy) : Trails socket point socket
  | busy {behind : Socket} (locals : RecvLocals P) (busy : point.Busy) (inRange : point.InRange)
      (same : ∀ tbl, recvMsg tbl locals behind = point.finish tbl socket) :
      Trails socket point behind

/-- A step to the point `later`, seen from the beginning of the call: nothing has happened yet,
or the whole call has. -/
structure TurnsTo (tbl : PipeTbl P) (behind : Socket) (next : PipeTbl P) (rest : Socket)
    (later : RecvPoint P) : Prop where
  of_unsettled : later.status? = none → next = tbl ∧ Trails rest later behind
  of_settled : ∀ status, later.status? = some status →
    ∃ locals, recvMsg tbl locals behind = some ⟨status, next, rest⟩

theorem turnsTo_enterRecv (tbl : PipeTbl P) (locals : RecvLocals P) (socket : Socket) :
    TurnsTo tbl socket tbl socket (enterRecv locals) where
  of_unsettled unsettled :=
    have inRange := inRange_enterRecv locals
    ⟨rfl, .busy locals (busy_of_unsettled inRange unsettled) inRange fun other =>
      (finish_enterRecv other locals socket).symm⟩
  of_settled _ settled :=
    ⟨locals, (finish_enterRecv tbl locals socket).symm.trans (finish_of_settled settled tbl socket)⟩

theorem Trails.inRange {socket behind : Socket} {point : RecvPoint P}
    (trails : Trails socket point behind) (busy : point.Busy) : point.InRange := by
  cases trails with
  | settled done => exact absurd busy done
  | busy locals busy inRange same => exact inRange

theorem Trails.eq_of_not_busy {socket behind : Socket} {point : RecvPoint P}
    (trails : Trails socket point behind) (done : ¬ point.Busy) : behind = socket := by
  cases trails with
  | settled done => rfl
  | busy locals busy inRange same => exact absurd busy done

theorem Trails.turn {tbl next : PipeTbl P} {socket rest behind : Socket}
    {point later : RecvPoint P} (trails : Trails socket point behind)
    (ran : recvTurn tbl socket point = some (next, rest, later)) :
    TurnsTo tbl behind next rest later := by
  cases trails with
  | settled done =>
      cases point with
      | outside | signalling pipe | returning status => cases ran
      | readingHdr | readingMsg | readingApp | enqueueing => exact absurd trivial done
  | busy locals busy inRange same =>
      refine ⟨fun unsettled => ?_, fun status settled => ⟨locals, ?_⟩⟩
      · obtain ⟨rfl, anyTable⟩ := recvTurn_frame ran unsettled
        have stays := recvTurn_inRange inRange ran
        refine ⟨rfl, .busy locals (busy_of_unsettled stays unsettled) stays fun other => ?_⟩
        rw [same, recvTurn_finish inRange (anyTable other)]
      · rw [same, ← recvTurn_finish inRange ran, finish_of_settled settled]

end SbnClient
