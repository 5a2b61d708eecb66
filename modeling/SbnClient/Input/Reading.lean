import SbnClient.Model.Ingest

/-!
# Reading an exact number of bytes

`CFE_SBN_Client_ReadBytes` stores exactly the bytes it was asked for, or fails; either
way it stays inside its buffer, and how the input is cut does not matter.
-/

namespace SbnClient

open SegmentedInput

/-- What a call to `CFE_SBN_Client_ReadBytes` has done with `count` more bytes to read
into `buffer` at `total`. -/
structure ReadsBytes {size : Nat} (count : Nat) (buffer : Buffer size) (total : Nat)
    (socket : Socket) (result : Status × Buffer size × Socket) : Prop where
  success_iff : result.1 = .success ↔ count ≤ (available socket).length
  stored : count ≤ (available socket).length →
    buffer.store? total ((available socket).take count) = some result.2.1
  consumed : count ≤ (available socket).length →
    available result.2.2 = (available socket).drop count

theorem ReadsBytes.of_append {size : Nat} {count total : Nat} {buffer middle : Buffer size}
    {socket rest : Socket} {chunk : List UInt8} {result : Status × Buffer size × Socket}
    (arrived : chunk ++ available rest = available socket) (within : chunk.length ≤ count)
    (stored : buffer.store? total chunk = some middle)
    (reads : ReadsBytes (count - chunk.length) middle (total + chunk.length) rest result) :
    ReadsBytes count buffer total socket result := by
  have lengths : (available socket).length = chunk.length + (available rest).length := by
    rw [← arrived, List.length_append]
  have enough_iff : count - chunk.length ≤ (available rest).length ↔
      count ≤ (available socket).length := by omega
  refine ⟨reads.success_iff.trans enough_iff, fun enough => ?_, fun enough => ?_⟩
  · rw [← arrived, List.take_append, List.take_of_length_le within]
    exact Buffer.store?_append stored (reads.stored (enough_iff.mpr enough))
  · rw [reads.consumed (enough_iff.mpr enough), ← arrived, List.drop_append,
      List.drop_of_length_le within, List.nil_append]

/-- A `read` that delivers nothing ends the call, and there was nothing to deliver. -/
theorem ReadsBytes.of_missing {size : Nat} {count total : Nat} {buffer : Buffer size}
    {socket : Socket} {result : Status × Buffer size × Socket} (wanted : 0 < count)
    (failing : result.1 ≠ .success)
    (missing : ∀ chunk rest, read socket count ≠ (.received chunk, rest)) :
    ReadsBytes count buffer total socket result := by
  have empty := available_eq_nil count missing
  constructor <;> simp [empty, failing, Nat.pos_iff_ne_zero.mp wanted]

/-- The read loop never leaves its buffer, whatever arrives. -/
theorem readLoop_spec {size msgSz : Nat} (fits : msgSz ≤ size) (small : msgSz ≤ intMax)
    (fuel : Nat) (buffer : Buffer size) (total : Nat) (socket : Socket) (room : total ≤ msgSz)
    (enough : msgSz ≤ total + fuel) :
    ∃ result, readLoop msgSz fuel buffer total socket = some result ∧
      ReadsBytes (msgSz - total) buffer total socket result := by
  induction fuel generalizing buffer total socket with
  | zero =>
      have done : total = msgSz := by omega
      subst done
      refine ⟨(.success, buffer, socket), by simp [readLoop], ?_⟩
      constructor <;> simp [Buffer.store?_eq_some_iff, fits]
  | succ fuel ih =>
      rw [readLoop]
      by_cases done : total = msgSz
      · subst done
        refine ⟨(.success, buffer, socket), by simp, ?_⟩
        constructor <;> simp [Buffer.store?_eq_some_iff, fits]
      · have inOrder : ¬ msgSz < total := by omega
        simp only [done, inOrder, ↓reduceIte]
        cases answer : read socket (msgSz - total) with
        | mk answered rest =>
          cases answered with
          | received chunk =>
              obtain ⟨nonempty, within, arrived⟩ := read_received (by omega) answer
              have progress := List.length_pos_iff.mpr nonempty
              have inRange : ¬ intMax < total + chunk.length := by omega
              have chunkFits : total + chunk.length ≤ size := by omega
              obtain ⟨result, ran, reads⟩ := ih (buffer.store total chunk chunkFits)
                (total + chunk.length) rest (by omega) (by omega)
              refine ⟨result, ?_, ?_⟩
              · simp only [inRange, ↓reduceIte, Buffer.store?_eq_some chunkFits, ran]
              · rw [← Nat.sub_sub] at reads
                exact .of_append arrived within (Buffer.store?_eq_some chunkFits) reads
          | closed => exact ⟨_, rfl, .of_missing (by omega) (by simp) (by simp [answer])⟩
          | failed => exact ⟨_, rfl, .of_missing (by omega) (by simp) (by simp [answer])⟩

/-- A size above the limit is refused before anything is read. -/
theorem readBytes_tooLarge {P : Platform} {size msgSz : Nat} (tooLarge : P.maxMessageSize < msgSz)
    (socket : Socket) (buffer : Buffer size) :
    readBytes P socket buffer msgSz = some (.badArgument, buffer, socket) :=
  if_pos tooLarge

theorem readBytes_spec {P : Platform} {size msgSz : Nat} (accepted : msgSz ≤ P.maxMessageSize)
    (fits : msgSz ≤ size) (small : msgSz ≤ intMax) (socket : Socket) (buffer : Buffer size) :
    ∃ result, readBytes P socket buffer msgSz = some result ∧
      ReadsBytes msgSz buffer 0 socket result := by
  rw [readBytes, if_neg (Nat.not_lt.mpr accepted)]
  simpa using readLoop_spec fits small msgSz buffer 0 socket (Nat.zero_le _) (by omega)

/-- After a complete read into an array, its front is what arrived and the rest is old. -/
theorem ReadsBytes.bytes_eq {size count : Nat} {buffer : Buffer size} {socket : Socket}
    {result : Status × Buffer size × Socket} (reads : ReadsBytes count buffer 0 socket result)
    (enough : count ≤ (available socket).length) :
    result.2.1.bytes = (available socket).take count ++ buffer.bytes.drop count := by
  obtain ⟨fits, stored⟩ := Buffer.store?_eq_some_iff.mp (reads.stored enough)
  rw [← stored, Buffer.bytes_store_zero, List.length_take_of_le enough]

/-! ## Streams that end in a close -/

/-- What is left for the next call of an input that ends in a close.  With too few bytes the
call takes all of them before it fails. -/
structure ReadsToClose {size : Nat} (count : Nat) (socket : Socket)
    (result : Status × Buffer size × Socket) : Prop where
  endsInClose : EndsInClose result.2.2
  of_short : (available socket).length < count →
    result.1 = .pipeClosedErr ∧ available result.2.2 = []

theorem ReadsToClose.of_done {size : Nat} {buffer : Buffer size} {socket : Socket}
    (ends : EndsInClose socket) : ReadsToClose 0 socket (.success, buffer, socket) :=
  ⟨ends, fun short => absurd short (Nat.not_lt_zero _)⟩

theorem ReadsToClose.of_append {size count : Nat} {socket rest : Socket} {chunk : List UInt8}
    {result : Status × Buffer size × Socket}
    (arrived : chunk ++ available rest = available socket)
    (reads : ReadsToClose (count - chunk.length) rest result) :
    ReadsToClose count socket result := by
  refine ⟨reads.endsInClose, fun short => reads.of_short ?_⟩
  rw [← arrived, List.length_append] at short
  omega

theorem readLoop_endsInClose {size msgSz fuel : Nat} {buffer : Buffer size} {total : Nat}
    {socket : Socket} {result : Status × Buffer size × Socket} (ends : EndsInClose socket)
    (ran : readLoop msgSz fuel buffer total socket = some result) :
    ReadsToClose (msgSz - total) socket result := by
  induction fuel generalizing buffer total socket with
  | zero =>
      rw [readLoop] at ran
      split at ran
      next done =>
        cases ran
        rw [done, Nat.sub_self]
        exact .of_done ends
      next => cases ran
  | succ fuel ih =>
      rw [readLoop] at ran
      split at ran
      next done =>
        cases ran
        rw [done, Nat.sub_self]
        exact .of_done ends
      next =>
        split at ran
        next => cases ran
        next =>
          cases answer : read socket (msgSz - total) with
          | mk answered rest =>
            rw [answer] at ran
            cases answered with
            | received chunk =>
                obtain ⟨-, -, arrived⟩ := SegmentedInput.read_received (by omega) answer
                simp only at ran
                split at ran
                · cases ran
                · split at ran
                  · cases ran
                  · have reads := ih (ends.read_received answer) ran
                    rw [← Nat.sub_sub] at reads
                    exact .of_append arrived reads
            | closed =>
                cases ran
                obtain ⟨leftEnds, empty⟩ := ends.read_closed answer
                exact ⟨leftEnds, fun _ => ⟨rfl, empty⟩⟩
            | failed => exact absurd answer (ends.read_ne_failed _ rest)

/-- The status of a call, read off the bytes that arrive before the close. -/
def readStatus (P : Platform) (msgSz : Nat) (stream : List UInt8) : Status :=
  if P.maxMessageSize < msgSz then .badArgument
  else if msgSz ≤ stream.length then .success
  else .pipeClosedErr

/-- What a call leaves of the bytes that arrive before the close. -/
def unreadAfter (P : Platform) (msgSz : Nat) (stream : List UInt8) : List UInt8 :=
  if P.maxMessageSize < msgSz then stream else stream.drop msgSz

/-- The call is one read of exactly `msgSz` bytes. -/
structure ReadsExactly (P : Platform) {size : Nat} (msgSz : Nat) (buffer : Buffer size)
    (socket : Socket) (result : Status × Buffer size × Socket) : Prop where
  status_eq : result.1 = readStatus P msgSz (available socket)
  endsInClose : EndsInClose result.2.2
  unread_eq : available result.2.2 = unreadAfter P msgSz (available socket)
  bytes_eq : result.1 = .success →
    result.2.1.bytes = (available socket).take msgSz ++ buffer.bytes.drop msgSz

/-- On an input that ends in a close every call is one exact read, however the input is cut. -/
theorem exists_readsExactly {P : Platform} {size msgSz : Nat}
    (fits : msgSz ≤ P.maxMessageSize → msgSz ≤ size) (small : msgSz ≤ intMax) {socket : Socket}
    (ends : EndsInClose socket) (buffer : Buffer size) :
    ∃ result, readBytes P socket buffer msgSz = some result ∧
      ReadsExactly P msgSz buffer socket result := by
  by_cases tooLarge : P.maxMessageSize < msgSz
  · refine ⟨_, readBytes_tooLarge tooLarge socket buffer, ?_, ends, ?_, by simp⟩
    · rw [readStatus, if_pos tooLarge]
    · rw [unreadAfter, if_pos tooLarge]
  · have accepted := Nat.not_lt.mp tooLarge
    obtain ⟨result, ran, reads⟩ := readBytes_spec accepted (fits accepted) small socket buffer
    have looped := ran
    rw [readBytes, if_neg tooLarge] at looped
    have closing := readLoop_endsInClose ends looped
    rw [Nat.sub_zero] at closing
    refine ⟨result, ran, ?_, closing.endsInClose, ?_, fun success => ?_⟩
    · rw [readStatus, if_neg tooLarge]
      split
      next complete => exact reads.success_iff.mpr complete
      next short => exact (closing.of_short (Nat.not_le.mp short)).1
    · rw [unreadAfter, if_neg tooLarge]
      by_cases complete : msgSz ≤ (available socket).length
      · exact reads.consumed complete
      · have short := Nat.not_le.mp complete
        rw [(closing.of_short short).2, List.drop_of_length_le short.le]
    · exact reads.bytes_eq (reads.success_iff.mp success)

theorem length_unreadAfter_le (P : Platform) (msgSz : Nat) (stream : List UInt8) :
    (unreadAfter P msgSz stream).length ≤ stream.length := by
  rw [unreadAfter]
  split
  · exact Nat.le_refl _
  · rw [List.length_drop]
    exact Nat.sub_le _ _

/-- Two calls on the same bytes leave the same behind. -/
theorem ReadsExactly.agree {P : Platform} {size msgSz : Nat} {buffer : Buffer size}
    {left right : Socket} {resultLeft resultRight : Status × Buffer size × Socket}
    (readsLeft : ReadsExactly P msgSz buffer left resultLeft)
    (readsRight : ReadsExactly P msgSz buffer right resultRight)
    (same : available left = available right) :
    resultLeft.1 = resultRight.1 ∧ SameElements resultLeft.2.2 resultRight.2.2 ∧
      (resultLeft.1 = .success → resultLeft.2.1 = resultRight.2.1) := by
  have status : resultLeft.1 = resultRight.1 := by
    rw [readsLeft.status_eq, readsRight.status_eq, same]
  refine ⟨status, ⟨readsLeft.endsInClose, readsRight.endsInClose, ?_⟩, fun success => ?_⟩
  · rw [readsLeft.unread_eq, readsRight.unread_eq, same]
  · apply Buffer.ext
    rw [readsLeft.bytes_eq success, readsRight.bytes_eq (status ▸ success), same]

end SbnClient
