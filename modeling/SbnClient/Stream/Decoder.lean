import SbnClient.Registry.FirstPipe
import SbnClient.Stream.Minder
import SbnClient.Stream.Step

/-!
# What the receive path makes of arbitrary bytes

`decodeFrame` reads one message off the front of a byte stream that ends in a close, whatever
the bytes are.  It is the receive path in its own terms: no socket, no segments, no buffers.
Every `recv_msg` call is one `decodeFrame`, and a whole run of the receive minder is as many of
them as it takes to five failures in a row.
-/

namespace SbnClient

open FailureRuns SegmentedInput

variable {P : Platform}

/-! ## The decoder -/

/-- What is read off the front of a stream. -/
structure Decoded (P : Platform) where
  status : Status
  /-- The payload of an app message that arrives completely. -/
  payload : Option (Payload P)
  rest : List UInt8

/-- The payload of `msgSz` bytes at the front of a stream. -/
def decodePayload (P : Platform) (msgSz : Nat) (stream : List UInt8) : Option (Payload P) :=
  if arrives : msgSz ≤ P.maxMessageSize ∧ msgSz ≤ stream.length then
    some ⟨stream.take msgSz, (List.length_take_le _ _).trans arrives.1⟩
  else
    none

/-- One message off the front of a stream.  A message of an unknown type, or one above the size
limit, loses its header only. -/
def decodeFrame (P : Platform) (stream : List UInt8) : Decoded P :=
  let hdr := SbnHdr.ofBytes stream
  let msgSz := hdr.msgSz.toNat
  let body := stream.drop 7
  if stream.length < 7 then ⟨.pipeClosedErr, none, []⟩
  else if hdr.msgType ∈ dropped P then
    ⟨readStatus P msgSz body, none, unreadAfter P msgSz body⟩
  else if hdr.msgType = P.sbnAppMsg then
    ⟨.success, decodePayload P msgSz body, unreadAfter P msgSz body⟩
  else
    ⟨.evsError, none, body⟩

/-- So many messages off the front of a stream, and what is left of it. -/
def decodeFrames (P : Platform) : Nat → List UInt8 → List (Decoded P) × List UInt8
  | 0, stream => ([], stream)
  | count + 1, stream =>
      let decoded := decodeFrame P stream
      let later := decodeFrames P count decoded.rest
      (decoded :: later.1, later.2)

/-- A payload is routed by its message id, which may begin in what `msg_buffer` held before. -/
def deliverDecoded (tbl : PipeTbl P) (locals : RecvLocals P) (decoded : Decoded P) : PipeTbl P :=
  match decoded.payload with
  | some payload => deliver tbl (getMsgId P (filledWith locals.msgBuffer payload)) payload
  | none => tbl

/-- The table after so many messages, each received with buffers of its own. -/
def deliverAll : PipeTbl P → (Nat → RecvLocals P) → List (Decoded P) → PipeTbl P
  | tbl, _, [] => tbl
  | tbl, locals, decoded :: later =>
      deliverAll (deliverDecoded tbl (locals 0) decoded) (fun turn => locals (turn + 1)) later

/-- An app message has the two bytes of an id. -/
def Decoded.HasMsgId (decoded : Decoded P) : Prop :=
  ∀ payload ∈ decoded.payload, 2 ≤ payload.bytes.length

/-- The table after so many messages, each routed by the id that its payload begins with. -/
def routeAll (tbl : PipeTbl P) (messages : List (Decoded P)) : PipeTbl P :=
  (messages.filterMap Decoded.payload).foldl
    (fun tbl payload => deliver tbl payload.msgId payload) tbl

/-- Where every app message has its id, what was in the buffers does not matter. -/
theorem deliverAll_eq_routeAll (format : DefaultFormat P) (tbl : PipeTbl P)
    (locals : Nat → RecvLocals P) {messages : List (Decoded P)}
    (msgIds : ∀ decoded ∈ messages, decoded.HasMsgId) :
    deliverAll tbl locals messages = routeAll tbl messages := by
  induction messages generalizing tbl locals with
  | nil => rfl
  | cons decoded later ih =>
      obtain ⟨msgId, msgIds⟩ := List.forall_mem_cons.mp msgIds
      rw [deliverAll, ih _ _ msgIds, routeAll, routeAll, deliverDecoded]
      cases isPayload : decoded.payload with
      | none => rw [List.filterMap_cons_none isPayload]
      | some payload =>
          rw [List.filterMap_cons_some isPayload, List.foldl_cons]
          simp only [getMsgId_filledWith format (locals 0).msgBuffer (msgId payload isPayload)]

/-- Every app message that is decoded from the bytes is long enough for a message id. -/
def HasMsgIds (P : Platform) (stream : List UInt8) : Prop :=
  ∀ count, ∀ decoded ∈ (decodeFrames P count stream).1, decoded.HasMsgId

/-- What the user of an empty stream needs to know. -/
theorem hasMsgIds_nil : HasMsgIds P [] := by
  have none : ∀ count, ∀ decoded ∈ (decodeFrames P count []).1, decoded.payload = none := by
    intro count
    induction count with
    | zero => exact List.forall_mem_nil _
    | succ count ih =>
        intro decoded member
        rcases List.mem_cons.mp member with rfl | later
        · rfl
        · exact ih decoded later
  intro count decoded member payload isPayload
  rw [none count decoded member] at isPayload
  cases isPayload

theorem HasMsgIds.cons {stream : List UInt8}
    (first : ∀ payload ∈ (decodeFrame P stream).payload, 2 ≤ payload.bytes.length)
    (rest : HasMsgIds P (decodeFrame P stream).rest) : HasMsgIds P stream := by
  intro count decoded member
  cases count with
  | zero => exact absurd member List.not_mem_nil
  | succ count =>
      rcases List.mem_cons.mp member with rfl | later
      · exact first
      · exact rest count decoded later

theorem HasMsgIds.first {stream : List UInt8} (msgIds : HasMsgIds P stream) {payload : Payload P}
    (isPayload : (decodeFrame P stream).payload = some payload) : 2 ≤ payload.bytes.length :=
  msgIds 1 (decodeFrame P stream) (List.mem_singleton_self _) payload isPayload

theorem HasMsgIds.rest {stream : List UInt8} (msgIds : HasMsgIds P stream) :
    HasMsgIds P (decodeFrame P stream).rest :=
  fun count decoded member => msgIds (count + 1) decoded (List.mem_cons_of_mem _ member)

/-! ## One call -/

/-- The call does what the decoder says. -/
structure Decodes (tbl : PipeTbl P) (locals : RecvLocals P) (decoded : Decoded P)
    (received : Received P) : Prop where
  status_eq : received.status = decoded.status
  tbl_eq : received.tbl = deliverDecoded tbl locals decoded
  endsInClose : EndsInClose received.socket
  unread_eq : available received.socket = decoded.rest

theorem ingestAppMessage_decodes (tbl : PipeTbl P) (locals : RecvLocals P) {socket : Socket}
    (ends : EndsInClose socket) (msgSz : UInt16) :
    ∃ result left, ingestAppMessage tbl locals.msgBuffer socket msgSz =
        some (deliverDecoded tbl locals ⟨.success, decodePayload P msgSz.toNat (available socket),
          unreadAfter P msgSz.toNat (available socket)⟩, left, result) ∧
      EndsInClose left ∧ available left = unreadAfter P msgSz.toNat (available socket) := by
  obtain ⟨⟨status, filled, rest⟩, ran, reads⟩ := exists_readsExactly
    (fun accepted => accepted) (toNat_le_intMax msgSz) ends locals.msgBuffer
  by_cases arrives : msgSz.toNat ≤ P.maxMessageSize ∧ msgSz.toNat ≤ (available socket).length
  · obtain ⟨left, ingested, -⟩ :=
      ingestAppMessage_of_complete tbl locals.msgBuffer arrives.1 arrives.2
    obtain rfl := ingestAppMessage_rest ingested ran
    refine ⟨ingestResult tbl (getMsgId P (filledWith locals.msgBuffer
      (incoming socket _ arrives.1))), left, ?_, reads.endsInClose, reads.unread_eq⟩
    rw [ingested, deliverDecoded, decodePayload, dif_pos arrives]
    rfl
  · have incomplete : P.maxMessageSize < msgSz.toNat ∨ (available socket).length < msgSz.toNat := by
      omega
    obtain ⟨left, failure, ingested⟩ :=
      ingestAppMessage_of_incomplete tbl locals.msgBuffer incomplete
    obtain rfl := ingestAppMessage_rest ingested ran
    refine ⟨.readFailed failure, left, ?_, reads.endsInClose, reads.unread_eq⟩
    rw [ingested, deliverDecoded, decodePayload, dif_neg arrives]

/-- One `recv_msg` call on any bytes that end in a close. -/
theorem recvMsg_decodes (layout : SbnLayout P) (tbl : PipeTbl P) (locals : RecvLocals P)
    {socket : Socket} (ends : EndsInClose socket) :
    ∃ received, recvMsg tbl locals socket = some received ∧
      Decodes tbl locals (decodeFrame P (available socket)) received := by
  obtain ⟨⟨status, filled, afterHeader⟩, ran, reads⟩ := exists_readsExactly (P := P)
    (fun _ => Nat.le_refl P.packedHdrSz) (packedHdrSz_le_intMax P) ends locals.sbnHdrBuffer
  have accepted : ¬ P.maxMessageSize < P.packedHdrSz := Nat.not_lt.mpr layout.packedHdrSz_le
  have told : status = readStatus P P.packedHdrSz (available socket) := reads.status_eq
  have unread : available afterHeader = unreadAfter P P.packedHdrSz (available socket) :=
    reads.unread_eq
  rw [unreadAfter, if_neg accepted, layout.packedHdrSz_eq] at unread
  rw [decodeFrame]
  by_cases short : (available socket).length < 7
  · have closed : status = .pipeClosedErr := by
      have incomplete : ¬ P.packedHdrSz ≤ (available socket).length := by
        rw [layout.packedHdrSz_eq]
        omega
      rw [told, readStatus, if_neg accepted, if_neg incomplete]
    refine ⟨⟨status, tbl, afterHeader⟩, by simp [recvMsg, ran, closed], ?_⟩
    rw [List.drop_of_length_le short.le] at unread
    simp only [if_pos short]
    exact ⟨closed, rfl, reads.endsInClose, unread⟩
  · have complete : P.packedHdrSz ≤ (available socket).length := by
      rw [layout.packedHdrSz_eq]
      omega
    have success : status = .success := by
      rw [told, readStatus, if_neg accepted, if_pos complete]
    have header : unpackSbnHdr P filled = SbnHdr.ofBytes (available socket) := by
      rw [layout.unpackSbnHdr_eq, reads.bytes_eq success,
        List.drop_of_length_le locals.sbnHdrBuffer.length_bytes.le, List.append_nil,
        layout.packedHdrSz_eq, SbnHdr.ofBytes_take]
    have dispatched : recvMsg tbl locals socket =
        recvPayload tbl locals (SbnHdr.ofBytes (available socket)) afterHeader := by
      simp [recvMsg, ran, success, header]
    simp only [if_neg short, ← unread, dispatched, recvPayload]
    by_cases isDropped : (SbnHdr.ofBytes (available socket)).msgType ∈ dropped P
    · obtain ⟨⟨status, message, rest⟩, ranPayload, readsPayload⟩ := exists_readsExactly
        (fun accepted => accepted) (toNat_le_intMax (SbnHdr.ofBytes (available socket)).msgSz)
        reads.endsInClose locals.msg
      rw [if_pos isDropped, if_pos isDropped, ranPayload]
      exact ⟨_, rfl, readsPayload.status_eq, rfl, readsPayload.endsInClose,
        readsPayload.unread_eq⟩
    · rw [if_neg isDropped, if_neg isDropped]
      by_cases isApp : (SbnHdr.ofBytes (available socket)).msgType = P.sbnAppMsg
      · obtain ⟨result, left, ingested, leftEnds, leftUnread⟩ :=
          ingestAppMessage_decodes tbl locals reads.endsInClose
            (SbnHdr.ofBytes (available socket)).msgSz
        rw [if_pos isApp, if_pos isApp, ingested]
        exact ⟨_, rfl, rfl, rfl, leftEnds, leftUnread⟩
      · rw [if_neg isApp, if_neg isApp]
        exact ⟨_, rfl, rfl, rfl, reads.endsInClose, rfl⟩

/-! ## The whole minder -/

/-- A run of the loop, as far as it has come. -/
theorem receiveLoop_decodes (layout : SbnLayout P) {fuel : Nat} {locals : Nat → RecvLocals P}
    {minder final : ReceiveMinder P} {statuses : List Status} (ends : EndsInClose minder.socket)
    (ran : receiveLoop locals fuel minder = some (final, statuses)) :
    let decoded := decodeFrames P statuses.length (available minder.socket)
    statuses = decoded.1.map Decoded.status ∧ final.tbl = deliverAll minder.tbl locals decoded.1 ∧
      available final.socket = decoded.2 := by
  induction fuel generalizing locals minder statuses with
  | zero =>
      rw [receiveLoop] at ran
      split at ran
      next =>
        cases ran
        exact ⟨rfl, rfl, rfl⟩
      next => cases ran
  | succ fuel ih =>
      rw [receiveLoop] at ran
      split at ran
      next =>
        cases ran
        exact ⟨rfl, rfl, rfl⟩
      next =>
        obtain ⟨⟨next, status⟩, turned, looped⟩ := Option.bind_eq_some_iff.mp ran
        obtain ⟨⟨last, later⟩, ranLater, equal⟩ := Option.map_eq_some_iff.mp looped
        cases equal
        obtain ⟨received, called, decodes⟩ := recvMsg_decodes layout minder.tbl (locals 0) ends
        rw [receiveTurn, called, Option.map_some, Option.some.injEq, Prod.mk.injEq] at turned
        obtain ⟨rfl, rfl⟩ := turned
        obtain ⟨statusesLater, tblLater, unreadLater⟩ := ih decodes.endsInClose ranLater
        simp only [decodes.unread_eq, decodes.tbl_eq] at statusesLater tblLater unreadLater
        refine ⟨?_, tblLater, unreadLater⟩
        simp only [List.length_cons, decodeFrames, List.map_cons, ← statusesLater,
          decodes.status_eq]

/-- The receive path is a function of the table and the bytes.  On any stream that ends in a
close, however it is cut, `SBN_Client_ReceiveMinder` returns, the statuses of its calls are those
of the decoder up to the first five failures in a row, and what is left unread is what the
decoder leaves.  If the app messages among the decoded ones have their ids, the table is what
routing their payloads makes of it, whatever was in the buffers. -/
theorem receiveMinder_decodes (layout : SbnLayout P) (format : DefaultFormat P)
    (tbl : PipeTbl P) {socket : Socket} (ends : EndsInClose socket)
    (locals : Nat → RecvLocals P) :
    ∃ count final, let decoded := decodeFrames P count (available socket)
      (∀ fuel, count ≤ fuel → receiveMinder locals fuel initialFlags tbl socket =
        some (final, decoded.1.map Decoded.status)) ∧
      EndsFirst isError 5 (decoded.1.map Decoded.status) ∧
      available final.socket = decoded.2 ∧
      ((∀ message ∈ decoded.1, message.HasMsgId) → final.tbl = routeAll tbl decoded.1) := by
  have minding : Minding [] (⟨initialFlags, 0, tbl, socket⟩ : ReceiveMinder P) :=
    ⟨rfl, by simp, below_nil (by decide), ends⟩
  have positive : 0 < P.packedHdrSz := by
    rw [layout.packedHdrSz_eq]
    decide
  obtain ⟨final, statuses, -, ran, first, -⟩ :=
    minding.loop positive _ (Nat.le_refl _) locals
  obtain ⟨statuses_eq, tbl_eq, unread_eq⟩ :=
    receiveLoop_decodes layout ends (ran statuses.length (Nat.le_refl _))
  refine ⟨statuses.length, final, ?_, ?_, unread_eq, fun msgIds => ?_⟩
  · rw [← statuses_eq]
    exact ran
  · rw [← statuses_eq]
    simpa using first
  · rw [tbl_eq, deliverAll_eq_routeAll format tbl locals msgIds]

/-- A message for a subscribed pipe, a header of a type that is not known, and a close before
the next header is complete. -/
theorem subscribed_frame_decodes :
    let socket : Socket := [.received 0 [3, 3, 0, 0, 0, 2, 8], .received 1 [9, 0, 0, 7, 0],
      .received 0 [0, 2, 0], .closed]
    let tbl := subscribedPipe (zeroPipeTbl (standardPlatform 64)) [0x41] 0x0801
    (routeAll tbl (decodeFrames (standardPlatform 64) 1 (available socket)).1 0).numberOfMessages
        = 2 ∧
      ∃ count final, let decoded := decodeFrames (standardPlatform 64) count (available socket)
        (∀ fuel, count ≤ fuel → receiveMinder (fun _ => zeroLocals (standardPlatform 64)) fuel
          initialFlags tbl socket = some (final, decoded.1.map Decoded.status)) ∧
        EndsFirst isError 5 (decoded.1.map Decoded.status) ∧
        available final.socket = decoded.2 ∧ final.tbl = routeAll tbl decoded.1 := by
  intro socket tbl
  have msgIds : HasMsgIds (standardPlatform 64) (available socket) := by
    refine .cons (fun payload isPayload => ?_) (.cons ?_ (.cons ?_ hasMsgIds_nil))
    · cases isPayload
      decide
    · exact fun payload isPayload => nomatch isPayload
    · exact fun payload isPayload => nomatch isPayload
  have ends : EndsInClose socket := ⟨trivial, rfl⟩
  obtain ⟨count, final, ran, first, unread, routed⟩ := receiveMinder_decodes
    (standardPlatform_sbnLayout (by decide)) (standardPlatform_defaultFormat 64) tbl ends
    fun _ => zeroLocals _
  exact ⟨by decide +kernel, count, final, ran, first, unread, routed (msgIds count)⟩

end SbnClient
