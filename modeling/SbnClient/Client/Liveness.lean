import SbnClient.Client.Init
import SbnClient.Stream.Minder

/-!
# Whether an initialised client is live

The first receive minder that gives up clears both continue flags, and nothing sets them
again.  `SBN_Client_Init` does not look at them: after that it still reports success, and the
minders that it starts return at once.
-/

namespace SbnClient

open FailureRuns SegmentedInput

variable {P : Platform} {trace : List (ProcessEvent P)} {process next : Process P}

/-! ## Minders that have given up -/

/-- The status that a step lets a receive minder see. -/
def ProcessEvent.statusOf (minder : Nat) : ProcessEvent P → Option Status
  | .received other status => if other = minder then some status else none
  | _ => none

/-- What the `recv_msg` calls of a receive minder have returned. -/
def statusesOf (minder : Nat) (trace : List (ProcessEvent P)) : List Status :=
  trace.filterMap (ProcessEvent.statusOf minder)

/-- Some receive minder has seen five failures in a row. -/
def GaveUp (trace : List (ProcessEvent P)) : Prop :=
  ∃ minder k, EndsIn isError 5 (statusesOf minder (trace.take k))

/-- Every entry is as `invalidate_pipe` leaves it. -/
def Invalidated (tbl : PipeTbl P) : Prop :=
  ∀ i, tbl i = invalidatePipe (tbl i)

/-- Minders that are started enter their loops, and no pipe exists yet. -/
structure Live (client : Client P) : Prop where
  flags_eq : client.flags = ⟨true, true⟩
  invalidated : Invalidated client.tbl

theorem statusesOf_concat (minder : Nat) (trace : List (ProcessEvent P)) (event : ProcessEvent P) :
    statusesOf minder (trace ++ [event]) =
      statusesOf minder trace ++ (event.statusOf minder).toList := by
  simp only [statusesOf, List.filterMap_append]
  cases found : event.statusOf minder <;> simp [found]

theorem gaveUp_of_endsIn {minder : Nat} (ends : EndsIn isError 5 (statusesOf minder trace)) :
    GaveUp trace :=
  ⟨minder, trace.length, by rwa [List.take_length]⟩

theorem gaveUp_concat_iff (event : ProcessEvent P) :
    GaveUp (trace ++ [event]) ↔
      GaveUp trace ∨ ∃ minder, EndsIn isError 5 (statusesOf minder (trace ++ [event])) := by
  constructor
  · rintro ⟨minder, k, ends⟩
    by_cases earlier : k ≤ trace.length
    · rw [List.take_append_of_le_length earlier] at ends
      exact .inl ⟨minder, k, ends⟩
    · rw [List.take_of_length_le (by simp; omega)] at ends
      exact .inr ⟨minder, ends⟩
  · rintro (⟨minder, k, ends⟩ | ⟨minder, ends⟩)
    · by_cases earlier : k ≤ trace.length
      · exact ⟨minder, k, by rwa [List.take_append_of_le_length earlier]⟩
      · refine ⟨minder, trace.length, ?_⟩
        rw [List.take_of_length_le (by omega)] at ends
        rwa [List.take_append_of_le_length (Nat.le_refl _), List.take_length]
    · exact gaveUp_of_endsIn ends

/-- A step in which no `recv_msg` call returns. -/
def ProcessEvent.Silent (event : ProcessEvent P) : Prop :=
  ∀ minder, event.statusOf minder = none

theorem ProcessEvent.Silent.statusesOf_eq {event : ProcessEvent P} (silent : event.Silent)
    (minder : Nat) : statusesOf minder (trace ++ [event]) = statusesOf minder trace := by
  rw [statusesOf_concat, silent minder, Option.toList_none, List.append_nil]

theorem ProcessEvent.Silent.gaveUp_iff {event : ProcessEvent P} (silent : event.Silent) :
    GaveUp (trace ++ [event]) ↔ GaveUp trace := by
  rw [gaveUp_concat_iff]
  refine or_iff_left_of_imp ?_
  rintro ⟨minder, ends⟩
  rw [silent.statusesOf_eq] at ends
  exact gaveUp_of_endsIn ends

/-! ## The invariant -/

/-- The counter of a running minder is the number of failures that its calls end in. -/
def MinderPhase.Counts (statuses : List Status) : MinderPhase → Prop
  | .checking consecErrorCount => consecErrorCount = trailing isError statuses
  | .receiving consecErrorCount => consecErrorCount = trailing isError statuses
  | .returned => True

/-- `SBN_Client_Init` has called `CFE_SBN_Client_InitPipeTbl` and not yet returned. -/
def InitPhase.Initialised : InitPhase → Prop
  | .outside => False
  | .initialised => True
  | .heartCreated => True
  | .returning status => status ≠ .badSockFd

/-- What holds between the steps of any threads. -/
structure Accountable (trace : List (ProcessEvent P)) (process : Process P) : Prop where
  cleared : GaveUp trace → process.client.flags = ⟨false, false⟩
  kept : ¬ GaveUp trace → process.client.flags = ⟨true, true⟩
  counts : ∀ (minder : Nat) (phase : MinderPhase),
    process.client.receiveMinders[minder]? = some phase →
      phase.Counts (statusesOf minder trace)
  unstarted : ∀ minder, process.client.receiveMinders.length ≤ minder →
    statusesOf minder trace = []
  invalidated : process.init.Initialised → Invalidated process.client.tbl

theorem accountable_start (tbl : PipeTbl P) : Accountable [] (Process.start tbl) where
  cleared := by
    rintro ⟨minder, k, ends⟩
    rw [List.take_nil] at ends
    exact absurd ends (not_endsIn_nil 4)
  kept _ := rfl
  counts := by simp [Process.start, Client.start]
  unstarted _ _ := rfl
  invalidated := False.elim

/-- A step in which no `recv_msg` call returns keeps the flags. -/
theorem Accountable.silent {event : ProcessEvent P} (accountable : Accountable trace process)
    (silent : event.Silent) (flags : next.client.flags = process.client.flags)
    (counts : ∀ (minder : Nat) (phase : MinderPhase),
      next.client.receiveMinders[minder]? = some phase → phase.Counts (statusesOf minder trace))
    (more : process.client.receiveMinders.length ≤ next.client.receiveMinders.length)
    (invalidated : next.init.Initialised → Invalidated next.client.tbl) :
    Accountable (trace ++ [event]) next where
  cleared gaveUp := flags.trans (accountable.cleared (silent.gaveUp_iff.mp gaveUp))
  kept notYet := flags.trans (accountable.kept fun gaveUp => notYet (silent.gaveUp_iff.mpr gaveUp))
  counts minder phase running := by
    rw [silent.statusesOf_eq]
    exact counts minder phase running
  unstarted minder beyond := by
    rw [silent.statusesOf_eq]
    exact accountable.unstarted minder (more.trans beyond)
  invalidated := invalidated

/-! ## One step -/

theorem invalidated_initPipeTbl (tbl : PipeTbl P) : Invalidated (initPipeTbl tbl) :=
  fun _ => rfl

/-- On a table without pipes a message changes nothing. -/
theorem Invalidated.arrivalStep {tbl next : PipeTbl P} (invalidated : Invalidated tbl)
    (step : ArrivalStep tbl next) : next = tbl := by
  cases step with
  | kept => rfl
  | pushed i payload used room =>
      rw [invalidated i] at used
      exact absurd used inUse_ne_notInUse.symm

@[simp] theorem flags_createHeartMinder (client : Client P) (status : Int) :
    (client.createHeartMinder status).flags = client.flags := by
  rw [Client.createHeartMinder]
  split <;> rfl

@[simp] theorem tbl_createHeartMinder (client : Client P) (status : Int) :
    (client.createHeartMinder status).tbl = client.tbl := by
  rw [Client.createHeartMinder]
  split <;> rfl

@[simp] theorem receiveMinders_createHeartMinder (client : Client P) (status : Int) :
    (client.createHeartMinder status).receiveMinders = client.receiveMinders := by
  rw [Client.createHeartMinder]
  split <;> rfl

@[simp] theorem flags_createReceiveMinder (client : Client P) (status : Int) :
    (client.createReceiveMinder status).flags = client.flags := by
  rw [Client.createReceiveMinder]
  split <;> rfl

@[simp] theorem tbl_createReceiveMinder (client : Client P) (status : Int) :
    (client.createReceiveMinder status).tbl = client.tbl := by
  rw [Client.createReceiveMinder]
  split <;> rfl

/-- A minder that is started begins with a counter of zero. -/
theorem receiveMinders_createReceiveMinder (client : Client P) (status : Int) :
    ∃ started, (client.createReceiveMinder status).receiveMinders =
        client.receiveMinders ++ started ∧ ∀ phase ∈ started, phase = .checking 0 := by
  rw [Client.createReceiveMinder]
  split
  · exact ⟨[.checking 0], rfl, by simp⟩
  · exact ⟨[], (List.append_nil _).symm, by simp⟩

/-- The counters after one more minder has been started. -/
theorem Accountable.counts_append (accountable : Accountable trace process)
    {started : List MinderPhase} (zero : ∀ phase ∈ started, phase = .checking 0)
    (minder : Nat) (phase : MinderPhase)
    (running : (process.client.receiveMinders ++ started)[minder]? = some phase) :
    phase.Counts (statusesOf minder trace) := by
  by_cases before : minder < process.client.receiveMinders.length
  · rw [List.getElem?_append_left before] at running
    exact accountable.counts minder phase running
  · rw [List.getElem?_append_right (Nat.not_lt.mp before)] at running
    rw [zero phase (List.mem_of_getElem? running),
      accountable.unstarted minder (Nat.not_lt.mp before)]
    exact trailing_nil.symm

/-- The counters after one minder has moved to another phase. -/
theorem Accountable.counts_set (accountable : Accountable trace process) {event : ProcessEvent P}
    {moved : Nat} {later : MinderPhase}
    (counts : later.Counts (statusesOf moved (trace ++ [event])))
    (others : ∀ minder, minder ≠ moved → event.statusOf minder = none)
    (minder : Nat) (phase : MinderPhase)
    (running : (process.client.receiveMinders.set moved later)[minder]? = some phase) :
    phase.Counts (statusesOf minder (trace ++ [event])) := by
  by_cases same : minder = moved
  · subst same
    rw [List.getElem?_set_self'] at running
    obtain ⟨old, -, equal⟩ := Option.map_eq_some_iff.mp running
    exact equal ▸ counts
  · rw [List.getElem?_set_ne (Ne.symm same)] at running
    rw [statusesOf_concat, others minder same, Option.toList_none, List.append_nil]
    exact accountable.counts minder phase running

/-- Another minder sees nothing of what `moved` receives. -/
theorem statusesOf_received_of_ne {moved minder : Nat} (distinct : minder ≠ moved)
    (status : Status) :
    statusesOf minder (trace ++ [.received moved status]) = statusesOf minder trace := by
  have unseen : (ProcessEvent.received (P := P) moved status).statusOf minder = none :=
    if_neg (Ne.symm distinct)
  rw [statusesOf_concat, unseen, Option.toList_none, List.append_nil]

theorem trailing_received (moved : Nat) (status : Status) :
    trailing isError (statusesOf moved (trace ++ [.received moved status])) =
      countError (trailing isError (statusesOf moved trace)) status := by
  rw [statusesOf_concat, countError_eq]
  simp [ProcessEvent.statusOf]

/-- A counter that has passed five reached it before. -/
theorem gaveUp_received_iff (moved : Nat) (status : Status) :
    GaveUp (trace ++ [.received moved status]) ↔
      GaveUp trace ∨ 5 = countError (trailing isError (statusesOf moved trace)) status := by
  rw [gaveUp_concat_iff]
  constructor
  · rintro (gaveUp | ⟨minder, ends⟩)
    · exact .inl gaveUp
    · by_cases same : minder = moved
      · subst same
        rw [endsIn_iff, trailing_received] at ends
        have counted := countError_le (trailing isError (statusesOf minder trace)) status
        rcases ends.eq_or_lt with five | passed
        · exact .inr five
        · have already : EndsIn isError 5 (statusesOf minder trace) := endsIn_iff.mpr (by omega)
          exact .inl (gaveUp_of_endsIn already)
      · rw [statusesOf_received_of_ne same] at ends
        exact .inl (gaveUp_of_endsIn ends)
  · rintro (gaveUp | five)
    · exact .inl gaveUp
    · refine .inr ⟨moved, endsIn_iff.mpr ?_⟩
      rw [trailing_received]
      exact five.le

/-- The call of a receive minder returns. -/
theorem Accountable.received (accountable : Accountable trace process) {moved count : Nat}
    {locals : RecvLocals P} {socket : Socket} {received : Received P}
    (receiving : process.client.receiveMinders[moved]? = some (.receiving count))
    (ran : recvMsg process.client.tbl locals socket = some received) :
    Accountable (trace ++ [.received moved received.status])
      { process with client := { process.client with
          flags := checkErrorCount process.client.flags (countError count received.status)
          tbl := received.tbl
          receiveMinders := process.client.receiveMinders.set moved
            (.checking (countError count received.status)) } } := by
  have before : count = trailing isError (statusesOf moved trace) :=
    accountable.counts moved _ receiving
  have gaveUp_iff : GaveUp (trace ++ [.received moved received.status]) ↔
      GaveUp trace ∨ 5 = countError count received.status := by
    rw [before]
    exact gaveUp_received_iff moved received.status
  refine ⟨fun gaveUp => ?_, fun notYet => ?_, ?_, fun minder beyond => ?_, fun initialised => ?_⟩
  · rw [checkErrorCount]
    split
    next => rfl
    next unequal => exact accountable.cleared ((gaveUp_iff.mp gaveUp).resolve_right unequal)
  · obtain ⟨notBefore, unequal⟩ := not_or.mp (mt gaveUp_iff.mpr notYet)
    rw [checkErrorCount, if_neg unequal]
    exact accountable.kept notBefore
  · refine accountable.counts_set ?_ fun minder distinct => if_neg (Ne.symm distinct)
    rw [before]
    exact (trailing_received moved received.status).symm
  · rw [List.length_set] at beyond
    have distinct : minder ≠ moved := by
      rintro rfl
      rw [List.getElem?_eq_none beyond] at receiving
      cases receiving
    rw [statusesOf_received_of_ne distinct]
    exact accountable.unstarted minder beyond
  · have invalidated := accountable.invalidated initialised
    rw [invalidated.arrivalStep (arrivalStep_of_recvMsg ran)]
    exact invalidated

/-- Every step of every thread keeps the account. -/
theorem Accountable.step (accountable : Accountable trace process) {event : ProcessEvent P}
    (step : Process.Step process event next) : Accountable (trace ++ [event]) next := by
  cases step with
  | connected env outside =>
      refine accountable.silent (fun _ => rfl) rfl accountable.counts (Nat.le_refl _) ?_
      intro initialised
      by_cases refused : connectToServer env < 0
      · simp [refused, InitPhase.Initialised] at initialised
      · simp only [Client.connect, if_neg refused]
        exact invalidated_initPipeTbl _
  | heartCreated heartThreadStatus initialised =>
      refine accountable.silent (fun _ => rfl) (by simp) (by simpa using accountable.counts)
        (by simp) fun _ => ?_
      simpa using accountable.invalidated (initialised ▸ trivial)
  | receiveCreated receiveThreadStatus created =>
      obtain ⟨started, minders, zero⟩ :=
        receiveMinders_createReceiveMinder process.client receiveThreadStatus
      refine accountable.silent (fun _ => rfl) (by simp) ?_ ?_ fun _ => ?_
      · simp only [minders]
        exact accountable.counts_append zero
      · simp [minders]
      · simpa using accountable.invalidated (created ▸ trivial)
  | initReturned status returning =>
      exact accountable.silent (fun _ => rfl) rfl accountable.counts (Nat.le_refl _) False.elim
  | called outside ran =>
      exact accountable.silent (fun _ => rfl) rfl accountable.counts (Nat.le_refl _) False.elim
  | @checked moved count checking =>
      have silent : (ProcessEvent.checked (P := P) moved).Silent := fun _ => rfl
      have counted := accountable.counts moved _ checking
      rw [← silent.statusesOf_eq] at counted
      refine accountable.silent silent rfl (fun minder phase running => ?_) (by simp)
        accountable.invalidated
      rw [← silent.statusesOf_eq minder]
      refine accountable.counts_set ?_ (fun _ _ => rfl) minder phase running
      split
      · exact counted
      · trivial
  | received receiving ran => exact accountable.received receiving ran
  | beat running continues =>
      exact accountable.silent (fun _ => rfl) rfl accountable.counts (Nat.le_refl _)
        accountable.invalidated
  | heartReturned running stops =>
      exact accountable.silent (fun _ => rfl) rfl accountable.counts (Nat.le_refl _)
        accountable.invalidated

/-! ## Runs -/

theorem accountable_run (tbl : PipeTbl P)
    (run : Machine.Run Process.Step (Process.start tbl) trace process) :
    Accountable trace process :=
  run.invariant (accountable_start tbl) fun _ _ _ _ accountable step => accountable.step step

/-- In every run of all threads from the start of the process, a successful `SBN_Client_Init`
means a live client exactly when no receive minder has given up yet. -/
theorem init_success_live_iff (tbl : PipeTbl P)
    (run : Machine.Run Process.Step (Process.start tbl) (trace ++ [.initReturned .success])
      process) : Live process.client ↔ ¬ GaveUp trace := by
  obtain ⟨before, ran, step⟩ := run.last
  have accountable := accountable_run tbl ran
  cases step with
  | initReturned _ returning =>
      constructor
      · intro live gaveUp
        have contradictory := (accountable.cleared gaveUp).symm.trans live.flags_eq
        simp at contradictory
      · intro notYet
        refine ⟨accountable.kept notYet, accountable.invalidated ?_⟩
        rw [returning]
        simp [InitPhase.Initialised]

/-! ## A lost connection -/

/-- A turn of a receive minder that finds the connection closed. -/
theorem run_lostTurn (header : 0 < P.packedHdrSz) {start : Process P}
    (run : Machine.Run Process.Step start trace process) {minder count : Nat}
    (checking : process.client.receiveMinders[minder]? = some (.checking count))
    (continues : process.client.flags.receiveCheck = true) :
    ∃ more after, Machine.Run Process.Step start (trace ++ more) after ∧
      after.client.receiveMinders[minder]? = some (.checking (count + 1)) ∧
      after.client.flags = checkErrorCount process.client.flags (count + 1) ∧
      after.init = process.init := by
  obtain ⟨inRange, -⟩ := List.getElem?_eq_some_iff.mp checking
  have entered := run.snoc (.checked checking)
  rw [if_pos continues] at entered
  have receiving : (process.client.receiveMinders.set minder
      (.receiving count))[minder]? = some (.receiving count) := List.getElem?_set_self inRange
  obtain ⟨received, ran, failed, -⟩ := recvMsg_stuck process.client.tbl (zeroLocals P)
    (endsInClose_whole []) (.inr (by simpa using header))
  have returned := entered.snoc (.received receiving ran)
  have counted : countError count received.status = count + 1 := if_pos failed
  rw [List.append_assoc] at returned
  refine ⟨_, _, returned, ?_, ?_, rfl⟩
  · rw [counted, List.set_set, List.getElem?_set_self inRange]
  · rw [counted]

/-- Five of them in a row. -/
theorem run_lostTurns (header : 0 < P.packedHdrSz) {start : Process P}
    (run : Machine.Run Process.Step start trace process) (minder : Nat)
    (checking : process.client.receiveMinders[minder]? = some (.checking 0))
    (flags : process.client.flags = ⟨true, true⟩) :
    ∃ more after, Machine.Run Process.Step start (trace ++ more) after ∧
      after.client.flags = ⟨false, false⟩ ∧ after.init = process.init := by
  have turns : ∀ count < 5, ∃ more after, Machine.Run Process.Step start (trace ++ more) after ∧
      after.client.receiveMinders[minder]? = some (.checking count) ∧
      after.client.flags = ⟨true, true⟩ ∧ after.init = process.init := by
    intro count
    induction count with
    | zero => exact fun _ => ⟨[], process, by rwa [List.append_nil], checking, flags, rfl⟩
    | succ count ih =>
        intro few
        obtain ⟨more, after, ran, counted, kept, same⟩ := ih (by omega)
        obtain ⟨again, next, ranNext, countedNext, flagsNext, sameNext⟩ :=
          run_lostTurn header ran counted (by rw [kept])
        rw [List.append_assoc] at ranNext
        rw [checkErrorCount, if_neg (by omega)] at flagsNext
        exact ⟨_, next, ranNext, countedNext, flagsNext.trans kept, sameNext.trans same⟩
  obtain ⟨more, after, ran, counted, kept, same⟩ := turns 4 (by decide)
  obtain ⟨last, final, ranFinal, -, cleared, sameFinal⟩ :=
    run_lostTurn header ran counted (by rw [kept])
  rw [List.append_assoc] at ranFinal
  exact ⟨_, final, ranFinal, cleared, sameFinal.trans same⟩

/-- The system calls of a `SBN_Client_Init` call that succeeds. -/
def connectedEnv : InitEnv := ⟨⟨3, 1, 0⟩, 0, 0⟩

/-- Such a call, whatever the client has been through. -/
theorem run_connected {start : Process P}
    (run : Machine.Run Process.Step start trace process) (outside : process.init = .outside) :
    ∃ more, Machine.Run Process.Step start (trace ++ more ++ [.initReturned .success])
      ⟨(sbnClientInit process.client connectedEnv).1, .outside⟩ := by
  obtain ⟨client, init⟩ := process
  cases outside
  have success : (sbnClientInit client connectedEnv).2 = .success := by
    rw [sbnClientInit_success_iff]
    decide
  obtain ⟨more, ran⟩ := run_sbnClientInit client connectedEnv
  rw [success] at ran
  refine ⟨more, ?_⟩
  rw [List.append_assoc]
  exact run.trans ran

/-- The server closes the connection of an initialised client, whose receive minder gives up;
a second `SBN_Client_Init` succeeds, and its minders will not enter their loops. -/
theorem reinitialised_client_not_live :
    ∃ trace process, Machine.Run Process.Step
        (Process.start (zeroPipeTbl (standardPlatform 32768)))
        (trace ++ [.initReturned .success]) process ∧
      process.client.flags = ⟨false, false⟩ ∧ ¬ Live process.client := by
  have started : Machine.Run Process.Step
      (Process.start (zeroPipeTbl (standardPlatform 32768))) [] _ := .refl
  obtain ⟨first, ranFirst⟩ := run_connected started rfl
  obtain ⟨lost, after, ranLost, cleared, same⟩ :=
    run_lostTurns (Nat.succ_pos 6) ranFirst 0 rfl rfl
  obtain ⟨second, ranSecond⟩ := run_connected ranLost same
  have flags : (sbnClientInit after.client connectedEnv).1.flags = ⟨false, false⟩ := cleared
  refine ⟨_, _, ranSecond, flags, fun live => ?_⟩
  have contradictory := flags.symm.trans live.flags_eq
  simp at contradictory

/-- A client that is initialised for the first time. -/
theorem first_initialisation_live :
    ∃ trace process, Machine.Run Process.Step
        (Process.start (zeroPipeTbl (standardPlatform 32768)))
        (trace ++ [.initReturned .success]) process ∧
      (Live process.client ↔ ¬ GaveUp trace) := by
  have started : Machine.Run Process.Step
      (Process.start (zeroPipeTbl (standardPlatform 32768))) [] _ := .refl
  obtain ⟨more, ran⟩ := run_connected started rfl
  exact ⟨_, _, ran, init_success_live_iff _ ran⟩

end SbnClient
