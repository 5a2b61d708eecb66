import SbnClient.Client.Liveness
import SbnClient.Foundations.Simulation
import SbnClient.Registry.Recorded

/-!
# The pipes of a client that is initialised again

`SBN_Client_Init` empties the pipe table whenever it has a connection, also that of a client
whose pipes are in use, and leaves it alone when the connection fails.  What the table says
is from then on a matter of the calls made since.  Receive minders that an earlier initialisation
has started keep putting messages into the pipes that there are now.
-/

namespace SbnClient

open SegmentedInput

variable {P : Platform} {process next : Process P}

/-- `connect_to_server` returns a socket. -/
def ProcessEvent.Connects : ProcessEvent P → Prop
  | .connected env => 0 ≤ connectToServer env
  | _ => False

/-- The call by which the application uses its pipes. -/
def ProcessEvent.op? : ProcessEvent P → Option (Op P)
  | .called op => some op
  | _ => none

/-- The calls of the application are those of a sequential run. -/
def Process.Uses (process : Process P) (event : ProcessEvent P) : Prop :=
  ∀ op, event = .called op → op.Sequential process.client.tbl

/-- The table records a history of these calls. -/
def RecordsOps (ops : List (Op P)) (process : Process P) : Prop :=
  ∃ history : History P, history.map Prod.fst = ops ∧ Recorded history process.client.tbl

/-! ## One step -/

/-- A connection empties the table. -/
theorem recordsOps_of_connects {env : ConnectEnv} (step : process.Step (.connected env) next)
    (connected : 0 ≤ connectToServer env) : RecordsOps [] next := by
  cases step with
  | connected env outside =>
      refine ⟨[], rfl, ?_⟩
      rw [Client.connect, if_neg (Int.not_lt.mpr connected)]
      exact recorded_initPipeTbl process.client.tbl

/-- Any other step records the call of the application, if it makes one. -/
theorem RecordsOps.step {ops : List (Op P)} (records : RecordsOps ops process)
    {event : ProcessEvent P} (step : process.Step event next) (uses : process.Uses event)
    (unconnected : ¬ event.Connects) : RecordsOps (ops ++ event.op?.toList) next := by
  obtain ⟨history, same, recorded⟩ := records
  have kept : ∀ tbl, tbl = process.client.tbl →
      ∃ history : History P, history.map Prod.fst = ops ++ [] ∧ Recorded history tbl := by
    rintro tbl rfl
    exact ⟨history, same.trans (List.append_nil ops).symm, recorded⟩
  cases step with
  | connected env outside => exact kept _ (if_pos (Int.not_le.mp unconnected))
  | heartCreated status => exact kept _ (tbl_createHeartMinder ..)
  | receiveCreated status => exact kept _ (tbl_createReceiveMinder ..)
  | initReturned | checked | beat | heartReturned => exact kept _ rfl
  | @called op tbl outcome outside ran =>
      refine ⟨history ++ [(op, outcome)], ?_, recorded.applyOp (uses op rfl) ran⟩
      rw [List.map_append, same]
      rfl
  | received receiving ran =>
      refine ⟨history, same.trans (List.append_nil ops).symm, ?_⟩
      exact recorded.arrivalStep (arrivalStep_of_recvMsg ran)

/-! ## Runs -/

/-- What the pipe table says after an initialisation that got a connection is a matter of the
calls made since then, as long as no later one gets a connection: which ids are those of pipes,
what each call to come will do, and which pipe takes a message.  No id that was handed out
before is the id of a pipe unless `CreatePipe` has returned it again. -/
theorem pipes_since_connect {env : ConnectEnv} (step : process.Step (.connected env) next)
    (connected : 0 ≤ connectToServer env) {trace : List (ProcessEvent P)} {final : Process P}
    (run : Machine.Run (Machine.Guarded Process.Step Process.Uses) next trace final)
    (last : ∀ event ∈ trace, ¬ event.Connects) :
    ∃ history : History P, history.map Prod.fst = trace.filterMap ProcessEvent.op? ∧
      PipeRegistry history final.client.tbl ∧
      ∀ msgId ≠ invalidMsgId, ∀ i,
        route final.client.tbl msgId = some i ↔ FirstEnlisted history msgId i := by
  have preserves : ∀ trace (process : Process P) event next,
      RecordsOps (trace.filterMap ProcessEvent.op?) process →
      Machine.Guarded (Machine.Guarded Process.Step Process.Uses)
        (fun _ event => ¬ event.Connects) process event next →
      RecordsOps ((trace ++ [event]).filterMap ProcessEvent.op?) next := by
    intro trace process event next records guarded
    have recorded := records.step guarded.1.1 guarded.1.2 guarded.2
    rwa [List.filterMap_append, List.filterMap_eq_flatMap_toList ProcessEvent.op? [event],
      List.flatMap_singleton]
  obtain ⟨history, same, recorded⟩ := @Machine.Run.invariant _ _ _ _
    (fun trace process => RecordsOps (trace.filterMap ProcessEvent.op?) process)
    (recordsOps_of_connects step connected) preserves _ _ (run.guarded last)
  exact ⟨history, same, recorded.registry.pipeRegistry recorded.agrees,
    fun _ proper _ => recorded.route_eq_some_iff proper⟩

/-- A client with one pipe, and with a receive minder that is in `recv_msg`. -/
def clientInUse : Process (standardPlatform 64) :=
  ⟨{ Client.start (createPipe (initPipeTbl (zeroPipeTbl _)) true 4 [0x41]).tbl with
      receiveMinders := [.receiving 0] }, .outside⟩

/-- It is initialised again, and the application deletes its pipe, in vain, and creates another
one. -/
theorem reinitialised_pipes :
    ∃ (final : Process (standardPlatform 64)) (trace : List (ProcessEvent _))
      (history : History (standardPlatform 64)), trace.length = 6 ∧
      history.map Prod.fst = trace.filterMap ProcessEvent.op? ∧
      PipeRegistry history final.client.tbl ∧
      ∀ msgId ≠ invalidMsgId, ∀ i,
        route final.client.tbl msgId = some i ↔ FirstEnlisted history msgId i := by
  have connected : clientInUse.Step (.connected ⟨4, 1, 0⟩)
      ⟨clientInUse.client.connect ⟨4, 1, 0⟩, .initialised⟩ := .connected _ rfl
  have silent : ∀ (process : Process (standardPlatform 64)) (event : ProcessEvent _),
      event.op? = none → process.Uses event := by
    rintro process event silent op rfl
    cases silent
  have managing : ∀ (process : Process (standardPlatform 64)) (op : Op _), op.ManagesPipes →
      process.Uses (.called op) := by
    intro process op manages other isCall
    cases isCall
    cases op with
    | createPipe | deletePipe => trivial
    | _ => exact manages.elim
  have run := Machine.Run.refl
    |>.snoc (show Machine.Guarded Process.Step Process.Uses
        ⟨clientInUse.client.connect ⟨4, 1, 0⟩, .initialised⟩ (.heartCreated 0) _ from
      ⟨.heartCreated 0 rfl, silent _ _ rfl⟩)
    |>.snoc ⟨.receiveCreated 0 rfl, silent _ _ rfl⟩
    |>.snoc ⟨.initReturned .success rfl, silent _ _ rfl⟩
    |>.snoc ⟨@Process.Step.called _ _ (.deletePipe 0) _ _ rfl rfl, managing _ _ trivial⟩
    |>.snoc ⟨@Process.Step.received _ _ 0 0 (zeroLocals _) (whole [0, 2, 3, 0, 0, 0, 2, 8, 1]) _
      rfl rfl, silent _ _ rfl⟩
    |>.snoc ⟨@Process.Step.called _ _ (.createPipe true 4 [0x42]) _ _ rfl rfl,
      managing _ _ trivial⟩
  obtain ⟨history, recorded⟩ := pipes_since_connect connected (by decide) run (by
    simp [ProcessEvent.Connects])
  exact ⟨_, _, history, rfl, recorded⟩

end SbnClient
