import SbnClient.Foundations.Machine
import SbnClient.Model.Client

/-!
# One initialisation

When `SBN_Client_Init` succeeds, what it leaves of its arguments' resources, and that the
whole call is a run of the steps into which other threads see it divided.
-/

namespace SbnClient

variable {P : Platform}

/-- A call that leaves `connect_to_server` with a socket. -/
theorem connectToServer_nonneg_iff (env : ConnectEnv) :
    0 ≤ connectToServer env ↔
      0 ≤ env.socket ∧ env.inetPton ≠ 0 ∧ env.inetPton ≠ -1 ∧ 0 ≤ env.connect := by
  rw [connectToServer, serverSocketError, serverInetPtonSrcError, serverInetPtonInvalidAfError,
    serverConnectError]
  grind

/-- A call succeeds when all its system calls do. -/
theorem sbnClientInit_success_iff (client : Client P) (env : InitEnv) :
    (sbnClientInit client env).2 = .success ↔
      0 ≤ connectToServer env.toConnectEnv ∧ env.heartThreadStatus = 0 ∧
        env.receiveThreadStatus = 0 := by
  simp only [sbnClientInit, Client.connect, checkPthreadCreateStatus]
  grind

/-- Whatever comes of it, a call keeps the socket that it opens. -/
theorem openSockets_sbnClientInit (client : Client P) (env : InitEnv) :
    (sbnClientInit client env).1.openSockets = env.opened ++ client.openSockets := by
  simp only [sbnClientInit, Client.connect, Client.createHeartMinder, Client.createReceiveMinder]
  grind

/-- Without the steps of other threads in between, the call is the run of its own steps. -/
theorem run_sbnClientInit (client : Client P) (env : InitEnv) :
    ∃ trace, Machine.Run Process.Step ⟨client, .outside⟩
      (trace ++ [.initReturned (sbnClientInit client env).2])
      ⟨(sbnClientInit client env).1, .outside⟩ := by
  have connected : Process.Step ⟨client, .outside⟩ (.connected env.toConnectEnv) _ :=
    .connected env.toConnectEnv rfl
  have start := Machine.Run.refl.snoc connected
  by_cases refused : connectToServer env.toConnectEnv < 0
  · have result : sbnClientInit client env = (client.connect env.toConnectEnv, .badSockFd) :=
      if_pos refused
    rw [if_pos refused] at start
    rw [result]
    exact ⟨_, start.snoc (.initReturned .badSockFd rfl)⟩
  · rw [if_neg refused] at start
    have heart := start.snoc (.heartCreated env.heartThreadStatus rfl)
    by_cases created :
        checkPthreadCreateStatus env.heartThreadStatus .heartThreadCreate = .success
    · have result : sbnClientInit client env =
          (((client.connect env.toConnectEnv).createHeartMinder
            env.heartThreadStatus).createReceiveMinder env.receiveThreadStatus,
              checkPthreadCreateStatus env.receiveThreadStatus .receiveThreadCreate) :=
        (if_neg refused).trans (if_pos created)
      rw [if_pos created] at heart
      rw [result]
      exact ⟨_, (heart.snoc (.receiveCreated env.receiveThreadStatus rfl)).snoc
        (.initReturned _ rfl)⟩
    · have result : sbnClientInit client env =
          ((client.connect env.toConnectEnv).createHeartMinder env.heartThreadStatus,
            checkPthreadCreateStatus env.heartThreadStatus .heartThreadCreate) :=
        (if_neg refused).trans (if_neg created)
      rw [if_neg created] at heart
      rw [result]
      exact ⟨_, heart.snoc (.initReturned _ rfl)⟩

end SbnClient
