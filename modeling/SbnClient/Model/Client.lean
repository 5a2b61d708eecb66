import SbnClient.Model.Minders
import SbnClient.Model.Output
import SbnClient.Model.Run

/-!
# The whole client

`SBN_Client_Init`, the minder threads that it starts, and the thread that calls it.  The
client never closes a socket, so that the sockets it has opened are all still open.  A lost
connection shows in what the `recv_msg` calls after it return.  Log messages, `sleep` and the
addresses passed to `connect` are left out.
-/

namespace SbnClient

variable {P : Platform}

/-! ## Connecting -/

/-- `SERVER_SOCKET_ERROR` -/
def serverSocketError : Int := -1
/-- `SERVER_INET_PTON_SRC_ERROR` -/
def serverInetPtonSrcError : Int := -2
/-- `SERVER_INET_PTON_INVALID_AF_ERROR` -/
def serverInetPtonInvalidAfError : Int := -3
/-- `SERVER_CONNECT_ERROR` -/
def serverConnectError : Int := -4

/-- What the system calls of `connect_to_server` return. -/
structure ConnectEnv where
  socket : Int
  inetPton : Int
  connect : Int

/-- `connect_to_server` -/
def connectToServer (env : ConnectEnv) : Int :=
  if env.socket < 0 then serverSocketError
  else if env.inetPton = 0 then serverInetPtonSrcError
  else if env.inetPton = -1 then serverInetPtonInvalidAfError
  else if env.connect < 0 then serverConnectError
  else env.socket

/-- The sockets that `connect_to_server` opens. -/
def ConnectEnv.opened (env : ConnectEnv) : List Int :=
  if env.socket < 0 then [] else [env.socket]

/-! ## The client -/

/-- Where a thread that runs `SBN_Client_ReceiveMinder` is. -/
inductive MinderPhase where
  /-- At the test of `continue_receive_check`. -/
  | checking (consecErrorCount : Nat)
  /-- In `recv_msg`. -/
  | receiving (consecErrorCount : Nat)
  | returned
  deriving DecidableEq, Repr

/-- The global variables, the open sockets and the minder threads; receive minders are
numbered in the order in which they are started. -/
structure Client (P : Platform) where
  flags : ContinueFlags
  sockfd : Int
  cpuId : Int32
  tbl : PipeTbl P
  openSockets : List Int
  heartMinders : Nat
  receiveMinders : List MinderPhase

/-- The client before anything has been called. -/
def Client.start (tbl : PipeTbl P) : Client P :=
  ⟨initialFlags, 0, 0, tbl, [], 0, []⟩

/-! ## `SBN_Client_Init` -/

/-- What `SBN_Client_Init` returns.  `SBN_CLIENT_NO_STATUS_SET` is always overwritten. -/
inductive InitStatus where
  | success
  /-- `SBN_CLIENT_BAD_SOCK_FD_EID` -/
  | badSockFd
  /-- `SBN_CLIENT_HEART_THREAD_CREATE_EID` -/
  | heartThreadCreate
  /-- `SBN_CLIENT_RECEIVE_THREAD_CREATE_EID` -/
  | receiveThreadCreate
  deriving DecidableEq, Repr

/-- `check_pthread_create_status` -/
def checkPthreadCreateStatus (status : Int) (errorId : InitStatus) : InitStatus :=
  if status = 0 then .success else errorId

/-- The first part of `SBN_Client_Init`, up to `CFE_SBN_Client_InitPipeTbl`. -/
def Client.connect (client : Client P) (env : ConnectEnv) : Client P :=
  { client with
    sockfd := connectToServer env
    cpuId := clientCpuId
    tbl := if connectToServer env < 0 then client.tbl else initPipeTbl client.tbl
    openSockets := env.opened ++ client.openSockets }

/-- `pthread_create` of the heartbeat minder -/
def Client.createHeartMinder (client : Client P) (heartThreadStatus : Int) : Client P :=
  if heartThreadStatus = 0 then { client with heartMinders := client.heartMinders + 1 }
  else client

/-- `pthread_create` of the receive minder -/
def Client.createReceiveMinder (client : Client P) (receiveThreadStatus : Int) : Client P :=
  if receiveThreadStatus = 0 then
    { client with receiveMinders := client.receiveMinders ++ [.checking 0] }
  else client

/-- What the system calls of `SBN_Client_Init` return. -/
structure InitEnv extends ConnectEnv where
  heartThreadStatus : Int
  receiveThreadStatus : Int

/-- `SBN_Client_Init`, when no other thread takes a step in the meantime. -/
def sbnClientInit (client : Client P) (env : InitEnv) : Client P × InitStatus :=
  let client := client.connect env.toConnectEnv
  if client.sockfd < 0 then
    (client, .badSockFd)
  else
    let client := client.createHeartMinder env.heartThreadStatus
    let status := checkPthreadCreateStatus env.heartThreadStatus .heartThreadCreate
    if status = .success then
      (client.createReceiveMinder env.receiveThreadStatus,
        checkPthreadCreateStatus env.receiveThreadStatus .receiveThreadCreate)
    else
      (client, status)

/-! ## All threads -/

/-- Where the thread that calls `SBN_Client_Init` is. -/
inductive InitPhase where
  | outside
  /-- The pipe table has been initialised. -/
  | initialised
  | heartCreated
  | returning (status : InitStatus)
  deriving DecidableEq, Repr

/-- The client with the thread that initialises it and uses its pipes. -/
structure Process (P : Platform) where
  client : Client P
  init : InitPhase

/-- No thread but the first, and that outside `SBN_Client_Init`. -/
def Process.start (tbl : PipeTbl P) : Process P :=
  ⟨.start tbl, .outside⟩

/-- What happens in one step. -/
inductive ProcessEvent (P : Platform) where
  | connected (env : ConnectEnv)
  | heartCreated (heartThreadStatus : Int)
  | receiveCreated (receiveThreadStatus : Int)
  | initReturned (status : InitStatus)
  | called (op : Op P)
  | checked (minder : Nat)
  | received (minder : Nat) (status : Status)
  | beat
  | heartReturned

/-- The steps of all threads. -/
inductive Process.Step (process : Process P) : ProcessEvent P → Process P → Prop where
  | connected (env : ConnectEnv) (outside : process.init = .outside) :
      Step process (.connected env) ⟨process.client.connect env,
        if connectToServer env < 0 then .returning .badSockFd else .initialised⟩
  | heartCreated (heartThreadStatus : Int) (initialised : process.init = .initialised) :
      Step process (.heartCreated heartThreadStatus)
        ⟨process.client.createHeartMinder heartThreadStatus,
          if checkPthreadCreateStatus heartThreadStatus .heartThreadCreate = .success then
            .heartCreated
          else
            .returning (checkPthreadCreateStatus heartThreadStatus .heartThreadCreate)⟩
  | receiveCreated (receiveThreadStatus : Int) (created : process.init = .heartCreated) :
      Step process (.receiveCreated receiveThreadStatus)
        ⟨process.client.createReceiveMinder receiveThreadStatus,
          .returning (checkPthreadCreateStatus receiveThreadStatus .receiveThreadCreate)⟩
  | initReturned (status : InitStatus) (returning : process.init = .returning status) :
      Step process (.initReturned status) ⟨process.client, .outside⟩
  /-- The thread uses a pipe. -/
  | called {op : Op P} {tbl : PipeTbl P} {outcome : Outcome P}
      (outside : process.init = .outside)
      (ran : applyOp process.client.tbl op = some (tbl, outcome)) :
      Step process (.called op) ⟨{ process.client with tbl }, .outside⟩
  /-- A receive minder tests `continue_receive_check`. -/
  | checked {minder consecErrorCount : Nat}
      (checking : process.client.receiveMinders[minder]? = some (.checking consecErrorCount)) :
      Step process (.checked minder)
        { process with client := { process.client with
            receiveMinders := process.client.receiveMinders.set minder
              (if process.client.flags.receiveCheck then .receiving consecErrorCount
                else .returned) } }
  /-- Its `recv_msg` call returns. -/
  | received {minder consecErrorCount : Nat} {locals : RecvLocals P} {socket : Socket}
      {received : Received P}
      (receiving : process.client.receiveMinders[minder]? = some (.receiving consecErrorCount))
      (ran : recvMsg process.client.tbl locals socket = some received) :
      Step process (.received minder received.status)
        { process with client := { process.client with
            flags := checkErrorCount process.client.flags
              (countError consecErrorCount received.status)
            tbl := received.tbl
            receiveMinders := process.client.receiveMinders.set minder
              (.checking (countError consecErrorCount received.status)) } }
  /-- A heartbeat minder finds `continue_heartbeat` set and sends a heartbeat, in one step. -/
  | beat (running : 0 < process.client.heartMinders)
      (continues : process.client.flags.heartbeat = true) : Step process .beat process
  | heartReturned (running : 0 < process.client.heartMinders)
      (stops : process.client.flags.heartbeat = false) :
      Step process .heartReturned
        { process with client := { process.client with
            heartMinders := process.client.heartMinders - 1 } }

end SbnClient
