import SbnClient.Client.Init
import SbnClient.Model.StandardPlatform

/-!
# What failed initialisations leave behind

`connect_to_server` returns early without closing the socket that it has opened, and
`SBN_Client_Init` neither closes the socket nor stops the heartbeat minder when it cannot
create a thread.  Only a call that fails in `socket` leaves nothing behind.
-/

namespace SbnClient

variable {P : Platform} {client : Client P} {env : InitEnv}

/-! ## Calls in a row -/

/-- What the client holds on to: its open sockets and its minder threads. -/
def Client.resources (client : Client P) : List Int × Nat × List MinderPhase :=
  (client.openSockets, client.heartMinders, client.receiveMinders)

/-- The client after a sequence of `SBN_Client_Init` calls. -/
def afterInits (client : Client P) (envs : List InitEnv) : Client P :=
  envs.foldl (fun client env => (sbnClientInit client env).1) client

/-- Each call of the sequence fails. -/
def AllFail : Client P → List InitEnv → Prop
  | _, [] => True
  | client, env :: envs =>
      (sbnClientInit client env).2 ≠ .success ∧ AllFail (sbnClientInit client env).1 envs

/-- Wherever they come in the sequence, any number of failed calls in a row leave the client
with what it held before the first of them. -/
def LeavesNothing (client : Client P) (envs : List InitEnv) : Prop :=
  ∀ before attempts after, envs = before ++ attempts ++ after →
    AllFail (afterInits client before) attempts →
    (afterInits client (before ++ attempts)).resources = (afterInits client before).resources

/-- `socket` fails, or none of the later system calls does. -/
def InitEnv.FailsFirst (env : InitEnv) : Prop :=
  env.socket < 0 ∨ (env.inetPton ≠ 0 ∧ env.inetPton ≠ -1 ∧ 0 ≤ env.connect ∧
    env.heartThreadStatus = 0 ∧ env.receiveThreadStatus = 0)

theorem afterInits_append (client : Client P) (before envs : List InitEnv) :
    afterInits client (before ++ envs) = afterInits (afterInits client before) envs :=
  List.foldl_append

/-! ## One call -/

/-- A call that fails in `socket` changes nothing that the client holds on to. -/
theorem resources_of_noSocket (noSocket : env.socket < 0) (client : Client P) :
    (sbnClientInit client env).1.resources = client.resources := by
  have refused : connectToServer env.toConnectEnv < 0 := by
    rw [connectToServer, if_pos noSocket, serverSocketError]
    decide
  have unopened : env.opened = [] := if_pos noSocket
  simp [sbnClientInit, Client.connect, refused, Client.resources, unopened]

/-- A call that gets its socket succeeds when no later system call fails. -/
theorem success_iff_failsFirst (opened : ¬ env.socket < 0) (client : Client P) :
    (sbnClientInit client env).2 = .success ↔ env.FailsFirst := by
  rw [sbnClientInit_success_iff, connectToServer_nonneg_iff, InitEnv.FailsFirst,
    or_iff_right opened]
  have nonneg : 0 ≤ env.socket := Int.not_lt.mp opened
  tauto

/-! ## Any number of calls -/

theorem resources_of_allFail {envs : List InitEnv} (clean : ∀ env ∈ envs, env.FailsFirst)
    (allFail : AllFail client envs) : (afterInits client envs).resources = client.resources := by
  induction envs generalizing client with
  | nil => rfl
  | cons env envs ih =>
      have noSocket : env.socket < 0 := by
        by_contra opened
        exact allFail.1 ((success_iff_failsFirst opened client).mpr (clean env (by simp)))
      have later := ih (fun other member => clean other (by simp [member])) allFail.2
      exact later.trans (resources_of_noSocket noSocket client)

/-- A failed call with a socket leaves that socket behind. -/
theorem failsFirst_of_leavesNothing {envs : List InitEnv} (leaves : LeavesNothing client envs) :
    ∀ env ∈ envs, env.FailsFirst := by
  intro env member
  by_contra unclean
  obtain ⟨before, after, rfl⟩ := List.append_of_mem member
  obtain ⟨opened, -⟩ := not_or.mp unclean
  have failed : (sbnClientInit (afterInits client before) env).2 ≠ .success :=
    mt (success_iff_failsFirst opened _).mp unclean
  have kept := leaves before [env] after (by simp) ⟨failed, trivial⟩
  rw [afterInits_append] at kept
  have sockets : (sbnClientInit (afterInits client before) env).1.openSockets =
      (afterInits client before).openSockets := congrArg Prod.fst kept
  rw [openSockets_sbnClientInit, List.append_left_eq_self, ConnectEnv.opened,
    if_neg opened] at sockets
  simp at sockets

/-- Failed calls leave nothing behind, exactly when every call of the sequence fails in
`socket` or not at all. -/
theorem leavesNothing_iff (client : Client P) (envs : List InitEnv) :
    LeavesNothing client envs ↔ ∀ env ∈ envs, env.FailsFirst := by
  constructor
  · exact failsFirst_of_leavesNothing
  · rintro clean before attempts after rfl allFail
    rw [afterInits_append]
    exact resources_of_allFail (fun env member => clean env (by simp [member])) allFail

/-- The server refuses the connection, and then the receive minder cannot be created: two
failed attempts, and two sockets and a heartbeat minder are left. -/
theorem failed_attempts_leave_resources :
    let client : Client (standardPlatform 32768) := .start (zeroPipeTbl _)
    let envs : List InitEnv := [⟨⟨3, 1, -1⟩, 0, 0⟩, ⟨⟨4, 1, 0⟩, 0, 11⟩]
    AllFail client envs ∧ (afterInits client envs).resources = ([4, 3], 1, []) ∧
      client.resources = ([], 0, []) ∧ ¬ LeavesNothing client envs := by
  intro client envs
  refine ⟨⟨by decide, by decide, trivial⟩, rfl, rfl, fun leaves => ?_⟩
  have clean := failsFirst_of_leavesNothing leaves ⟨⟨3, 1, -1⟩, 0, 0⟩ (by simp [envs])
  simp [InitEnv.FailsFirst] at clean

end SbnClient
