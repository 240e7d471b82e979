import BerPiNbiot.Modem.Calls
import BerPiNbiot.Resumption.Section

/-!
# AT transactions

`at_obj_exec_cmd` and `at_client_obj_wait_connect` of `at_client.c` as programs
over the kernel services they use: both take the AT lock, write to the module,
wait for the parser's notice and release the lock.  Expanding these two calls
turns driver code into code whose points of interleaving also lie inside the
transactions.
-/

namespace BerPiNbiot.Modem

open BerPiNbiot.Resumption
open BerPiNbiot.Text

/-- The calls of driver code and those inside a transaction. -/
inductive AtCall
  | driver (request : Call)
  /-- `client->status == AT_STATUS_CLI` -/
  | cliMode
  /-- `rt_device_write(client->device, 0, line, ...)` -/
  | write (line : Bytes)
  /-- `rt_sem_take(client->resp_notice, timeout) == RT_EOK` -/
  | respNotice (timeout : Nat)
  /-- `client->resp_status == AT_RESP_OK` -/
  | respStatus
  /-- `rt_tick_get() - start_time > rt_tick_from_millisecond(timeout)` -/
  | elapsed (timeout : Nat)

/-- What a call returns. -/
abbrev AtCall.Answer : AtCall → Type
  | .driver request => request.Answer
  | .cliMode | .respNotice _ | .respStatus | .elapsed _ => Bool
  | .write _ => Unit

theorem AtCall.nonempty_answer (request : AtCall) : Nonempty request.Answer := by
  cases request with
  | driver request => exact request.nonempty_answer
  | write line => exact ⟨()⟩
  | _ => exact ⟨true⟩

/-- The signature of code with its transactions. -/
abbrev atCalls : Signature where
  Call := AtCall
  Answer := AtCall.Answer

/-- Code with its transactions. -/
abbrev AtCode := Program atCalls

/-- `resp->timeout` of `nb_resp` -/
def respTimeout : Nat := 5000

/-- A call of driver code that is no transaction -/
def driverCall (request : Call) : AtCode request.Answer :=
  .call (.driver request) .ret

/-- The client writes a line to the module. -/
def atWrite (line : Bytes) : AtCode Unit :=
  .call (.write line) .ret

/-- `rt_sem_take(client->resp_notice, timeout)` -/
def takeRespNotice (timeout : Nat) : AtCode Bool :=
  .call (.respNotice timeout) .ret

/-- `at_obj_exec_cmd` -/
def execCmdTransaction (cmd : Bytes) : AtCode Bool := do
  if ← (.call .cliMode .ret : AtCode Bool) then
    return false
  driverCall .lockTake
  atWrite cmd
  atWrite (ascii "\r\n")
  if !(← takeRespNotice respTimeout) then
    driverCall .lockRelease
    return false
  let ok ← (.call .respStatus .ret : AtCode Bool)
  driverCall .lockRelease
  return ok

/-- The loop of `at_client_obj_wait_connect`; the count bounds the waits that
can fail before the time is up. -/
def connectLoop (timeout : Nat) : Nat → AtCode Bool
  | 0 => return false
  | count + 1 => do
      if ← (.call (.elapsed timeout) .ret : AtCode Bool) then
        return false
      atWrite (ascii "AT\r\n")
      if ← takeRespNotice 300 then
        return true
      connectLoop timeout count

/-- `at_client_obj_wait_connect` -/
def waitConnectTransaction (timeout : Nat) : AtCode Bool := do
  if !(← driverCall (.malloc 512)) then
    return false
  driverCall .lockTake
  -- A wait that fails takes 300 ticks.
  let connected ← connectLoop timeout (timeout / 300 + 1)
  driverCall .lockRelease
  return connected

/-- The code behind a call of driver code. -/
def transaction : (request : Call) → AtCode request.Answer
  | .execCmd cmd => execCmdTransaction cmd
  | .waitConnect timeout => waitConnectTransaction timeout
  | request => driverCall request

/-- Driver code with its transactions. -/
def transacted {α : Type} (code : Code α) : AtCode α :=
  code.expand transaction

/-! ## The locked section -/

/-- The section between taking and releasing the AT lock. -/
def lockMark : AtCall → Program.Mark
  | .driver .lockTake => .enter
  | .driver .lockRelease => .leave
  | _ => .stay

/-- The call takes or releases the AT lock itself. -/
def UsesLock (request : Call) : Prop :=
  request = .lockTake ∨ request = .lockRelease

theorem bracketed_execCmdTransaction (cmd : Bytes) :
    Program.Bracketed lockMark false (execCmdTransaction cmd) := by
  simp [execCmdTransaction, driverCall, atWrite, takeRespNotice, lockMark, Program.Mark.move]

/-- The connection test stays inside the section. -/
theorem bracketed_connectLoop (timeout count : Nat) {next : Bool → AtCode Bool}
    (rest : ∀ connected, Program.Bracketed lockMark true (next connected)) :
    Program.Bracketed lockMark true (connectLoop timeout count >>= next) := by
  induction count with
  | zero => exact rest false
  | succ count ih =>
      simp [connectLoop, atWrite, takeRespNotice, lockMark, Program.Mark.move, rest, ih]

theorem bracketed_waitConnectTransaction (timeout : Nat) :
    Program.Bracketed lockMark false (waitConnectTransaction timeout) := by
  simp [waitConnectTransaction, driverCall, lockMark, Program.Mark.move, bracketed_connectLoop]

/-- Code that leaves the lock to the transactions is outside the section
between them. -/
theorem bracketed_transacted {α : Type} {code : Code α}
    (avoids : code.Always (fun _ _ => True) UsesLock fun _ => True) :
    Program.Bracketed lockMark false (transacted code) := by
  apply Program.bracketed_expand _ avoids
  intro request other
  rw [UsesLock, not_or] at other
  cases request with
  | execCmd cmd => exact bracketed_execCmdTransaction cmd
  | waitConnect timeout => exact bracketed_waitConnectTransaction timeout
  | lockTake => exact absurd rfl other.1
  | lockRelease => exact absurd rfl other.2
  | _ => exact ⟨false, rfl, fun _ => rfl⟩

end BerPiNbiot.Modem
