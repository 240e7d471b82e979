import BerPiNbiot.Modem.Attach

/-!
# Successes at the last attempt

From a fresh dialogue on, the replies to a command are those that its stage looks
at, whatever the other stages do.  So each loop of `qsdk_nb_quick_connect` can be
judged by the replies to its own command, and the whole procedure by the four
loops: it keeps every success but those that a loop meets at its last attempt.
-/

namespace BerPiNbiot.Modem

open BerPiNbiot.Resumption
open BerPiNbiot.Text

/-- A reply of the module meets a condition, if its command is sent again and again
from a table on. -/
def NbModule.MetAt (nb : NbModule) (query : Query) (condition : Reply → NbDevice → Bool)
    (table : NbDevice) (attempt : Nat) : Prop :=
  condition (nb.reply query.cmd attempt)
    ((nb.replies query.cmd 0 (attempt + 1)).foldl (fun table reply => query.stored reply table)
      table) = true

instance (nb : NbModule) (query : Query) (condition : Reply → NbDevice → Bool) (table : NbDevice)
    (attempt : Nat) : Decidable (nb.MetAt query condition table attempt) :=
  inferInstanceAs (Decidable (_ = _))

/-- The replies that a stage looks at, from its first command on. -/
theorem left_ne_zero_iff {nb : NbModule} {query : Query} {condition : Reply → NbDevice → Bool}
    {α : Type} (field : NbDevice → α)
    (assigns : ∀ first second fields, field first = field second →
      field (query.assign first fields) = field (query.assign second fields))
    (looks : ∀ reply first second, field first = field second →
      condition reply first = condition reply second)
    {dialogue : Dialogue} {table : NbDevice} (fresh : dialogue.times query.cmd = 0)
    (same : field dialogue.table = field table) (budget : Nat) :
    (retry (nb.meets query · condition) (nb.asked query) budget dialogue).1 ≠ 0 ↔
      ∃ attempt, attempt + 1 < budget ∧ nb.MetAt query condition table attempt := by
  have stored : ∀ replies : List Reply, ∀ first second : NbDevice, field first = field second →
      field (replies.foldl (fun table reply => query.stored reply table) first) =
        field (replies.foldl (fun table reply => query.stored reply table) second) := by
    intro replies
    induction replies with
    | nil => exact fun _ _ same => same
    | cons reply rest ih =>
        intro first second same
        apply ih
        cases reply with
        | error => exact same
        | ok lines => exact assigns _ _ _ same
  rw [retry_left_ne_zero_iff]
  apply exists_congr
  intro attempt
  apply and_congr_right
  intro _
  rw [NbModule.meets, next_iterate, ← Function.iterate_succ_apply' (nb.asked query), table_iterate,
    fresh, Nat.zero_add, NbModule.MetAt]
  rw [looks _ _ _ (stored _ _ _ same)]

theorem Query.cmd_ne {first second : Query} (differs : first ≠ second) :
    first.cmd ≠ second.cmd := by
  cases first <;> cases second <;> first | contradiction | decide +kernel

theorem npsmr_ne_cmd (query : Query) : npsmrStage.cmd ≠ query.cmd := by
  cases query <;> decide +kernel

theorem cpsms_ne_cmd (query : Query) : cpsmsStage.cmd ≠ query.cmd := by
  cases query <;> decide +kernel

section FromStart

variable (nb : NbModule) (table : NbDevice) (psmStatus : NbStatus)

/-- The dialogue in front of the attach procedure. -/
def attachStart : Dialogue :=
  { table, psmStatus }

theorem prepared_times (query : Query) :
    (nb.prepared (attachStart table psmStatus)).times query.cmd = 0 := by
  rw [NbModule.prepared]
  split
  · rw [times_sent, times_sent, if_neg (npsmr_ne_cmd query), if_neg (cpsms_ne_cmd query)]
    rfl
  · rw [times_sent, if_neg (npsmr_ne_cmd query)]
    rfl

theorem prepared_table : (nb.prepared (attachStart table psmStatus)).table = table := by
  rw [NbModule.prepared]
  split <;> rfl

theorem simResult_times {query : Query} (other : query ≠ .simCheck) :
    (nb.simResult (attachStart table psmStatus)).2.times query.cmd = 0 := by
  rw [NbModule.simResult, run_simLoop, retry_times (Query.cmd_ne other.symm), prepared_times]

theorem imsiResult_times {query : Query} (other : query ≠ .simCheck) (other' : query ≠ .getImsi) :
    (nb.imsiResult (attachStart table psmStatus)).2.times query.cmd = 0 := by
  rw [NbModule.imsiResult, run_imsiLoop, retry_times (Query.cmd_ne other'.symm),
    simResult_times nb table psmStatus other]

theorem imsiResult_keeps {α : Type} (field : NbDevice → α)
    (sim : ∀ table fields, field (Query.assign table fields .simCheck) = field table)
    (imsi : ∀ table fields, field (Query.assign table fields .getImsi) = field table) :
    field (nb.imsiResult (attachStart table psmStatus)).2.table = field table := by
  rw [NbModule.imsiResult, run_imsiLoop, retry_keeps field imsi, NbModule.simResult, run_simLoop,
    retry_keeps field sim, prepared_table]

theorem simResult_left_iff : (nb.simResult (attachStart table psmStatus)).1 ≠ 0 ↔
    ∃ attempt, attempt + 1 < 5 ∧
      nb.MetAt .simCheck (fun _ table => table.simState ≠ 0) table attempt := by
  rw [NbModule.simResult, run_simLoop]
  apply left_ne_zero_iff NbDevice.simState
  · intro first second fields same
    simp only [Query.assign, same]
  · intro reply first second same
    rw [same]
  · exact prepared_times nb table psmStatus .simCheck
  · rw [prepared_table]

theorem imsiResult_left_iff : (nb.imsiResult (attachStart table psmStatus)).1 ≠ 0 ↔
    ∃ attempt, attempt + 1 < 5 ∧
      nb.MetAt .getImsi (fun reply _ => reply.succeeded) table attempt := by
  rw [NbModule.imsiResult, run_imsiLoop]
  apply left_ne_zero_iff fun _ => ()
  · exact fun _ _ _ _ => rfl
  · exact fun _ _ _ _ => rfl
  · exact simResult_times nb table psmStatus (by decide)
  · rfl

theorem csqResult_left_iff :
    (nb.csqResult (nb.imsiResult (attachStart table psmStatus)).2).1 ≠ 0 ↔
    ∃ attempt, attempt + 1 < 15 ∧ nb.MetAt .getCsq
      (fun reply table => reply.succeeded && table.heard && table.csq ≠ -1) table attempt := by
  rw [NbModule.csqResult, run_csqLoop]
  apply left_ne_zero_iff NbDevice.csq
  · intro first second fields same
    simp only [Query.assign, same]
  · intro reply first second same
    simp only [NbDevice.heard, same]
  · rw [times_asked, if_neg (Query.cmd_ne (by decide)),
      imsiResult_times nb table psmStatus (by decide) (by decide)]
  · rw [asked_keeps NbDevice.csq (fun _ _ => rfl),
      imsiResult_keeps nb table psmStatus NbDevice.csq (fun _ _ => rfl) (fun _ _ => rfl)]

theorem netResult_left_iff :
    (nb.netResult (nb.imsiResult (attachStart table psmStatus)).2).1 ≠ 0 ↔
    ∃ attempt, attempt + 1 < 40 ∧ nb.MetAt .getNetConnect
      (fun reply table => reply.succeeded && table.registered) table attempt := by
  rw [NbModule.netResult, run_netLoop, NbModule.csqResult, run_csqLoop]
  apply left_ne_zero_iff NbDevice.netConnectOk
  · intro first second fields same
    simp only [Query.assign, same]
  · intro reply first second same
    simp only [NbDevice.registered, same]
  · rw [retry_times (Query.cmd_ne (by decide)), times_asked, if_neg (Query.cmd_ne (by decide)),
      imsiResult_times nb table psmStatus (by decide) (by decide)]
  · rw [retry_keeps NbDevice.netConnectOk (fun _ _ => rfl),
      asked_keeps NbDevice.netConnectOk (fun _ _ => rfl),
      imsiResult_keeps nb table psmStatus NbDevice.netConnectOk (fun _ _ => rfl) (fun _ _ => rfl)]

/-- Each stage of the procedure succeeds at some attempt of its budget. -/
structure NbModule.Succeeds : Prop where
  npsmr : (nb.reply npsmrStage.cmd 0).succeeded = true
  sim : ∃ attempt < 5, nb.MetAt .simCheck (fun _ table => table.simState ≠ 0) table attempt
  imsi : ∃ attempt < 5, nb.MetAt .getImsi (fun reply _ => reply.succeeded) table attempt
  imei : (nb.reply (Query.cmd .getImei) 0).succeeded = true
  csq : ∃ attempt < 15, nb.MetAt .getCsq
    (fun reply table => reply.succeeded && table.heard) table attempt
  net : ∃ attempt < 40, nb.MetAt .getNetConnect
    (fun reply table => reply.succeeded && table.registered) table attempt

/-- Each retried stage succeeds before its last attempt, and not with the signal
that `qsdk_nb_get_csq` returns for an error. -/
structure NbModule.SucceedsEarly : Prop where
  sim : ∃ attempt < 4, nb.MetAt .simCheck (fun _ table => table.simState ≠ 0) table attempt
  imsi : ∃ attempt < 4, nb.MetAt .getImsi (fun reply _ => reply.succeeded) table attempt
  csq : ∃ attempt < 14, nb.MetAt .getCsq
    (fun reply table => reply.succeeded && table.heard && table.csq ≠ -1) table attempt
  net : ∃ attempt < 39, nb.MetAt .getNetConnect
    (fun reply table => reply.succeeded && table.registered) table attempt

/-- A success that the module grants is kept if and only if no stage has to wait
for its last attempt. -/
theorem quickConnect_succeeds_iff (succeeds : nb.Succeeds table) :
    (qsdkNbQuickConnect.run nb.handle (attachStart table psmStatus)).1 = true ↔
      nb.SucceedsEarly table := by
  have npsmr : ¬ (nb.next npsmrStage.cmd (attachStart table psmStatus)).succeeded = false := by
    change ¬ (nb.reply npsmrStage.cmd 0).succeeded = false
    rw [succeeds.npsmr]
    exact Bool.noConfusion
  have imei : ¬ (nb.next (Query.cmd .getImei)
      (nb.imsiResult (attachStart table psmStatus)).2).succeeded = false := by
    rw [NbModule.next, ← Dialogue.times,
      imsiResult_times nb table psmStatus (by decide) (by decide), succeeds.imei]
    exact Bool.noConfusion
  have early : nb.SucceedsEarly table ↔
      (nb.simResult (attachStart table psmStatus)).1 ≠ 0 ∧
      (nb.imsiResult (attachStart table psmStatus)).1 ≠ 0 ∧
      (nb.csqResult (nb.imsiResult (attachStart table psmStatus)).2).1 ≠ 0 ∧
      (nb.netResult (nb.imsiResult (attachStart table psmStatus)).2).1 ≠ 0 := by
    rw [simResult_left_iff, imsiResult_left_iff, csqResult_left_iff, netResult_left_iff]
    simp only [← Nat.lt_sub_iff_add_lt]
    constructor
    · rintro ⟨sim, imsi, csq, net⟩
      exact ⟨sim, imsi, csq, net⟩
    · rintro ⟨sim, imsi, csq, net⟩
      exact ⟨sim, imsi, csq, net⟩
  rw [run_quickConnect, if_neg npsmr, run_attachSim, run_attachNetwork, if_neg imei, early]
  split
  · simp_all
  split
  · simp_all
  split
  · simp_all
  split <;> simp_all

end FromStart

/-- A module that answers every command at once. -/
def promptModule : NbModule where
  reply cmd _ :=
    if cmd = Query.cmd .simCheck then .ok [[], ascii "+CFUN:1\r"]
    else if cmd = Query.cmd .getCsq then .ok [[], ascii "+CSQ:20\r"]
    else if cmd = Query.cmd .getNetConnect then .ok [[], ascii "+CEREG:0,1\r"]
    else .ok []
  locals _ := 0

theorem promptModule_succeeds : promptModule.Succeeds {} ∧
    (qsdkNbQuickConnect.run promptModule.handle (attachStart {} .moduleInitOk)).1 = true := by
  have succeeds : promptModule.Succeeds {} := by
    constructor <;> decide +kernel
  refine ⟨succeeds, (quickConnect_succeeds_iff promptModule {} .moduleInitOk succeeds).mpr ?_⟩
  constructor <;> decide +kernel

/-- A module that answers `AT+CIMI` at the fifth attempt. -/
def slowModule : NbModule where
  reply cmd attempt :=
    if cmd = Query.cmd .getImsi ∧ attempt < 4 then .error else promptModule.reply cmd attempt
  locals _ := 0

theorem slowModule_thrown_away : slowModule.Succeeds {} ∧
    (qsdkNbQuickConnect.run slowModule.handle (attachStart {} .moduleInitOk)).1 = false := by
  constructor
  · constructor <;> decide +kernel
  · decide +kernel

end BerPiNbiot.Modem
