import BerPiNbiot.Modem.Query

/-!
# The attach procedure

`qsdk_nb_quick_connect` takes the module through eight stages, each with one
command.  A stage repeats its command up to a number of times and hands over to
the next one when its condition is met.  The repetitions are counted down before
they are made and the counter is tested behind the loop, so a condition that is
met at the last repetition is taken for exhaustion.
-/

namespace BerPiNbiot.Modem

open BerPiNbiot.Resumption
open BerPiNbiot.Text

/-! ## Stages -/

/-- A stage of the procedure. -/
structure AttachStage where
  cmd : Bytes
  /-- the least and the largest number of commands -/
  least : Nat
  most : Nat
  /-- what a reply does to the table -/
  stores : Reply → NbDevice → NbDevice
  /-- the condition on the last reply and the table behind it; a stage without one
  always hands over -/
  condition : Option (Reply → NbDevice → Bool)

/-- The table behind the replies of a stage. -/
def AttachStage.tableAfter (stage : AttachStage) (table : NbDevice) (replies : List Reply) :
    NbDevice :=
  replies.foldl (fun table reply => stage.stores reply table) table

/-- A stage that repeats a query. -/
def Query.stage (query : Query) (most : Nat) (condition : Reply → NbDevice → Bool) :
    AttachStage where
  cmd := query.cmd
  least := 1
  most := most
  stores := query.stored
  condition := some condition

/-- The reports of the sleep mode are switched on. -/
def npsmrStage : AttachStage where
  cmd := ascii "AT+NPSMR=1"
  least := 1
  most := 1
  stores _ table := table
  condition := some fun reply _ => reply.succeeded

/-- Power saving is switched off; the answer is not looked at. -/
def cpsmsStage : AttachStage where
  cmd := ascii "AT+CPSMS=0"
  least := 0
  most := 1
  stores _ table := table
  condition := none

/-- The SIM card is found, in at most five attempts. -/
def simStage : AttachStage :=
  Query.stage .simCheck 5 fun _ table => table.simState ≠ 0

/-- The IMSI is read, in at most five attempts. -/
def imsiStage : AttachStage :=
  Query.stage .getImsi 5 fun reply _ => reply.succeeded

/-- The IMEI is read. -/
def imeiStage : AttachStage :=
  Query.stage .getImei 1 fun reply _ => reply.succeeded

/-- The condition on the signal. -/
def NbDevice.heard (table : NbDevice) : Bool :=
  table.csq ≠ 0 ∧ table.csq ≠ 99

/-- The module hears the network, in at most 15 attempts. -/
def csqStage : AttachStage :=
  Query.stage .getCsq 15 fun reply table => reply.succeeded && table.heard && table.csq ≠ -1

/-- The module is registered, in at most 40 attempts. -/
def netStage : AttachStage :=
  Query.stage .getNetConnect 40 fun reply table => reply.succeeded && table.registered

/-- The clock is set; the answer is not looked at. -/
def timeStage : AttachStage where
  cmd := Query.cmd .getTime
  least := 1
  most := 1
  stores _ table := table
  condition := none

/-- The stages behind the SIM card. -/
def networkStages : List AttachStage :=
  [imeiStage, csqStage, netStage, timeStage]

/-- All stages of `qsdk_nb_quick_connect`, in order. -/
def attachStages : List AttachStage :=
  [npsmrStage, cpsmsStage, simStage, imsiStage] ++ networkStages

/-- The exchanges go through the stages in order.  A stage is entered only if
the condition of the one before was met, and a procedure that stops in front of
the last stage has failed. -/
def FollowsStages (table : NbDevice) : List AttachStage → List Exchange → Bool → Prop
  | [], exchanges, value => exchanges = [] ∧ value = true
  | stage :: rest, exchanges, value => ∃ replies others,
      exchanges = replies.map (fun reply => ⟨stage.cmd, reply⟩) ++ others ∧
      stage.least ≤ replies.length ∧ replies.length ≤ stage.most ∧
      match stage.condition with
      | none => FollowsStages (stage.tableAfter table replies) rest others value
      | some met =>
          (∃ last, replies.getLast? = some last ∧ met last (stage.tableAfter table replies) = true ∧
            FollowsStages (stage.tableAfter table replies) rest others value) ∨
          (others = [] ∧ value = false)

/-! ## Repeated queries -/

/-- How often a command has been sent. -/
def Dialogue.times (dialogue : Dialogue) (cmd : Bytes) : Nat :=
  dialogue.exchanges.countP fun exchange => exchange.cmd = cmd

/-- The replies to some repetitions of a command. -/
def NbModule.replies (nb : NbModule) (cmd : Bytes) (start count : Nat) : List Reply :=
  (List.range count).map fun index => nb.reply cmd (start + index)

theorem length_replies (nb : NbModule) (cmd : Bytes) (start count : Nat) :
    (nb.replies cmd start count).length = count := by
  simp [NbModule.replies]

theorem replies_succ (nb : NbModule) (cmd : Bytes) (start count : Nat) :
    nb.replies cmd start (count + 1) =
      nb.replies cmd start count ++ [nb.reply cmd (start + count)] := by
  simp [NbModule.replies, List.range_succ]

section Repeat

variable (nb : NbModule) (query : Query) (dialogue : Dialogue)

theorem times_sent (cmd other : Bytes) :
    (nb.sent cmd dialogue).times other = dialogue.times other + if cmd = other then 1 else 0 := by
  simp [Dialogue.times, NbModule.sent, List.countP_append, List.countP_singleton]

theorem times_asked (other : Bytes) : (nb.asked query dialogue).times other =
    dialogue.times other + if query.cmd = other then 1 else 0 :=
  times_sent nb dialogue query.cmd other

theorem times_iterate (count : Nat) (other : Bytes) :
    ((nb.asked query)^[count] dialogue).times other =
      dialogue.times other + if query.cmd = other then count else 0 := by
  induction count with
  | zero => simp
  | succ count ih =>
      rw [Function.iterate_succ_apply', times_asked, ih]
      split <;> omega

/-- The reply to the next repetition. -/
theorem next_iterate (count : Nat) :
    nb.next query.cmd ((nb.asked query)^[count] dialogue) =
      nb.reply query.cmd (dialogue.times query.cmd + count) := by
  change nb.reply query.cmd (((nb.asked query)^[count] dialogue).times query.cmd) = _
  rw [times_iterate, if_pos rfl]

theorem exchanges_iterate (count : Nat) :
    ((nb.asked query)^[count] dialogue).exchanges = dialogue.exchanges ++
      (nb.replies query.cmd (dialogue.times query.cmd) count).map (⟨query.cmd, ·⟩) := by
  induction count with
  | zero => simp [NbModule.replies]
  | succ count ih =>
      rw [Function.iterate_succ_apply', replies_succ, List.map_append, ← List.append_assoc, ← ih,
        ← next_iterate]
      rfl

theorem table_iterate (count : Nat) :
    ((nb.asked query)^[count] dialogue).table =
      (nb.replies query.cmd (dialogue.times query.cmd) count).foldl
        (fun table reply => query.stored reply table) dialogue.table := by
  induction count with
  | zero => rfl
  | succ count ih =>
      rw [Function.iterate_succ_apply', replies_succ, List.foldl_append, ← ih, ← next_iterate]
      rfl

/-- The condition of a stage behind a query, with the reply to the query. -/
def NbModule.meets (condition : Reply → NbDevice → Bool) : Bool :=
  condition (nb.next query.cmd dialogue) (nb.asked query dialogue).table

end Repeat

/-! ## The loops -/

section Loops

variable (nb : NbModule)

@[simp]
theorem run_threadDelay (ticks : Nat) (dialogue : Dialogue) :
    (threadDelay ticks).run nb.handle dialogue = ((), dialogue) :=
  rfl

@[simp]
theorem run_readTable (dialogue : Dialogue) :
    readTable.run nb.handle dialogue = (dialogue.table, dialogue) :=
  rfl

theorem run_simLoop (budget : Nat) (dialogue : Dialogue) :
    (simLoop budget).run nb.handle dialogue =
      retry (nb.meets .simCheck · fun _ table => table.simState ≠ 0) (nb.asked .simCheck) budget
        dialogue := by
  apply Program.run_eq_retry
  · rfl
  · intro left dialogue
    simp only [simLoop, Program.run_bind, run_simCheck, Program.run_ite, run_threadDelay,
      run_readTable, ite_self]
    cases left with
    | zero => simp [simLoop]
    | succ left =>
        by_cases off : (nb.asked .simCheck dialogue).table.simState = 0
        · simp [NbModule.meets, off]
        · simp [NbModule.meets, off]

theorem run_imsiLoop (budget : Nat) (dialogue : Dialogue) :
    (imsiLoop budget).run nb.handle dialogue =
      retry (nb.meets .getImsi · fun reply _ => reply.succeeded) (nb.asked .getImsi) budget
        dialogue := by
  apply Program.run_eq_retry
  · rfl
  · intro left dialogue
    simp only [imsiLoop, Program.run_bind, run_getImsi, Program.run_ite, run_threadDelay]
    rfl

theorem run_csqLoop (budget : Nat) (dialogue : Dialogue) :
    (csqLoop budget).run nb.handle dialogue =
      retry (nb.meets .getCsq · fun reply table => reply.succeeded && table.heard && table.csq ≠ -1)
        (nb.asked .getCsq) budget dialogue := by
  apply Program.run_eq_retry
  · rfl
  · intro left dialogue
    simp only [csqLoop, Program.run_bind, run_getCsq, Program.run_ite, run_threadDelay,
      run_readTable]
    cases answered : (nb.next (Query.cmd .getCsq) dialogue).succeeded with
    | false => simp [NbModule.meets, answered]
    | true =>
        by_cases none : (nb.asked .getCsq dialogue).table.csq = -1
        · simp [NbModule.meets, answered, none]
        · simp [NbModule.meets, answered, none, NbDevice.heard, and_comm]

theorem run_netLoop (budget : Nat) (dialogue : Dialogue) :
    (netLoop budget).run nb.handle dialogue =
      retry (nb.meets .getNetConnect · fun reply table => reply.succeeded && table.registered)
        (nb.asked .getNetConnect) budget dialogue := by
  apply Program.run_eq_retry
  · rfl
  · intro left dialogue
    simp only [netLoop, Program.run_bind, run_getNetConnect, Program.run_ite, run_threadDelay]
    rfl

/-- The loop of the signal behind the module number. -/
def NbModule.csqResult (dialogue : Dialogue) : Nat × Dialogue :=
  (csqLoop 15).run nb.handle (nb.asked .getImei dialogue)

/-- The loop of the network behind the signal. -/
def NbModule.netResult (dialogue : Dialogue) : Nat × Dialogue :=
  (netLoop 40).run nb.handle (nb.csqResult dialogue).2

theorem run_attachNetwork (dialogue : Dialogue) :
    attachNetwork.run nb.handle dialogue =
      if (nb.next (Query.cmd .getImei) dialogue).succeeded = false then
        (false, nb.asked .getImei dialogue)
      else if (nb.csqResult dialogue).1 = 0 then (false, (nb.csqResult dialogue).2)
      else if (nb.netResult dialogue).1 = 0 then (false, (nb.netResult dialogue).2)
      else (true, (qsdkNbGetTime.run nb.handle (nb.netResult dialogue).2).2) := by
  simp only [attachNetwork, Program.run_bind, run_getImei, Bool.not_eq_true']
  cases (nb.next (Query.cmd .getImei) dialogue).succeeded with
  | false => rfl
  | true =>
      simp only [Bool.true_eq_false, if_false, Program.run_bind, Program.run_ite, run_threadDelay]
      rfl

/-- A loop whose counter decides whether the procedure goes on. -/
theorem run_counted (loop : Code Nat) (rest : Code Bool) (dialogue : Dialogue) :
    (loop >>= fun i => if i = 0 then pure false else rest).run nb.handle dialogue =
      if (loop.run nb.handle dialogue).1 = 0 then (false, (loop.run nb.handle dialogue).2)
      else rest.run nb.handle (loop.run nb.handle dialogue).2 := by
  rw [Program.run_bind, Program.run_ite]
  rfl

/-- The dialogue behind the two commands that prepare the module. -/
def NbModule.prepared (dialogue : Dialogue) : Dialogue :=
  if dialogue.psmStatus = .exitPsm then
    nb.sent cpsmsStage.cmd (nb.sent npsmrStage.cmd dialogue)
  else nb.sent npsmrStage.cmd dialogue

/-- The loop of the SIM card behind the preparation. -/
def NbModule.simResult (dialogue : Dialogue) : Nat × Dialogue :=
  (simLoop 5).run nb.handle (nb.prepared dialogue)

/-- The loop of the card number behind the SIM card. -/
def NbModule.imsiResult (dialogue : Dialogue) : Nat × Dialogue :=
  (imsiLoop 5).run nb.handle (nb.simResult dialogue).2

/-- `qsdk_nb_quick_connect` behind the preparation. -/
def attachSim : Code Bool := do
  let i ← simLoop 5
  if i = 0 then
    return false
  threadDelay 1000
  let i ← imsiLoop 5
  if i = 0 then
    return false
  threadDelay 100
  attachNetwork

theorem run_attachSim (dialogue : Dialogue) :
    attachSim.run nb.handle (nb.prepared dialogue) =
      if (nb.simResult dialogue).1 = 0 then (false, (nb.simResult dialogue).2)
      else if (nb.imsiResult dialogue).1 = 0 then (false, (nb.imsiResult dialogue).2)
      else attachNetwork.run nb.handle (nb.imsiResult dialogue).2 := by
  rw [attachSim, run_counted, Program.run_bind, run_threadDelay, run_counted]
  rfl

theorem run_quickConnect (dialogue : Dialogue) :
    qsdkNbQuickConnect.run nb.handle dialogue =
      if (nb.next npsmrStage.cmd dialogue).succeeded = false then
        (false, nb.sent npsmrStage.cmd dialogue)
      else attachSim.run nb.handle (nb.prepared dialogue) := by
  rw [qsdkNbQuickConnect, Program.run_bind, run_atObjExecCmd]
  change (ite ((!(nb.next npsmrStage.cmd dialogue).succeeded) = true) _ _ : Code Bool).run _ _ = _
  cases (nb.next npsmrStage.cmd dialogue).succeeded with
  | false => rfl
  | true =>
      change (ite ((!decide (dialogue.psmStatus ≠ .exitPsm)) = true) _ _ : Code Bool).run _ _ = _
      rw [NbModule.prepared]
      by_cases exit : dialogue.psmStatus = .exitPsm
      · have off : (!decide (dialogue.psmStatus ≠ .exitPsm)) = true := by simp [exit]
        rw [if_pos off, if_pos exit, if_neg Bool.noConfusion]
        change (qsdkNbSetPsmModeOff >>= fun _ => threadDelay 1000 >>= fun _ => attachSim).run
          nb.handle (nb.sent npsmrStage.cmd dialogue) = _
        rw [Program.run_bind, Program.run_bind, run_threadDelay]
        rfl
      · have on : ¬ (!decide (dialogue.psmStatus ≠ .exitPsm)) = true := by simp [exit]
        rw [if_neg on, if_neg exit, if_neg Bool.noConfusion]
        change (threadDelay 1000 >>= fun _ => attachSim).run nb.handle
          (nb.sent npsmrStage.cmd dialogue) = _
        rw [Program.run_bind, run_threadDelay]

end Loops

/-! ## Order of the commands -/

section Order

variable {nb : NbModule}

/-- A procedure that has reached `dialogue` goes through the stages `rest`. -/
def Proceeds (dialogue : Dialogue) (rest : List AttachStage) (result : Bool × Dialogue) : Prop :=
  ∃ exchanges, result.2.exchanges = dialogue.exchanges ++ exchanges ∧
    FollowsStages dialogue.table rest exchanges result.1

/-- A retried stage: what comes behind it is reached only with its condition met. -/
theorem proceeds_retry {query : Query} {most : Nat} {condition : Reply → NbDevice → Bool}
    (positive : 0 < most) {rest : List AttachStage} {dialogue : Dialogue}
    {behind result : Bool × Dialogue}
    (runs : result =
      let retried := retry (nb.meets query · condition) (nb.asked query) most dialogue
      if retried.1 = 0 then (false, retried.2) else behind)
    (proceeds : Proceeds (retry (nb.meets query · condition) (nb.asked query) most dialogue).2 rest
      behind) :
    Proceeds dialogue (query.stage most condition :: rest) result := by
  rcases exists_retry_eq (nb.meets query · condition) (nb.asked query) positive dialogue with
    ⟨failed, bounded, final, success⟩
  rw [final] at proceeds
  simp only [final] at runs
  have exchanges := exchanges_iterate nb query dialogue (failed + 1)
  have table := table_iterate nb query dialogue (failed + 1)
  have length := length_replies nb query.cmd (dialogue.times query.cmd) (failed + 1)
  by_cases exhausted : (retry (nb.meets query · condition) (nb.asked query) most dialogue).1 = 0
  · rw [if_pos exhausted] at runs
    subst runs
    refine ⟨_, exchanges, _, [], (List.append_nil _).symm, ?_, ?_, Or.inr ⟨rfl, rfl⟩⟩
    · rw [length]
      exact Nat.succ_pos failed
    · rw [length]
      exact bounded
  · rw [if_neg exhausted] at runs
    subst runs
    rcases proceeds with ⟨others, behindExchanges, follows⟩
    rw [exchanges, List.append_assoc] at behindExchanges
    rw [table] at follows
    have met := success exhausted
    simp only [NbModule.meets] at met
    rw [next_iterate, ← Function.iterate_succ_apply' (nb.asked query), table] at met
    refine ⟨_, behindExchanges, _, others, rfl, ?_, ?_, Or.inl ⟨_, ?_, met, follows⟩⟩
    · rw [length]
      exact Nat.succ_pos failed
    · rw [length]
      exact bounded
    · rw [replies_succ, List.getLast?_concat]

/-- A stage with one command and a condition on its reply. -/
theorem proceeds_once {stage : AttachStage} {rest : List AttachStage} {dialogue next : Dialogue}
    {reply : Reply} {behind result : Bool × Dialogue} (least : stage.least = 1)
    (most : stage.most = 1)
    (condition : stage.condition = some fun reply _ => reply.succeeded)
    (exchanges : next.exchanges = dialogue.exchanges ++ [⟨stage.cmd, reply⟩])
    (table : next.table = stage.stores reply dialogue.table)
    (runs : result = if reply.succeeded = false then (false, next) else behind)
    (proceeds : Proceeds next rest behind) : Proceeds dialogue (stage :: rest) result := by
  cases answered : reply.succeeded with
  | false =>
      rw [if_pos answered] at runs
      subst runs
      refine ⟨_, exchanges, [reply], [], rfl, least.le, most.ge, ?_⟩
      rw [condition]
      exact Or.inr ⟨rfl, rfl⟩
  | true =>
      rw [if_neg (by rw [answered]; exact Bool.noConfusion)] at runs
      subst runs
      rcases proceeds with ⟨others, behindExchanges, follows⟩
      rw [exchanges, List.append_assoc] at behindExchanges
      rw [table] at follows
      refine ⟨_, behindExchanges, [reply], others, rfl, least.le, most.ge, ?_⟩
      rw [condition]
      exact Or.inl ⟨reply, rfl, answered, follows⟩

theorem proceeds_time (dialogue : Dialogue) :
    Proceeds dialogue [timeStage] (true, (qsdkNbGetTime.run nb.handle dialogue).2) := by
  have sent : (qsdkNbGetTime.run nb.handle dialogue).2.exchanges =
      dialogue.exchanges ++ [⟨timeStage.cmd, nb.next timeStage.cmd dialogue⟩] := by
    rw [run_getTime]
    split <;> rfl
  exact ⟨_, sent, [_], [], rfl, Nat.le_refl 1, Nat.le_refl 1, rfl, rfl⟩

theorem proceeds_attachNetwork (dialogue : Dialogue) :
    Proceeds dialogue networkStages (attachNetwork.run nb.handle dialogue) := by
  apply proceeds_once rfl rfl rfl (rfl : (nb.asked .getImei dialogue).exchanges = _) rfl
    (run_attachNetwork nb dialogue)
  apply proceeds_retry (by decide)
  · rw [← run_csqLoop]
    rfl
  · rw [← run_csqLoop]
    apply proceeds_retry (by decide)
    · rw [← run_netLoop]
      rfl
    · rw [← run_netLoop]
      exact proceeds_time _

/-- The preparation issues `AT+CPSMS=0` at most once. -/
theorem proceeds_prepared {rest : List AttachStage} {dialogue : Dialogue}
    {result : Bool × Dialogue} (proceeds : Proceeds (nb.prepared dialogue) rest result) :
    Proceeds (nb.sent npsmrStage.cmd dialogue) (cpsmsStage :: rest) result := by
  rcases proceeds with ⟨others, exchanges, follows⟩
  by_cases exit : dialogue.psmStatus = .exitPsm
  · rw [NbModule.prepared, if_pos exit] at exchanges follows
    rw [NbModule.sent, List.append_assoc] at exchanges
    exact ⟨_, exchanges, [_], others, rfl, Nat.zero_le 1, Nat.le_refl 1, follows⟩
  · rw [NbModule.prepared, if_neg exit] at exchanges follows
    exact ⟨_, exchanges, [], others, rfl, Nat.le_refl 0, Nat.zero_le 1, follows⟩

theorem proceeds_quickConnect (dialogue : Dialogue) :
    Proceeds dialogue attachStages (qsdkNbQuickConnect.run nb.handle dialogue) := by
  apply proceeds_once rfl rfl rfl (rfl : (nb.sent npsmrStage.cmd dialogue).exchanges = _) rfl
    (run_quickConnect nb dialogue)
  apply proceeds_prepared
  apply proceeds_retry (by decide)
  · rw [← run_simLoop]
    exact run_attachSim nb dialogue
  · rw [← run_simLoop]
    apply proceeds_retry (by decide)
    · rw [← run_imsiLoop]
      rfl
    · rw [← run_imsiLoop]
      exact proceeds_attachNetwork _

end Order

/-! ## The table behind a success -/

section Table

variable {nb : NbModule} {query : Query} {condition : Reply → NbDevice → Bool} {most : Nat}
  {dialogue : Dialogue}

/-- A loop that leaves a counter has met its condition. -/
theorem condition_of_left (positive : 0 < most)
    (left : (retry (nb.meets query · condition) (nb.asked query) most dialogue).1 ≠ 0) :
    ∃ reply, condition reply
      (retry (nb.meets query · condition) (nb.asked query) most dialogue).2.table = true := by
  rcases exists_retry_eq (nb.meets query · condition) (nb.asked query) positive dialogue with
    ⟨failed, _, final, success⟩
  rw [final, Function.iterate_succ_apply']
  exact ⟨_, success left⟩

/-- A query changes what it assigns only. -/
theorem asked_keeps {α : Type} (field : NbDevice → α)
    (keeps : ∀ table fields, field (query.assign table fields) = field table)
    (dialogue : Dialogue) :
    field (nb.asked query dialogue).table = field dialogue.table := by
  rw [NbModule.asked]
  cases nb.next query.cmd dialogue with
  | error => rfl
  | ok lines => exact keeps _ _

/-- So does a loop. -/
theorem retry_keeps {α : Type} (field : NbDevice → α)
    (keeps : ∀ table fields, field (query.assign table fields) = field table) :
    field (retry (nb.meets query · condition) (nb.asked query) most dialogue).2.table =
      field dialogue.table := by
  apply @retry_invariant _ _ _ fun state : Dialogue => field state.table = field dialogue.table
  · intro state same
    rw [asked_keeps field keeps, same]
  · rfl

/-- A loop sends no other command. -/
theorem retry_times {other : Bytes} (differs : query.cmd ≠ other) :
    (retry (nb.meets query · condition) (nb.asked query) most dialogue).2.times other =
      dialogue.times other := by
  apply @retry_invariant _ _ _ fun state : Dialogue => state.times other = dialogue.times other
  · intro state same
    rw [times_asked, if_neg differs, same, Nat.add_zero]
  · rfl

end Table

section Success

variable {nb : NbModule} {dialogue : Dialogue}

/-- A success has passed every test that returns `RT_ERROR`. -/
theorem passed_of_success {guard : Prop} [Decidable guard] {failed : Dialogue}
    {rest : Bool × Dialogue} (success : (if guard then (false, failed) else rest).1 = true) :
    ¬ guard ∧ rest.1 = true := by
  by_cases stops : guard
  · rw [if_pos stops] at success
    contradiction
  · rw [if_neg stops] at success
    exact ⟨stops, success⟩

theorem table_getTime (dialogue : Dialogue) :
    (qsdkNbGetTime.run nb.handle dialogue).2.table = dialogue.table := by
  rw [run_getTime]
  split
  · exact asked_keeps id (fun _ _ => rfl) dialogue
  · exact asked_keeps id (fun _ _ => rfl) dialogue

/-- A success has found the network, and has left the SIM card alone. -/
theorem table_of_attachNetwork (success : (attachNetwork.run nb.handle dialogue).1 = true) :
    let after := (attachNetwork.run nb.handle dialogue).2.table
    after.simState = dialogue.table.simState ∧ after.heard = true ∧ after.csq ≠ -1 ∧
      after.registered = true := by
  rw [run_attachNetwork] at success ⊢
  rcases passed_of_success success with ⟨answered, heardLeft⟩
  rcases passed_of_success heardLeft with ⟨csqLeft, foundLeft⟩
  rcases passed_of_success foundLeft with ⟨netLeft, _⟩
  rw [if_neg answered, if_neg csqLeft, if_neg netLeft]
  simp only [table_getTime]
  rw [NbModule.csqResult, run_csqLoop] at csqLeft
  rcases condition_of_left (by decide) csqLeft with ⟨_, heard⟩
  rw [← run_csqLoop, ← NbModule.csqResult] at heard
  simp only [Bool.and_eq_true, decide_eq_true_eq] at heard
  rw [NbModule.netResult, run_netLoop] at netLeft ⊢
  rcases condition_of_left (by decide) netLeft with ⟨_, registered⟩
  rw [Bool.and_eq_true] at registered
  refine ⟨?_, ?_, ?_, registered.2⟩
  · rw [retry_keeps NbDevice.simState fun _ _ => rfl, NbModule.csqResult, run_csqLoop,
      retry_keeps NbDevice.simState fun _ _ => rfl, asked_keeps NbDevice.simState fun _ _ => rfl]
  · rw [retry_keeps NbDevice.heard fun _ _ => rfl]
    exact heard.1.2
  · rw [retry_keeps NbDevice.csq fun _ _ => rfl]
    exact heard.2

/-- Whatever the table holds at the start and whatever the module replies, a
success of `qsdk_nb_quick_connect` means a SIM card, a signal and a registration,
and every run sends its commands stage by stage. -/
theorem quickConnect_sound (nb : NbModule) (dialogue : Dialogue) :
    let result := qsdkNbQuickConnect.run nb.handle dialogue
    (result.1 = true →
      result.2.table.simState ≠ 0 ∧
      (result.2.table.csq ≠ 0 ∧ result.2.table.csq ≠ 99 ∧ result.2.table.csq ≠ -1) ∧
      (result.2.table.netConnectOk = 1 ∨ result.2.table.netConnectOk = 5)) ∧
    ∃ exchanges, result.2.exchanges = dialogue.exchanges ++ exchanges ∧
      FollowsStages dialogue.table attachStages exchanges result.1 := by
  intro result
  refine ⟨?_, proceeds_quickConnect dialogue⟩
  intro success
  simp only [result] at success ⊢
  rw [run_quickConnect, run_attachSim] at success ⊢
  rcases passed_of_success success with ⟨answered, prepared⟩
  rcases passed_of_success prepared with ⟨simLeft, found⟩
  rcases passed_of_success found with ⟨imsiLeft, attached⟩
  rw [if_neg answered, if_neg simLeft, if_neg imsiLeft]
  rcases table_of_attachNetwork attached with ⟨sim, heard, csq, registered⟩
  rw [NbModule.simResult, run_simLoop] at simLeft
  rcases condition_of_left (by decide) simLeft with ⟨_, card⟩
  rw [← run_simLoop, ← NbModule.simResult, decide_eq_true_eq] at card
  simp only [NbDevice.heard, NbDevice.registered, decide_eq_true_eq] at heard registered
  refine ⟨?_, ⟨heard.1, heard.2, csq⟩, registered⟩
  rw [sim, NbModule.imsiResult, run_imsiLoop, retry_keeps NbDevice.simState fun _ _ => rfl]
  exact card

end Success

end BerPiNbiot.Modem
