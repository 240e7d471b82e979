import BerPiNbiot.Modem.Connect
import BerPiNbiot.Transition.Core

/-!
# Reports of module reboots

`nb_reboot_func` tells a requested reboot from any other one by the text of the
notification and by `reboot_open`, and wipes the table before it returns.  A
request writes the table again.  The history below counts the requests, so that
the notifications between two requests are those with the same count.

A notification is reported to one party, to the thread that asked for the reboot
or to the network thread, and the first of these at most once for every request.
The report to the network thread needs `net_error`, which `main` creates only
behind the first request for a reset; before that the handler runs into an
assertion and handles nothing any more.
-/

namespace BerPiNbiot.Modem

open BerPiNbiot.Text
open BerPiNbiot.Transition

/-- A notification that `nb_reboot_func` has handled. -/
structure RebootReport where
  data : Bytes
  effects : List Effect
  /-- `nb_device_table` when the handler returns -/
  table : NbDevice
  /-- the reboots that were requested before -/
  requests : Nat
  deriving DecidableEq, Repr

/-- How often `EVENT_REBOOT` was sent on `nb_event`. -/
def RebootReport.toDriver (report : RebootReport) : Nat :=
  report.effects.count (.sendNbEvent eventReboot)

/-- How often `NB_REBOOT` was sent on `net_error`. -/
def RebootReport.toNet (report : RebootReport) : Nat :=
  report.effects.count (.sendNetError nbReboot)

/-- The driver with the history of its reboots. -/
structure RebootState where
  driver : Driver
  requests : Nat := 0
  reports : List RebootReport := []
  /-- `qsdk_thread_entry` stands in a failed assertion -/
  halted : Bool := false
  deriving DecidableEq, Repr

/-- The steps that read or write `reboot_open`, and those that change what
`nb_reboot_func` also looks at: the power-saving status and `net_error`. -/
inductive RebootMove
  | urc (data : Bytes)
  /-- the table of `qsdk_nb_reboot` and `qsdk_init_environment` -/
  | request
  /-- behind a successful `rt_event_recv` of these functions -/
  | acknowledge
  | psmStatus (status : NbStatus)
  /-- `main` creates `net_error` -/
  | createNetError
  deriving DecidableEq, Repr

/-- The moves; a handler that stands in an assertion takes no notification. -/
def rebootStep : Step RebootState RebootMove
  | state, .urc data =>
      if state.halted then
        none
      else
        let (driver, effects) := nbRebootFunc data state.driver
        some { state with
          driver
          reports := ⟨data, effects, driver.nbDeviceTable, state.requests⟩ :: state.reports
          halted := halts effects }
  | state, .request =>
      some { state with
        driver := { state.driver with nbDeviceTable := rebootRequested }
        requests := state.requests + 1 }
  | state, .acknowledge =>
      some { state with
        driver := { state.driver with
          nbDeviceTable := rebootAcknowledged state.driver.nbDeviceTable } }
  | state, .psmStatus status =>
      some { state with driver := { state.driver with nbiotPsmStatus := status } }
  | state, .createNetError =>
      some { state with driver := { state.driver with netErrorCreated := true } }

/-! ## One notification -/

/-- The notification of a reset that the driver has asked for. -/
def Answers (data : Bytes) (table : NbDevice) : Prop :=
  if Found data (ascii "REBOOT_CAUSE_SECURITY_RESET_PIN") then
    table.rebootOpen = .rebootForPin
  else
    Found data (ascii "REBOOT_CAUSE_APPLICATION_AT") ∧ table.rebootOpen = .rebootForAt

/-- `nb_reboot_func` does not need `net_error`, or it has been created. -/
def Reportable (data : Bytes) (driver : Driver) : Prop :=
  driver.netErrorCreated = true ∨ Answers data driver.nbDeviceTable

instance (data : Bytes) (table : NbDevice) : Decidable (Answers data table) :=
  inferInstanceAs (Decidable (if Found data (ascii "REBOOT_CAUSE_SECURITY_RESET_PIN") then _
    else _))

instance (data : Bytes) (driver : Driver) : Decidable (Reportable data driver) :=
  inferInstanceAs (Decidable (driver.netErrorCreated = true ∨ Answers data driver.nbDeviceTable))

/-- The callback reports the reboot or runs into the assertion. -/
theorem qsdkNbRebootCallback_cases (driver : Driver) :
    qsdkNbRebootCallback driver = [.sendNetError nbReboot] ∧ driver.netErrorCreated = true ∨
      qsdkNbRebootCallback driver = [.assertionFailed] ∧ driver.netErrorCreated = false := by
  unfold qsdkNbRebootCallback
  split
  · rename_i created
    exact Or.inl ⟨rfl, created⟩
  · rename_i missing
    exact Or.inr ⟨rfl, Bool.not_eq_true _ ▸ missing⟩

/-- A cause answers an open request, or the callback is called. -/
theorem rebootCause_cases (requested cause : RebootType) (driver : Driver) :
    (rebootCause requested cause driver).2 = [.sendNbEvent eventReboot] ∧
        driver.nbDeviceTable.rebootOpen = requested ∨
      (rebootCause requested cause driver).2 = qsdkNbRebootCallback driver ∧
        driver.nbDeviceTable.rebootOpen ≠ requested := by
  unfold rebootCause
  split
  · rename_i requestedHere
    exact Or.inl ⟨rfl, requestedHere⟩
  · rename_i other
    exact Or.inr ⟨rfl, other⟩

/-- A notification answers an open request, or the callback is called. -/
theorem rebootBranch_cases (data : Bytes) (driver : Driver) :
    (rebootBranch data driver).2 = [.sendNbEvent eventReboot] ∧
        Answers data driver.nbDeviceTable ∨
      (rebootBranch data driver).2 = qsdkNbRebootCallback driver ∧
        ¬ Answers data driver.nbDeviceTable := by
  by_cases pin : Found data (ascii "REBOOT_CAUSE_SECURITY_RESET_PIN")
  · simp only [rebootBranch, Answers, if_pos pin]
    exact rebootCause_cases .rebootForPin .rebootByPin driver
  · by_cases command : Found data (ascii "REBOOT_CAUSE_APPLICATION_AT")
    · simp only [rebootBranch, Answers, if_neg pin, if_pos command]
      rcases rebootCause_cases .rebootForAt .rebootByAt driver with
        ⟨effects, isOpen⟩ | ⟨effects, other⟩
      · exact Or.inl ⟨effects, command, isOpen⟩
      · exact Or.inr ⟨effects, fun both => other both.2⟩
    · simp only [rebootBranch, Answers, if_neg pin, if_neg command]
      exact Or.inr ⟨trivial, fun both => command both.1⟩

/-- Neither cause touches the request. -/
theorem rebootBranch_rebootOpen (data : Bytes) (driver : Driver) :
    (rebootBranch data driver).1.nbDeviceTable.rebootOpen = driver.nbDeviceTable.rebootOpen := by
  simp only [rebootBranch, rebootCause]
  repeat' split
  all_goals rfl

/-- The wake-up of the power-saving thread in front of the report. -/
theorem nbRebootFunc_effects (data : Bytes) (driver : Driver) :
    ∃ exit : List Effect, (exit = [] ∨ exit = [.sendNbEvent eventExitPsmReboot]) ∧
      (nbRebootFunc data driver).2 = exit ++ (rebootBranch data driver).2 := by
  refine ⟨if qsdkNbGetPsmStatus driver then [.sendNbEvent eventExitPsmReboot] else [], ?_, rfl⟩
  split
  · exact Or.inr rfl
  · exact Or.inl rfl

/-- The branch of a notification runs into the assertion unless the reboot is
reportable. -/
theorem halts_rebootBranch_iff (data : Bytes) (driver : Driver) :
    halts (rebootBranch data driver).2 = true ↔ ¬ Reportable data driver := by
  rcases rebootBranch_cases data driver with ⟨effects, answers⟩ | ⟨effects, other⟩
  · rw [effects]
    exact iff_of_false Bool.false_ne_true (not_not.mpr (Or.inr answers))
  · rw [effects]
    rcases qsdkNbRebootCallback_cases driver with ⟨callback, created⟩ | ⟨callback, missing⟩
    · rw [callback]
      exact iff_of_false Bool.false_ne_true (not_not.mpr (Or.inl created))
    · rw [callback]
      refine iff_of_true rfl ?_
      rintro (created | answers)
      · rw [missing] at created
        contradiction
      · exact other answers

theorem halts_nbRebootFunc_iff (data : Bytes) (driver : Driver) :
    halts (nbRebootFunc data driver).2 = true ↔ ¬ Reportable data driver := by
  rw [← halts_rebootBranch_iff]
  rcases nbRebootFunc_effects data driver with ⟨exit, shape, effects⟩
  rw [effects]
  simp only [halts, decide_eq_true_eq, List.mem_append]
  refine ⟨fun member => member.resolve_left ?_, Or.inr⟩
  rcases shape with rfl | rfl <;> decide

/-- A reportable reboot wipes the table. -/
theorem nbRebootFunc_table {data : Bytes} {driver : Driver} (reportable : Reportable data driver) :
    (nbRebootFunc data driver).1.nbDeviceTable = {} := by
  have returns : ¬ halts (rebootBranch data driver).2 = true := by
    rw [halts_rebootBranch_iff]
    exact not_not.mpr reportable
  simp only [nbRebootFunc, if_neg returns]
  rfl

/-- The handler closes the request or, in a failed assertion, leaves it as it
is. -/
theorem nbRebootFunc_rebootOpen (data : Bytes) (driver : Driver) :
    (nbRebootFunc data driver).1.nbDeviceTable.rebootOpen = .noInit ∨
      ¬ Reportable data driver ∧ (nbRebootFunc data driver).1.nbDeviceTable.rebootOpen =
        driver.nbDeviceTable.rebootOpen := by
  by_cases reportable : Reportable data driver
  · rw [nbRebootFunc_table reportable]
    exact Or.inl rfl
  · have stands := (halts_rebootBranch_iff data driver).mpr reportable
    refine Or.inr ⟨reportable, ?_⟩
    simp only [nbRebootFunc, if_pos stands]
    exact rebootBranch_rebootOpen data driver

/-- An answer needs an open request. -/
theorem ne_noInit_of_answers {data : Bytes} {table : NbDevice} (answers : Answers data table) :
    table.rebootOpen ≠ .noInit := by
  unfold Answers at answers
  split at answers
  · rw [answers]
    exact RebootType.noConfusion
  · rw [answers.2]
    exact RebootType.noConfusion

/-- One party is told of a reportable reboot and nobody of any other one. -/
theorem count_nbRebootFunc (data : Bytes) (driver : Driver) :
    (nbRebootFunc data driver).2.count (.sendNbEvent eventReboot) +
        (nbRebootFunc data driver).2.count (.sendNetError nbReboot) =
      if Reportable data driver then 1 else 0 := by
  rcases nbRebootFunc_effects data driver with ⟨exit, shape, effects⟩
  rw [effects]
  rcases rebootBranch_cases data driver with ⟨branch, answers⟩ | ⟨branch, other⟩
  · have reportable : Reportable data driver := Or.inr answers
    rw [if_pos reportable, branch]
    rcases shape with rfl | rfl <;> decide
  · rcases qsdkNbRebootCallback_cases driver with ⟨callback, created⟩ | ⟨callback, missing⟩
    · have reportable : Reportable data driver := Or.inl created
      rw [if_pos reportable, branch, callback]
      rcases shape with rfl | rfl <;> decide
    · have silent : ¬ Reportable data driver := by
        rw [← halts_rebootBranch_iff, branch, callback]
        rfl
      rw [if_neg silent, branch, callback]
      rcases shape with rfl | rfl <;> decide

/-- With no reboot open the driver is not told. -/
theorem count_nbRebootFunc_of_noInit {driver : Driver} (data : Bytes)
    (closed : driver.nbDeviceTable.rebootOpen = .noInit) :
    (nbRebootFunc data driver).2.count (.sendNbEvent eventReboot) = 0 := by
  rcases nbRebootFunc_effects data driver with ⟨exit, shape, effects⟩
  rw [effects]
  rcases rebootBranch_cases data driver with ⟨_, answers⟩ | ⟨branch, _⟩
  · exact absurd closed (ne_noInit_of_answers answers)
  · rw [branch]
    rcases qsdkNbRebootCallback_cases driver with ⟨callback, _⟩ | ⟨callback, _⟩ <;>
      rw [callback] <;> rcases shape with rfl | rfl <;> decide

/-! ## Histories -/

/-- The reports to the driver since a number of requests. -/
def RebootState.acknowledgements (state : RebootState) (requests : Nat) : Nat :=
  ((state.reports.filter (·.requests = requests)).map RebootReport.toDriver).foldr (· + ·) 0

/-- One party has been told, and the table is wiped. -/
def RebootReport.Single (report : RebootReport) : Prop :=
  report.toDriver + report.toNet = 1 ∧ report.table = {}

/-- `net_error` exists when a reboot is reported to the network thread. -/
def Heard (state : RebootState) : RebootMove → Prop
  | .urc data => Reportable data state.driver
  | _ => True

instance (state : RebootState) : DecidablePred (Heard state)
  | .urc data => inferInstanceAs (Decidable (Reportable data state.driver))
  | .request | .acknowledge | .psmStatus _ | .createNetError => isTrue trivial

/-- What a handled notification adds to the history. -/
theorem rebootStep_urc {state target : RebootState} {data : Bytes}
    (moved : rebootStep state (.urc data) = some target) :
    ∃ report : RebootReport, target.reports = report :: state.reports ∧
      report.effects = (nbRebootFunc data state.driver).2 ∧
      report.table = (nbRebootFunc data state.driver).1.nbDeviceTable ∧
      report.requests = state.requests ∧ target.requests = state.requests ∧
      target.driver = (nbRebootFunc data state.driver).1 := by
  simp only [rebootStep] at moved
  split at moved
  · contradiction
  · cases moved
    exact ⟨_, rfl, rfl, rfl, rfl, rfl, rfl⟩

/-- A notification has one report if and only if the reboot is reportable. -/
theorem single_iff_reportable {report : RebootReport} {data : Bytes} {driver : Driver}
    (effects : report.effects = (nbRebootFunc data driver).2)
    (table : report.table = (nbRebootFunc data driver).1.nbDeviceTable) :
    report.Single ↔ Reportable data driver := by
  have total := count_nbRebootFunc data driver
  simp only [RebootReport.Single, RebootReport.toDriver, RebootReport.toNet, effects, table, total]
  constructor
  · rintro ⟨single, _⟩
    by_contra silent
    rw [if_neg silent] at single
    contradiction
  · intro reportable
    exact ⟨if_pos reportable, nbRebootFunc_table reportable⟩

theorem single_step {state target : RebootState} {move : RebootMove}
    (moved : rebootStep state move = some target) :
    (∀ report ∈ target.reports, report.Single) ↔
      (∀ report ∈ state.reports, report.Single) ∧ Heard state move := by
  cases move with
  | urc data =>
      rcases rebootStep_urc moved with ⟨report, reports, effects, table, _⟩
      rw [reports, List.forall_mem_cons, single_iff_reportable effects table]
      exact and_comm
  | request | acknowledge | psmStatus status | createNetError =>
      cases moved
      exact (and_iff_left trivial).symm

/-- Every notification of a run has one report if and only if every one of them
was heard. -/
theorem single_iff_guarded {state final : RebootState} {moves : List RebootMove}
    (executed : exec rebootStep state moves = some final) :
    (∀ report ∈ final.reports, report.Single) ↔
      (∀ report ∈ state.reports, report.Single) ∧ Guarded rebootStep Heard state moves := by
  induction moves generalizing state with
  | nil =>
      cases executed
      exact (and_iff_left trivial).symm
  | cons move rest ih =>
      rcases (exec_cons_eq_some_iff rebootStep state final move rest).mp executed with
        ⟨middle, moved, later⟩
      rw [ih later, single_step moved, and_assoc, Guarded, moved]

/-- What holds of every history.  A reboot is open only as long as no report of
the same request has gone to the driver. -/
structure RebootState.Reported (state : RebootState) : Prop where
  past : ∀ report ∈ state.reports, report.requests ≤ state.requests
  unanswered : state.driver.nbDeviceTable.rebootOpen ≠ .noInit →
    state.acknowledgements state.requests = 0
  once : ∀ requests, state.acknowledgements requests ≤ 1

/-- One more report counts for its own number of requests. -/
theorem acknowledgements_cons {state target : RebootState} {report : RebootReport}
    (reports : target.reports = report :: state.reports) (requests : Nat) :
    target.acknowledgements requests =
      (if report.requests = requests then report.toDriver else 0) +
        state.acknowledgements requests := by
  simp only [RebootState.acknowledgements, reports, List.filter_cons, decide_eq_true_eq]
  by_cases same : report.requests = requests
  · rw [if_pos same, if_pos same]
    rfl
  · rw [if_neg same, if_neg same, Nat.zero_add]

namespace RebootState.Reported

variable {state target : RebootState}

/-- No report carries a number of requests that is still to come. -/
theorem acknowledgements_of_lt (reported : state.Reported) {requests : Nat}
    (later : state.requests < requests) : state.acknowledgements requests = 0 := by
  have none : state.reports.filter (·.requests = requests) = [] := by
    rw [List.filter_eq_nil_iff]
    intro report member
    have bound := reported.past report member
    simp only [decide_eq_true_eq]
    omega
  rw [acknowledgements, none]
  rfl

theorem urc (reported : state.Reported) {data : Bytes}
    (moved : rebootStep state (.urc data) = some target) : target.Reported := by
  rcases rebootStep_urc moved with ⟨report, reports, effects, _, number, requests, driver⟩
  rcases reported with ⟨past, unanswered, once⟩
  have told : report.toDriver ≤ 1 ∧
      (state.driver.nbDeviceTable.rebootOpen = .noInit → report.toDriver = 0) := by
    have total := count_nbRebootFunc data state.driver
    rw [RebootReport.toDriver, effects]
    refine ⟨?_, count_nbRebootFunc_of_noInit data⟩
    split at total <;> omega
  constructor
  · rw [reports, requests]
    exact List.forall_mem_cons.mpr ⟨Nat.le_of_eq number, past⟩
  · intro isOpen
    rw [driver] at isOpen
    rcases nbRebootFunc_rebootOpen data state.driver with closed | ⟨silent, same⟩
    · exact absurd closed isOpen
    · -- Behind a failed assertion nobody has been told.
      have total := count_nbRebootFunc data state.driver
      rw [if_neg silent] at total
      have before := unanswered (same ▸ isOpen)
      rw [acknowledgements_cons reports, number, requests, if_pos rfl, before,
        RebootReport.toDriver, effects]
      omega
  · intro number'
    rw [acknowledgements_cons reports, number]
    split
    · rename_i current
      subst current
      have earlier := once state.requests
      by_cases closed : state.driver.nbDeviceTable.rebootOpen = .noInit
      · have quiet := told.2 closed
        omega
      · have first := unanswered closed
        omega
    · have earlier := once number'
      omega

theorem next (reported : state.Reported) {move : RebootMove}
    (moved : rebootStep state move = some target) : target.Reported := by
  cases move with
  | urc data => exact reported.urc moved
  | request =>
      have fresh := reported.acknowledgements_of_lt (Nat.lt_succ_self state.requests)
      cases moved
      rcases reported with ⟨past, unanswered, once⟩
      exact ⟨fun report member => Nat.le_succ_of_le (past report member), fun _ => fresh, once⟩
  | acknowledge =>
      cases moved
      exact ⟨reported.past, fun isOpen => absurd rfl isOpen, reported.once⟩
  | psmStatus status =>
      cases moved
      exact ⟨reported.past, reported.unanswered, reported.once⟩
  | createNetError =>
      cases moved
      exact ⟨reported.past, reported.unanswered, reported.once⟩

end RebootState.Reported

theorem reported_start (driver : Driver) : RebootState.Reported { driver } := by
  constructor
  · exact List.forall_mem_nil _
  · intro _
    rfl
  · intro _
    exact Nat.zero_le 1

/-- From any driver state and for any sequence of steps: every notification is
reported to exactly one party and leaves the table wiped, and among the
notifications between two requests at most one is reported to the driver and
every other one to the network thread, if and only if every notification that
answers no open request finds `net_error` created. -/
theorem reported_to_one_party_iff_heard (driver : Driver) (moves : List RebootMove)
    (final : RebootState) (executed : exec rebootStep { driver } moves = some final) :
    ((∀ report ∈ final.reports, report.toDriver + report.toNet = 1 ∧ report.table = {}) ∧
        ∀ requests, final.acknowledgements requests ≤ 1 ∧
          ∀ report ∈ final.reports,
            report.requests = requests → report.toDriver = 0 → report.toNet = 1) ↔
      Guarded rebootStep Heard { driver } moves := by
  have reported : final.Reported :=
    @exec_invariant _ _ rebootStep (fun _ _ => True) _
      (fun _ _ _ holds _ moved => holds.next moved) _ _ _ (reported_start driver)
      (guarded_of_forall _ fun _ _ _ => trivial) executed
  have single := single_iff_guarded executed
  constructor
  · rintro ⟨each, _⟩
    exact (single.mp each).2
  · intro heard
    have each := single.mpr ⟨List.forall_mem_nil _, heard⟩
    refine ⟨each, fun requests => ⟨reported.once requests, ?_⟩⟩
    intro report member _ notDriver
    have total := (each report member).1
    omega

/-- A requested reset is acknowledged; behind the creation of `net_error` the
module resets itself twice. -/
def heardReboots : List RebootMove :=
  [.request, .urc (ascii "REBOOT_CAUSE_SECURITY_RESET_PIN\r"), .acknowledge, .createNetError,
    .urc (ascii "REBOOT_CAUSE_SECURITY_RESET_PIN\r"),
    .urc (ascii "REBOOT_CAUSE_SECURITY_PMU_POWER_ON_RESET\r")]

theorem heardReboots_reported :
    ∃ final, exec rebootStep { driver := {} } heardReboots = some final ∧
      ∀ report ∈ final.reports, report.toDriver + report.toNet = 1 ∧ report.table = {} := by
  have runs : (exec rebootStep { driver := {} } heardReboots).isSome = true := by
    decide +kernel
  have heard : Guarded rebootStep Heard { driver := {} } heardReboots := by
    decide +kernel
  rcases Option.isSome_iff_exists.mp runs with ⟨final, executed⟩
  refine ⟨final, executed, ?_⟩
  exact ((reported_to_one_party_iff_heard {} heardReboots final executed).mpr heard).1

/-- What the reports of a run say to the driver and to the network thread,
latest first. -/
def reportsOf (moves : List RebootMove) : Option (List (Nat × Nat)) :=
  (exec rebootStep { driver := {} } moves).map fun final =>
    final.reports.map fun report => (report.toDriver, report.toNet)

example : reportsOf heardReboots = some [(0, 1), (0, 1), (1, 0)] := by
  decide +kernel

/-- The first request is made before `main` runs; a reset for another reason is
then reported to nobody. -/
theorem earlyReboot_reportsOf :
    reportsOf [.request, .urc (ascii "REBOOT_CAUSE_SECURITY_PMU_POWER_ON_RESET\r")] =
      some [(0, 0)] := by
  decide +kernel

theorem earlyReboot_unreported :
    ¬ ∀ (moves : List RebootMove) (final : RebootState),
      exec rebootStep { driver := {} } moves = some final →
        ∀ report ∈ final.reports, report.toDriver + report.toNet = 1 := by
  intro always
  rcases Option.map_eq_some_iff.mp earlyReboot_reportsOf with ⟨final, executed, equal⟩
  have nobody : ∃ report ∈ final.reports, (report.toDriver, report.toNet) = (0, 0) := by
    rw [← List.mem_map, equal]
    exact List.mem_singleton_self (0, 0)
  rcases nobody with ⟨report, member, counts⟩
  have single := always _ final executed report member
  rcases Prod.mk.inj counts with ⟨driver, net⟩
  omega

end BerPiNbiot.Modem
