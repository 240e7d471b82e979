import BerPiNbiot.Modem.Connect
import BerPiNbiot.Modem.Mqtt
import BerPiNbiot.Resumption.Handler

/-!
# Queries

One thread in dialogue with the module: a command is answered by an error or by
a list of response lines, and `at_resp_parse_line_args` reads these lines with
`sscanf`.  Seven functions of the driver ask for a value this way.  They look at
the result of the command and not at the number of fields that were read, so a
missing or ill-formed line leaves the old value where the new one belongs.

Texts are stored whole; that a long one runs over the end of its array is not
modelled.
-/

namespace BerPiNbiot.Modem

open BerPiNbiot.Resumption
open BerPiNbiot.Text

/-- The module's reply to a command. -/
inductive Reply
  | error
  | ok (lines : List Bytes)
  deriving DecidableEq, Repr

/-- The command was answered with OK. -/
def Reply.succeeded : Reply → Bool
  | .error => false
  | .ok _ => true

/-- The lines in the response object. -/
def Reply.lines : Reply → List Bytes
  | .error => []
  | .ok lines => lines

/-- A command with its reply. -/
structure Exchange where
  cmd : Bytes
  reply : Reply
  deriving DecidableEq, Repr

/-- What decides a dialogue from outside: the reply to each repetition of a
command, and the values that uninitialised locals happen to have. -/
structure NbModule where
  reply : Bytes → Nat → Reply
  locals : Fin 6 → Int

/-- The driver in dialogue with the module. -/
structure Dialogue where
  table : NbDevice := {}
  psmStatus : NbStatus := .moduleInitOk
  /-- the lines in `nb_resp` -/
  resp : List Bytes := []
  exchanges : List Exchange := []
  /-- the calls of `qsdk_rtc_set_time_callback` -/
  clock : List CivilTime := []

/-- `at_resp_get_line` -/
def atRespGetLine (lines : List Bytes) (line : Nat) : Option Bytes :=
  if line = 0 then none else lines[line - 1]?

/-- `at_resp_get_line_by_kw` -/
def atRespGetLineByKw (lines : List Bytes) (keyword : Bytes) : Option Bytes :=
  lines.find? fun text => Found text keyword

/-- The fields that `vsscanf` assigns; none without a line. -/
def parseArgs (line : Option Bytes) (expr : Bytes) : List Field :=
  (line.map fun text => sscanf text expr).getD []

/-- The reply to the next command. -/
def NbModule.next (nb : NbModule) (cmd : Bytes) (dialogue : Dialogue) : Reply :=
  nb.reply cmd (dialogue.exchanges.countP fun exchange => exchange.cmd = cmd)

/-- The dialogue behind a command. -/
def NbModule.sent (nb : NbModule) (cmd : Bytes) (dialogue : Dialogue) : Dialogue :=
  { dialogue with
    resp := (nb.next cmd dialogue).lines
    exchanges := dialogue.exchanges ++ [⟨cmd, nb.next cmd dialogue⟩] }

/-- The answers to the calls that the queries and the attach procedure make; the
other calls belong to other functions and change nothing. -/
def NbModule.handle (nb : NbModule) (dialogue : Dialogue) :
    (request : Call) → request.Answer × Dialogue
  | .execCmd cmd => ((nb.next cmd dialogue).succeeded, nb.sent cmd dialogue)
  | .respParse line expr => (parseArgs (atRespGetLine dialogue.resp line) expr, dialogue)
  | .respParseByKw keyword expr =>
      (parseArgs (atRespGetLineByKw dialogue.resp keyword) expr, dialogue)
  | .readTable => (dialogue.table, dialogue)
  | .writeTable update => ((), { dialogue with table := update dialogue.table })
  | .readPsmStatus => (dialogue.psmStatus, dialogue)
  | .rtcSetTime time => ((), { dialogue with clock := dialogue.clock ++ [time] })
  | .uninitialised => (nb.locals, dialogue)
  | .waitConnect _ | .malloc _ | .sendDataMailRecv => (true, dialogue)
  | .readSendData => ([], dialogue)
  | .eventRecv .. => (none, dialogue)
  | .readMqtt => ({}, dialogue)
  | .topicInit _ => (none, dialogue)
  | .topicRead _ => ({}, dialogue)
  | .deleteResp | .lockTake | .lockRelease | .eventSend .. | .threadDelay _ | .resetPin _
  | .writePsmStatus _ | .writeMqtt _ | .topicWrite .. | .dataUpStartup | .dataUpSuspend
  | .dataUpResume => ((), dialogue)

/-! ## The seven queries -/

/-- The functions that send one command and read one line of its answer. -/
inductive Query
  | simCheck
  | getImsi
  | getImei
  | getTime
  | getCsq
  | getNetConnect
  | getConnectStatus
  deriving DecidableEq, Repr

/-- The command of a query. -/
def Query.cmd : Query → Bytes
  | .simCheck => ascii "AT+CFUN?"
  | .getImsi => ascii "AT+CIMI"
  | .getImei => ascii "AT+CGSN=1"
  | .getTime => ascii "AT+CCLK?"
  | .getCsq => ascii "AT+CSQ"
  | .getNetConnect => ascii "AT+CEREG?"
  | .getConnectStatus => ascii "AT+MQTTSTAT?"

/-- The line that a query reads. -/
def Query.line (lines : List Bytes) : Query → Option Bytes
  | .getNetConnect => atRespGetLineByKw lines (ascii "+CEREG:")
  | _ => atRespGetLine lines 2

/-- The format with which a query reads its line. -/
def Query.expr : Query → Bytes
  | .simCheck => ascii "+CFUN:%d"
  | .getImsi => ascii "%s\r\n"
  | .getImei => ascii "+CGSN:%s"
  | .getTime => ascii "+CCLK:%d/%d/%d,%d:%d:%d+"
  | .getCsq => ascii "+CSQ:%d\r\n"
  | .getNetConnect => ascii "+CEREG:%d,%d"
  | .getConnectStatus => ascii "+MQTTSTAT:%d"

/-- The fields that a query reads from the response lines. -/
def Query.fields (query : Query) (lines : List Bytes) : List Field :=
  parseArgs (query.line lines) query.expr

/-- The value of a text after a `%s` directive that may have assigned it. -/
def assignStr (before : Bytes) : Option Field → Bytes
  | some (.str text) => text
  | _ => before

/-- The table with the fields that a query assigns. -/
def Query.assign (table : NbDevice) (fields : List Field) : Query → NbDevice
  | .simCheck => { table with simState := assignInt table.simState fields[0]? }
  | .getImsi => { table with imsi := assignStr table.imsi fields[0]? }
  | .getImei => { table with imei := assignStr table.imei fields[0]? }
  | .getCsq => { table with csq := assignInt table.csq fields[0]? }
  | .getNetConnect => { table with netConnectOk := assignInt table.netConnectOk fields[1]? }
  | .getTime | .getConnectStatus => table

/-- The table behind a query. -/
def Query.stored (query : Query) (reply : Reply) (table : NbDevice) : NbDevice :=
  match reply with
  | .error => table
  | .ok lines => query.assign table (query.fields lines)

/-- The dialogue behind a query that does not set the clock. -/
def NbModule.asked (nb : NbModule) (query : Query) (dialogue : Dialogue) : Dialogue :=
  { nb.sent query.cmd dialogue with
    table := query.stored (nb.next query.cmd dialogue) dialogue.table }

section Runs

variable (nb : NbModule) (dialogue : Dialogue)

theorem run_atObjExecCmd (cmd : Bytes) : (atObjExecCmd cmd).run nb.handle dialogue =
    ((nb.next cmd dialogue).succeeded, nb.sent cmd dialogue) :=
  rfl

/-- The shape of the seven functions. -/
def Query.ask {α : Type} (query : Query) (failed : α) (finish : List Field → Code α) : Code α := do
  if ← atObjExecCmd query.cmd then
    let fields ←
      match query with
      | .getNetConnect => atRespParseLineArgsByKw (ascii "+CEREG:") query.expr
      | _ => atRespParseLineArgs 2 query.expr
    finish fields
  else
    return failed

theorem run_ask {α : Type} (query : Query) (failed : α) (finish : List Field → Code α) :
    (query.ask failed finish).run nb.handle dialogue =
      match nb.next query.cmd dialogue with
      | .error => (failed, nb.sent query.cmd dialogue)
      | .ok lines => (finish (query.fields lines)).run nb.handle (nb.sent query.cmd dialogue) := by
  rw [Query.ask, Program.run_bind, run_atObjExecCmd]
  cases reply : nb.next query.cmd dialogue with
  | error => rfl
  | ok lines =>
      have resp : (nb.sent query.cmd dialogue).resp = lines := by
        rw [NbModule.sent, reply]
        rfl
      rw [← resp]
      cases query <;> rfl

/-- A query that assigns its fields to the table and computes its result from it. -/
theorem run_ask_of_assigns {α : Type} {query : Query} {failed : α} {finish : List Field → Code α}
    {result : NbDevice → α} (assigns : ∀ fields before,
      (finish fields).run nb.handle before =
        (result (query.assign before.table fields),
          { before with table := query.assign before.table fields })) :
    (query.ask failed finish).run nb.handle dialogue =
      (if (nb.next query.cmd dialogue).succeeded then result (nb.asked query dialogue).table
        else failed, nb.asked query dialogue) := by
  rw [run_ask, NbModule.asked]
  cases nb.next query.cmd dialogue with
  | error => rfl
  | ok lines => exact assigns _ _

/-- A query that assigns its fields and returns `RT_EOK`. -/
theorem run_ask_of_stores {query : Query} {finish : List Field → Code Bool}
    (assigns : ∀ fields before, (finish fields).run nb.handle before =
      (true, { before with table := query.assign before.table fields })) :
    (query.ask false finish).run nb.handle dialogue =
      ((nb.next query.cmd dialogue).succeeded, nb.asked query dialogue) := by
  rw [@run_ask_of_assigns nb dialogue _ _ _ _ (fun _ => true) assigns]
  simp

theorem run_simCheck : qsdkNbSimCheck.run nb.handle dialogue =
    ((nb.next (Query.cmd .simCheck) dialogue).succeeded, nb.asked .simCheck dialogue) := by
  have shape : qsdkNbSimCheck = Query.ask .simCheck false fun fields => do
      storeInt fields[0]? fun value table => { table with simState := value }
      return true := rfl
  rw [shape]
  apply run_ask_of_stores
  intro fields before
  simp only [Query.assign]
  rcases fields[0]? with _ | (value | text) <;> rfl

theorem run_getImsi : qsdkNbGetImsi.run nb.handle dialogue =
    ((nb.next (Query.cmd .getImsi) dialogue).succeeded, nb.asked .getImsi dialogue) := by
  have shape : qsdkNbGetImsi = Query.ask .getImsi false fun fields => do
      storeStr fields[0]? fun text table => { table with imsi := text }
      return true := rfl
  rw [shape]
  apply run_ask_of_stores
  intro fields before
  simp only [Query.assign]
  rcases fields[0]? with _ | (value | text) <;> rfl

theorem run_getImei : qsdkNbGetImei.run nb.handle dialogue =
    ((nb.next (Query.cmd .getImei) dialogue).succeeded, nb.asked .getImei dialogue) := by
  have shape : qsdkNbGetImei = Query.ask .getImei false fun fields => do
      storeStr fields[0]? fun text table => { table with imei := text }
      return true := rfl
  rw [shape]
  apply run_ask_of_stores
  intro fields before
  simp only [Query.assign]
  rcases fields[0]? with _ | (value | text) <;> rfl

theorem run_getCsq : qsdkNbGetCsq.run nb.handle dialogue =
    (if (nb.next (Query.cmd .getCsq) dialogue).succeeded then (nb.asked .getCsq dialogue).table.csq
      else -1, nb.asked .getCsq dialogue) := by
  have shape : qsdkNbGetCsq = Query.ask .getCsq (-1) fun fields => do
      storeInt fields[0]? fun value table => { table with csq := value }
      let table ← readTable
      return table.csq := rfl
  rw [shape, @run_ask_of_assigns nb dialogue _ _ _ _ NbDevice.csq]
  intro fields before
  simp only [Query.assign]
  rcases fields[0]? with _ | (value | text) <;> rfl

/-- The test of `qsdk_nb_get_net_connect` -/
def NbDevice.registered (table : NbDevice) : Bool :=
  table.netConnectOk = 1 ∨ table.netConnectOk = 5

theorem run_getNetConnect : qsdkNbGetNetConnect.run nb.handle dialogue =
    ((nb.next (Query.cmd .getNetConnect) dialogue).succeeded &&
      (nb.asked .getNetConnect dialogue).table.registered, nb.asked .getNetConnect dialogue) := by
  have shape : qsdkNbGetNetConnect = Query.ask .getNetConnect false fun fields => do
      storeInt fields[1]? fun value table => { table with netConnectOk := value }
      let table ← readTable
      return decide (table.netConnectOk = 1 ∨ table.netConnectOk = 5) := rfl
  rw [shape, @run_ask_of_assigns nb dialogue _ _ _ _ NbDevice.registered]
  · cases (nb.next (Query.cmd .getNetConnect) dialogue).succeeded <;> rfl
  · intro fields before
    simp only [Query.assign]
    rcases fields[1]? with _ | (value | text) <;> rfl

local instance timeFields_neZero : NeZero 6 :=
  ⟨Nat.succ_ne_zero 5⟩

/-- The time that `qsdk_nb_get_time` sets from the assigned fields. -/
def timeOf (locals : Fin 6 → Int) (fields : List Field) : CivilTime :=
  let value (index : Fin 6) : Int := assignInt (locals index) fields[index.val]?
  qsdkNbSetRtcTime (value 0) (value 1) (value 2) (value 3) (value 4) (value 5)

theorem run_getTime : qsdkNbGetTime.run nb.handle dialogue =
    match nb.next (Query.cmd .getTime) dialogue with
    | .error => (false, nb.asked .getTime dialogue)
    | .ok lines => (true, { nb.asked .getTime dialogue with
        clock := dialogue.clock ++ [timeOf nb.locals (Query.fields .getTime lines)] }) := by
  have shape : qsdkNbGetTime = uninitialised >>= fun stale =>
      Query.ask .getTime false fun fields => do
        .call (.rtcSetTime (timeOf stale fields)) .ret
        return true := rfl
  rw [shape, Program.run_bind]
  change (Query.ask .getTime false _).run nb.handle dialogue = _
  rw [run_ask, NbModule.asked]
  cases nb.next (Query.cmd .getTime) dialogue <;> rfl

theorem run_getConnectStatus : qsdkMqttGetConnectStatus.run nb.handle dialogue =
    match nb.next (Query.cmd .getConnectStatus) dialogue with
    | .error => (-1, nb.asked .getConnectStatus dialogue)
    | .ok lines => (assignInt 0 (Query.fields .getConnectStatus lines)[0]?,
        nb.asked .getConnectStatus dialogue) := by
  have shape : qsdkMqttGetConnectStatus = Query.ask .getConnectStatus (-1) fun fields =>
      return assignInt 0 fields[0]? := by
    apply congrArg fun resume =>
      (.call (Call.execCmd (Query.cmd .getConnectStatus)) resume : Code Int)
    funext answered
    cases answered <;> rfl
  rw [shape, run_ask, NbModule.asked]
  cases nb.next (Query.cmd .getConnectStatus) dialogue <;> rfl

end Runs

/-! ## Parsed answers -/

/-- The conversions of the format. -/
def Query.conversions (query : Query) : List Directive :=
  (directives query.expr).filter Directive.assigns

/-- The fields of a reply, if its line is present and every conversion matched. -/
def Query.parsed (query : Query) : Reply → Option (List Field)
  | .error => none
  | .ok lines =>
      if (query.fields lines).length = query.conversions.length then some (query.fields lines)
      else none

/-- A query with what it reports: whether it succeeded, and the number it
returns if it returns one. -/
def Query.code : Query → Code (Bool × Option Int)
  | .simCheck => do return (← qsdkNbSimCheck, none)
  | .getImsi => do return (← qsdkNbGetImsi, none)
  | .getImei => do return (← qsdkNbGetImei, none)
  | .getTime => do return (← qsdkNbGetTime, none)
  | .getCsq => do
      let csq ← qsdkNbGetCsq
      return (decide (csq ≠ -1), some csq)
  | .getNetConnect => do return (← qsdkNbGetNetConnect, none)
  | .getConnectStatus => do
      let status ← qsdkMqttGetConnectStatus
      return (decide (status ≠ -1), some status)

/-- The fields have arrived where the query puts them. -/
def Query.Delivers (fields : List Field) (number : Option Int) (before after : Dialogue) :
    Query → Prop
  | .simCheck => ∃ value, fields = [.int value] ∧
      after.table = { before.table with simState := value }
  | .getImsi => ∃ text, fields = [.str text] ∧ after.table = { before.table with imsi := text }
  | .getImei => ∃ text, fields = [.str text] ∧ after.table = { before.table with imei := text }
  | .getTime => ∃ year month day hour min sec,
      fields = [.int year, .int month, .int day, .int hour, .int min, .int sec] ∧
      after.clock = before.clock ++ [qsdkNbSetRtcTime year month day hour min sec]
  | .getCsq => ∃ value, fields = [.int value] ∧ number = some value ∧
      after.table = { before.table with csq := value }
  | .getNetConnect => ∃ mode value, fields = [.int mode, .int value] ∧
      after.table = { before.table with netConnectOk := value }
  | .getConnectStatus => ∃ value, fields = [.int value] ∧ number = some value

/-- A query delivers the value of a parsed answer; without one it reports failure
and changes neither the table nor the clock. -/
def Query.Faithful (query : Query) (nb : NbModule) (before : Dialogue) : Prop :=
  let result := query.code.run nb.handle before
  match query.parsed (nb.next query.cmd before) with
  | some fields => query.Delivers fields result.1.2 before result.2
  | none => result.1.1 = false ∧ result.2.table = before.table ∧ result.2.clock = before.clock

/-- The fields of a query are of the kinds that its format says. -/
theorem directives_fields (query : Query) (lines : List Bytes) :
    (query.fields lines).map Field.directive <+: query.conversions := by
  rw [Query.fields, parseArgs]
  cases query.line lines with
  | none => exact List.nil_prefix
  | some text => exact map_directive_scan _ _

theorem kinds_of_parsed {query : Query} {reply : Reply} {fields : List Field}
    (parsed : query.parsed reply = some fields) :
    fields.map Field.directive = query.conversions ∧
      ∃ lines, reply = .ok lines ∧ fields = query.fields lines := by
  cases reply with
  | error => contradiction
  | ok lines =>
      rw [Query.parsed] at parsed
      split at parsed
      · rename_i complete
        cases parsed
        refine ⟨(directives_fields query lines).eq_of_length ?_, lines, rfl, rfl⟩
        rw [List.length_map, complete]
      · contradiction

/-- The queries for one number. -/
theorem conversions_int {query : Query} (number : query ∈ [.simCheck, .getCsq, .getConnectStatus]) :
    query.conversions = [.int] := by
  simp only [List.mem_cons, List.not_mem_nil, or_false] at number
  rcases number with rfl | rfl | rfl <;> decide +kernel

theorem conversions_str {query : Query} (text : query ∈ [.getImsi, .getImei]) :
    query.conversions = [.str] := by
  simp only [List.mem_cons, List.not_mem_nil, or_false] at text
  rcases text with rfl | rfl <;> decide +kernel

theorem conversions_net : Query.conversions .getNetConnect = [.int, .int] := by
  decide +kernel

theorem conversions_time : Query.conversions .getTime = [.int, .int, .int, .int, .int, .int] := by
  decide +kernel

/-! ## What a query leaves and reports -/

section Code

variable (nb : NbModule) (before : Dialogue)

theorem run_code_table (query : Query) :
    (query.code.run nb.handle before).2.table =
      query.stored (nb.next query.cmd before) before.table := by
  cases query with
  | getTime =>
      simp only [Query.code, Program.run_bind, run_getTime, NbModule.asked]
      cases nb.next (Query.cmd .getTime) before <;> rfl
  | getConnectStatus =>
      simp only [Query.code, Program.run_bind, run_getConnectStatus, NbModule.asked]
      cases nb.next (Query.cmd .getConnectStatus) before <;> rfl
  | _ =>
      simp only [Query.code, Program.run_bind, run_simCheck, run_getImsi, run_getImei, run_getCsq,
        run_getNetConnect]
      rfl

theorem run_code_clock {query : Query} (other : query ≠ .getTime) :
    (query.code.run nb.handle before).2.clock = before.clock := by
  cases query with
  | getTime => contradiction
  | getConnectStatus =>
      simp only [Query.code, Program.run_bind, run_getConnectStatus, NbModule.asked]
      cases nb.next (Query.cmd .getConnectStatus) before <;> rfl
  | _ =>
      simp only [Query.code, Program.run_bind, run_simCheck, run_getImsi, run_getImei, run_getCsq,
        run_getNetConnect]
      rfl

/-- Behind an error every query reports failure. -/
theorem run_code_of_error {query : Query} (reply : nb.next query.cmd before = .error) :
    (query.code.run nb.handle before).1.1 = false ∧
      (query.code.run nb.handle before).2.table = before.table ∧
      (query.code.run nb.handle before).2.clock = before.clock := by
  refine ⟨?_, ?_, ?_⟩
  · cases query <;> simp only [Query.code, Program.run_bind, run_simCheck, run_getImsi, run_getImei,
      run_getTime, run_getCsq, run_getNetConnect, run_getConnectStatus, reply] <;> rfl
  · rw [run_code_table, reply]
    rfl
  · by_cases time : query = .getTime
    · subst time
      simp only [Query.code, Program.run_bind, run_getTime, reply]
      rfl
    · exact run_code_clock nb before time

/-- Without an error the queries report success, whatever the lines say, except
that two of them look at the value in the table. -/
theorem run_code_of_ok {query : Query} {lines : List Bytes}
    (reply : nb.next query.cmd before = .ok lines) :
    (query.code.run nb.handle before).1.1 =
      match query with
      | .getCsq => decide ((query.assign before.table (query.fields lines)).csq ≠ -1)
      | .getNetConnect => (query.assign before.table (query.fields lines)).registered
      | .getConnectStatus => decide (assignInt 0 (query.fields lines)[0]? ≠ -1)
      | _ => true := by
  cases query <;> simp only [Query.code, Program.run_bind, run_simCheck, run_getImsi, run_getImei,
    run_getTime, run_getCsq, run_getNetConnect, run_getConnectStatus, NbModule.asked, reply] <;> rfl

end Code

/-- A parsed answer is delivered. -/
theorem delivers_of_parsed {query : Query} {nb : NbModule} {before : Dialogue} {fields : List Field}
    (parsed : query.parsed (nb.next query.cmd before) = some fields) :
    query.Delivers fields (query.code.run nb.handle before).1.2 before
      (query.code.run nb.handle before).2 := by
  rcases kinds_of_parsed parsed with ⟨kinds, lines, reply, rfl⟩
  have table := run_code_table nb before query
  rw [reply, Query.stored] at table
  cases query with
  | simCheck =>
      rw [conversions_int (by decide)] at kinds
      simp only [List.map_eq_cons_iff, List.map_eq_nil_iff, Field.directive_eq_int_iff] at kinds
      rcases kinds with ⟨_, _, same, ⟨value, rfl⟩, rfl⟩
      refine ⟨value, same, ?_⟩
      rw [table, same]
      rfl
  | getImsi | getImei =>
      rw [conversions_str (by decide)] at kinds
      simp only [List.map_eq_cons_iff, List.map_eq_nil_iff, Field.directive_eq_str_iff] at kinds
      rcases kinds with ⟨_, _, same, ⟨text, rfl⟩, rfl⟩
      refine ⟨text, same, ?_⟩
      rw [table, same]
      rfl
  | getTime =>
      rw [conversions_time] at kinds
      simp only [List.map_eq_cons_iff, List.map_eq_nil_iff, Field.directive_eq_int_iff] at kinds
      rcases kinds with ⟨_, _, same, ⟨year, rfl⟩, _, _, rfl, ⟨month, rfl⟩, _, _, rfl, ⟨day, rfl⟩,
        _, _, rfl, ⟨hour, rfl⟩, _, _, rfl, ⟨min, rfl⟩, _, _, rfl, ⟨sec, rfl⟩, rfl⟩
      refine ⟨year, month, day, hour, min, sec, same, ?_⟩
      simp only [Query.code, Program.run_bind, run_getTime, reply, same]
      rfl
  | getCsq =>
      rw [conversions_int (by decide)] at kinds
      simp only [List.map_eq_cons_iff, List.map_eq_nil_iff, Field.directive_eq_int_iff] at kinds
      rcases kinds with ⟨_, _, same, ⟨value, rfl⟩, rfl⟩
      refine ⟨value, same, ?_, ?_⟩
      · simp only [Query.code, Program.run_bind, run_getCsq, NbModule.asked, reply, Query.stored,
          same]
        rfl
      · rw [table, same]
        rfl
  | getNetConnect =>
      rw [conversions_net] at kinds
      simp only [List.map_eq_cons_iff, List.map_eq_nil_iff, Field.directive_eq_int_iff] at kinds
      rcases kinds with ⟨_, _, same, ⟨mode, rfl⟩, _, _, rfl, ⟨value, rfl⟩, rfl⟩
      refine ⟨mode, value, same, ?_⟩
      rw [table, same]
      rfl
  | getConnectStatus =>
      rw [conversions_int (by decide)] at kinds
      simp only [List.map_eq_cons_iff, List.map_eq_nil_iff, Field.directive_eq_int_iff] at kinds
      rcases kinds with ⟨_, _, same, ⟨value, rfl⟩, rfl⟩
      refine ⟨value, same, ?_⟩
      simp only [Query.code, Program.run_bind, run_getConnectStatus, reply, same]
      rfl

/-- Without a parsed answer a successful command leaves a query without its last
field. -/
theorem getLast_field_eq_none {query : Query} {lines : List Bytes}
    (missing : query.parsed (.ok lines) = none) :
    (query.fields lines)[query.conversions.length - 1]? = none := by
  rw [Query.parsed] at missing
  split at missing
  · contradiction
  · rename_i incomplete
    have within := (directives_fields query lines).length_le
    rw [List.length_map] at within
    rw [List.getElem?_eq_none_iff]
    omega

/-- A query delivers parsed answers only, if and only if its command fails, its
answer is parsed, or the value of the table that it returns or tests in place of
the missing one reads as a failure. -/
theorem faithful_iff (query : Query) (nb : NbModule) (before : Dialogue) :
    query.Faithful nb before ↔
      nb.next query.cmd before = .error ∨ query.parsed (nb.next query.cmd before) ≠ none ∨
        query = .getCsq ∧ before.table.csq = -1 ∨
        query = .getNetConnect ∧ before.table.registered = false := by
  rw [Query.Faithful]
  cases parsed : query.parsed (nb.next query.cmd before) with
  | some fields =>
      exact iff_of_true (delivers_of_parsed parsed)
        (Or.inr (Or.inl (Option.some_ne_none fields)))
  | none =>
      cases reply : nb.next query.cmd before with
      | error => exact iff_of_true (run_code_of_error nb before reply) (Or.inl rfl)
      | ok lines =>
          rw [reply] at parsed
          have missing := getLast_field_eq_none parsed
          have table := run_code_table nb before query
          rw [reply, Query.stored] at table
          simp only [run_code_of_ok nb before reply, table, reduceCtorEq, ne_eq, not_true_eq_false,
            false_or]
          cases query with
          | getCsq =>
              rw [conversions_int (by decide)] at missing
              simp only [List.length_singleton, Nat.sub_self] at missing
              simp [Query.assign, missing, assignInt, run_code_clock]
          | getNetConnect =>
              rw [conversions_net] at missing
              simp only [List.length_cons, List.length_nil, Nat.reduceAdd,
                Nat.add_one_sub_one] at missing
              simp [Query.assign, missing, assignInt, run_code_clock]
          | getConnectStatus =>
              rw [conversions_int (by decide)] at missing
              simp only [List.length_singleton, Nat.sub_self] at missing
              simp [missing, assignInt]
          | simCheck | getImsi | getImei | getTime => simp

/-- A module that answers every command with `OK` alone; the client leaves an
empty line in front of it. -/
def curtModule : NbModule where
  reply _ _ := .ok [ascii "\r", ascii "OK\r"]
  locals _ := 0

/-- `qsdk_nb_sim_check` takes the bare `OK` for an answer. -/
theorem curtModule_not_faithful : ¬ Query.Faithful .simCheck curtModule {} := by
  rintro ⟨reported, _⟩
  contradiction

end BerPiNbiot.Modem
