import BerPiNbiot.Modem.Urc

/-!
# The AT client's line parser

`client_parser` of `at_client.c` reads the modem's output byte by byte into one
line buffer.  The buffer is zeroed when a line is begun; a line ends at a line
break or as soon as the bytes read so far form a notification.  A notification
is passed on as a pointer to the line buffer, any other line is stored in the
response object of the command in progress.
-/

namespace BerPiNbiot.Modem

open BerPiNbiot.Text

/-- `recv_bufsz`, the second argument of `at_client_init`. -/
def recvBufsz : Nat := 512 * 2 + 100

/-- `struct at_response` -/
structure AtResponse where
  buf : Bytes := []
  bufSize : Nat
  lineNum : Nat
  lineCounts : Nat := 0
  deriving DecidableEq, Repr

/-- `at_resp_status_t` -/
inductive RespStatus
  | ok
  | error
  | timeout
  | buffFull
  deriving DecidableEq, Repr

/-- The fields of `struct at_client` that the parser uses, and its locals.
`recvLine` holds the bytes of the line buffer up to `recv_line_len`; behind them
the buffer is zero. -/
structure AtClient where
  recvLine : Bytes := []
  lastCh : UInt8 := 0
  isFull : Bool := false
  reading : Bool := false
  resp : Option AtResponse := none
  respStatus : RespStatus := .ok
  respNotice : Nat := 0
  deriving DecidableEq, Repr

/-- What the parser hands on at the end of a line. -/
inductive LineResult
  /-- `urc->func(client, client->recv_line_buf, client->recv_line_len)` -/
  | notification (urc : Urc)
  | response
  | ignored
  deriving DecidableEq, Repr

/-- `get_urc_obj` on the bytes read so far. -/
def getUrcObj (line : Bytes) : Option Urc :=
  nbUrcTable.find? fun urc =>
    urc.cmdPrefix.length + cmdSuffix.length ≤ line.length &&
      (urc.cmdPrefix.isPrefixOf line && cmdSuffix.isSuffixOf line)

/-- The C string in the line buffer. -/
def AtClient.text (client : AtClient) : Bytes :=
  client.recvLine.takeWhile (· ≠ 0)

/-- The start of `at_recv_readline`. -/
def AtClient.beginLine (client : AtClient) : AtClient :=
  { client with recvLine := [], lastCh := 0, isFull := false, reading := true }

/-- Store a byte while there is room. -/
def AtClient.store (client : AtClient) (ch : UInt8) : AtClient :=
  if client.recvLine.length < recvBufsz then
    { client with recvLine := client.recvLine ++ [ch] }
  else
    { client with isFull := true }

/-- The line is complete with this byte; `end_sign` is not set. -/
def AtClient.lineEnds (client : AtClient) (ch : UInt8) : Bool :=
  (ch = 10 && client.lastCh = 13) || (getUrcObj client.recvLine).isSome

/-- The result that a response line announces, if it is the last one. -/
def finalStatus (line : Bytes) (resp : AtResponse) : Option RespStatus :=
  if (ascii "OK").isPrefixOf line && resp.lineNum = 0 then some .ok
  else if Found line (ascii "ERROR") || (ascii "FAIL").isPrefixOf line then some .error
  else if resp.lineCounts = resp.lineNum && resp.lineNum ≠ 0 then some .ok
  else none

/-- A line for the command in progress. -/
def AtClient.receiveResponse (client : AtClient) (resp : AtResponse) : AtClient :=
  let line := client.recvLine.dropLast ++ [0]
  let (stored, status) :=
    if resp.buf.length + line.length < resp.bufSize then
      ({ resp with buf := resp.buf ++ line, lineCounts := resp.lineCounts + 1 },
        client.respStatus)
    else
      (resp, .buffFull)
  match finalStatus (line.takeWhile (· ≠ 0)) stored with
  | none =>
      { client with
        recvLine := line, reading := false, resp := some stored, respStatus := status }
  | some final =>
      { client with
        recvLine := line
        reading := false
        resp := none
        respStatus := final
        respNotice := client.respNotice + 1 }

/-- The end of a line in `client_parser`. -/
def AtClient.endLine (client : AtClient) : AtClient × LineResult :=
  if client.isFull then
    ({ client with recvLine := [], reading := false }, .ignored)
  else
    match getUrcObj client.recvLine with
    | some urc => ({ client with reading := false }, .notification urc)
    | none =>
        match client.resp with
        | some resp => (client.receiveResponse resp, .response)
        | none => ({ client with reading := false }, .ignored)

/-- One byte of the modem's output. -/
def AtClient.receiveByte (client : AtClient) (ch : UInt8) : AtClient × Option LineResult :=
  let stored := client.store ch
  if stored.lineEnds ch then
    let (after, result) := stored.endLine
    (after, some result)
  else
    ({ stored with lastCh := ch }, none)

/-- A line that is passed on is complete. -/
theorem receiveByte_notification {client after : AtClient} {ch : UInt8} {urc : Urc}
    (received : client.receiveByte ch = (after, some (.notification urc))) :
    after.reading = false := by
  simp only [AtClient.receiveByte, AtClient.endLine] at received
  split at received
  · split at received
    · cases received
    · split at received
      · cases received
        rfl
      · split at received <;> cases received
  · cases received

end BerPiNbiot.Modem
