import GdsSdk.Websocket.AsyncGDSClient
import Mathlib.Data.List.AList
import Mathlib.Logic.Function.Basic

/-!
# The request wrapper

`SyncGDSClient` turns the messages of a client into requests that can be awaited.  A call of
`SendEvent2Async` or `SendQueryAsync` sends its message, registers a task under the identifier of
the message and waits for the task or for its timeout; the callbacks of the listener look the
identifier of an acknowledgement up and complete the task that they find.

The calls and the callbacks are programs of atomic steps over the dictionary of the pending
messages and the tasks.  Every operation on the dictionary and on a task is one step, and so is
the call on the wrapped client.  A task belongs to the call that has created it and goes by the
number of its thread.
-/

namespace Gds

open Transition

/-- A time span, in units of 100 ns. -/
structure TimeSpan where
  ticks : Int64
  deriving DecidableEq

namespace TimeSpan

/-- The milliseconds of a time span, cut off to an integer.  The library divides in floating
point, which makes no difference for less than 28 years. -/
def totalMilliseconds (t : TimeSpan) : Int64 := t.ticks / 10000

/-- A number with leading zeros. -/
def pad (width n : ℕ) : String :=
  String.ofList (List.replicate (width - (toString n).length) '0') ++ toString n

/-- The text of a time span. -/
def text (t : TimeSpan) : String :=
  let ticks := t.ticks.toInt.natAbs
  let seconds := ticks / 10000000
  (if t.ticks < 0 then "-" else "") ++
    (if seconds / 86400 = 0 then "" else toString (seconds / 86400) ++ ".") ++
    pad 2 (seconds / 3600 % 24) ++ ":" ++ pad 2 (seconds / 60 % 60) ++ ":" ++
    pad 2 (seconds % 60) ++
    (if ticks % 10000000 = 0 then "" else "." ++ pad 7 (ticks % 10000000))

end TimeSpan

namespace SyncGDSClient

/-! ## Requests -/

/-- The exceptions that leave a call or a callback of the wrapper. -/
inductive RequestException where
  | argumentNull (paramName : String)
  | argumentOutOfRange (paramName : String)
  | gdsRequest (message : String) (inner : Option ClientException)
  | invalidOperation (message : String)
  | timeout (message : String)
  | invalidCast
  deriving DecidableEq

/-- The acknowledgements that the listener of the wrapper passes on. -/
inductive Ack where
  | event (data : EventAckData)
  | query (data : QueryRequestAckData)

/-- A call of one of the two request methods. -/
inductive Request where
  | sendEvent2Async (operationsStringBlock : Option String) (timeout : TimeSpan)
      (binaryContentsMapping : Option (MsgPack.Dictionary String (Option (List UInt8))))
      (executionPriorityStructure :
        Option (List (Option (List (Option (MsgPack.Dictionary Int32 Bool))))))
      (options : SendOptions)
  | sendQueryAsync (selectStringBlock : Option String) (consistencyTime : ConsistencyType)
      (timeout : TimeSpan) (queryPageSize : Option Int32) (queryType : Option QueryType)
      (options : SendOptions)

namespace Request

def options : Request → SendOptions
  | sendEvent2Async _ _ _ _ options | sendQueryAsync _ _ _ _ _ options => options

def timeout : Request → TimeSpan
  | sendEvent2Async _ timeout _ _ _ | sendQueryAsync _ _ timeout _ _ _ => timeout

/-- The statement of a request. -/
def statement : Request → Option String
  | sendEvent2Async operationsStringBlock _ _ _ _ => operationsStringBlock
  | sendQueryAsync selectStringBlock _ _ _ _ _ => selectStringBlock

/-- The name of the parameter that holds the statement. -/
def statementName : Request → String
  | sendEvent2Async .. => "operationsStringBlock"
  | sendQueryAsync .. => "selectStringBlock"

/-- How the texts of exceptions call a request. -/
def kind : Request → String
  | sendEvent2Async .. => "event"
  | sendQueryAsync .. => "query"

/-- How the text of a timeout calls a request. -/
def ackKind : Request → String
  | sendEvent2Async .. => "Event"
  | sendQueryAsync .. => "Query"

/-- The identifier that a request is registered under: the given one, or that of the given header,
or a new one. -/
def resolveMessageId (request : Request) (newGuid : String) : String :=
  match request.options.messageID with
  | some messageId => messageId
  | none =>
    match request.options.header with
    | none => newGuid
    | some header =>
      match header.messageId with
      | none => newGuid
      | some messageId => messageId

/-- The call on the wrapped client. -/
def send (messageId : String) : Request → SendRequest
  | sendEvent2Async operationsStringBlock _ contents priority options =>
    .event2 operationsStringBlock contents priority ⟨some messageId, options.header⟩
  | sendQueryAsync selectStringBlock consistencyTime timeout queryPageSize queryType options =>
    .queryRequest10 selectStringBlock consistencyTime (some timeout.totalMilliseconds)
      queryPageSize queryType ⟨some messageId, options.header⟩

/-- The cast of the result succeeds. -/
def accepts : Request → Ack → Bool
  | sendEvent2Async .., .event _ | sendQueryAsync .., .query _ => true
  | sendEvent2Async .., .query _ | sendQueryAsync .., .event _ => false

end Request

/-- A request whose arguments were accepted, and the identifier that is there in case that it needs
a new one. -/
structure Call where
  request : Request
  newGuid : String

/-- The identifier of a call. -/
def Call.messageId (c : Call) : String := c.request.resolveMessageId c.newGuid

/-- The checks of the arguments. -/
def Request.start (request : Request) (newGuid : String) : Except RequestException Call :=
  if request.statement = none then throw (.argumentNull request.statementName)
  else if request.timeout.ticks ≤ 0 then throw (.argumentOutOfRange "timeout")
  else return ⟨request, newGuid⟩

/-- The longest delay that a timer takes, in milliseconds. -/
def maxDelay : Int64 := 4294967294

/-! ## The wrapped client -/

/-- A call of `SendMessage` as a whole: the binary that is handed to the socket.  `tested` is the
value of `State` that allows the message, and `shown` the one that is read for the text of the
exception. -/
def sendMessage (cfg : Config) (tested shown : ConnectionState) (header : Option MessageHeader)
    (data : Option MessageData) : Except ClientException (List UInt8) :=
  if tested ≠ .loggedIn then
    throw (.invalidOperation ("Expected state LOGGED_IN but got " ++ shown.asText))
  else
    match header, data with
    | some header, some data =>
      if header.dataType ≠ data.getDataType then
        throw (.invalidOperation
          ("The header and the message data types mismatch! Header: " ++ header.dataType.text ++
            ", Data: " ++ data.getDataType.text))
      else
        match MessageManager.getBinaryFromMessage cfg.wire
            (MessageManager.getMessage header (some data)) with
        | .error e => throw (.serialization e)
        | .ok binary => return binary
    | _, _ => throw .nullReference

/-- What the call leaves in the history of the client. -/
def sendEvent (i : ℕ) : Except ClientException (List UInt8) → Gds.Event
  | .error e => .threw i e
  | .ok binary => .sent i binary

/-- The program of `SendMessage` ends as the call as a whole says. -/
theorem sendMessage_refines (cfg : Config) (i : ℕ) (sh : Gds.Shared)
    (header : Option MessageHeader) (data : Option MessageData) :
    (sh.state = .loggedIn →
      Gds.sendMessage cfg i sh (.testLoggedIn header data) =
        some (sh, .sendMessage (.send header data))) ∧
    (sh.state ≠ .loggedIn →
      Gds.sendMessage cfg i sh (.testLoggedIn header data) = some (sh, .sendMessage .readState)) ∧
    (∀ tested, tested ≠ .loggedIn → Gds.sendMessage cfg i sh .readState =
      some (sh.record (sendEvent i (sendMessage cfg tested sh.state header data)), .done)) ∧
    ∀ shown, Gds.sendMessage cfg i sh (.send header data) =
      some (sh.record (sendEvent i (sendMessage cfg .loggedIn shown header data)), .done) := by
  refine ⟨fun h => ?_, fun h => ?_, fun tested h => ?_, fun shown => ?_⟩
  · simp [Gds.sendMessage, h]
  · simp [Gds.sendMessage, h]
  · unfold sendMessage
    rw [if_pos h]
    rfl
  · unfold sendMessage
    rw [if_neg (not_not.mpr rfl)]
    rcases header with _ | header <;> rcases data with _ | data
    · rfl
    · rfl
    · rfl
    · simp only [Gds.sendMessage]
      split_ifs with htype
      · rfl
      · cases MessageManager.getBinaryFromMessage cfg.wire
          (MessageManager.getMessage header (some data)) <;> rfl

/-- The call on the wrapped client. -/
def Call.send (cfg : Config) (call : Call) (tested shown : ConnectionState) (stamp : Stamp) :
    Except ClientException (List UInt8) :=
  let (header, data) := (call.request.send call.messageId).arguments cfg.userName cfg.timeout stamp
  sendMessage cfg tested shown header data

/-! ## The shared state -/

/-- How a task was completed. -/
inductive Completion where
  | result (ack : Ack)
  | exception (e : RequestException)

/-- What happens in a run.  A number is the thread of a call or of a callback. -/
inductive Event where
  /-- A request was called, and its arguments were accepted. -/
  | called (i : ℕ) (call : Call)
  /-- The client handed the message of a request to its socket. -/
  | handed (i : ℕ) (binary : List UInt8)
  /-- A request was registered under a key. -/
  | registered (i : ℕ) (key : String)
  /-- The timeout of a request elapsed. -/
  | elapsed (i : ℕ)
  /-- A request removed its key. -/
  | cleanedUp (i : ℕ)
  /-- The listener was called with an acknowledgement. -/
  | delivered (i : ℕ) (header : MessageHeader) (ack : Ack)
  | returned (i : ℕ) (ack : Ack)
  | threw (i : ℕ) (e : RequestException)

/-- What the calls and the callbacks share: the pending messages with the task of each, the
completed tasks, and the history, newest first. -/
structure Shared where
  pendingMessages : AList fun _ : String => ℕ
  tasks : ℕ → Option Completion
  log : List Event

namespace Shared

/-- A new wrapper. -/
def init : Shared := ⟨∅, fun _ => none, []⟩

/-- Something happens that changes nothing but the history. -/
@[simp] def record (sh : Shared) (e : Event) : Shared := { sh with log := e :: sh.log }

/-- Register thread `i` under a key. -/
@[simp] def register (sh : Shared) (i : ℕ) (key : String) : Shared :=
  { sh with
    pendingMessages := sh.pendingMessages.insert key i
    log := .registered i key :: sh.log }

/-- Remove a key from the dictionary. -/
@[simp] def remove (sh : Shared) (key : String) : Shared :=
  { sh with pendingMessages := sh.pendingMessages.erase key }

/-- Complete a task, unless it is completed already. -/
def trySet (sh : Shared) (task : ℕ) (completion : Completion) : Shared :=
  match sh.tasks task with
  | some _ => sh
  | none => { sh with tasks := Function.update sh.tasks task (some completion) }

end Shared

/-! ## Program points -/

inductive CallPc where
  | send
  | tryAdd
  | delay
  /-- The timer runs, and may have elapsed. -/
  | whenAny (elapsed : Bool)
  | wait
  | tryRemove (timedOut : Bool)
  | result
  /-- The handler of exceptions. -/
  | catchRemove (e : RequestException)

inductive OnAckPc where
  | tryRemove (header : MessageHeader) (ack : Ack)
  | trySetResult (task : ℕ) (ack : Ack)

/-- The callback remembers which of the entries at its start it has not come to. -/
inductive OnConnectionFailurePc where
  | getEnumerator (cause : String)
  | moveNext (e : RequestException) (unseen : AList fun _ : String => ℕ)
  | trySetException (e : RequestException) (task : ℕ) (unseen : AList fun _ : String => ℕ)
  | clear

/-- The program point of a call or a callback. -/
inductive Pc where
  | call (c : Call) (pc : CallPc)
  | onAck (pc : OnAckPc)
  | onConnectionFailure (pc : OnConnectionFailurePc)
  | done

/-! ## The methods -/

section Methods

variable (cfg : Config) (i : ℕ) (sh : Shared)

/-- `SendEvent2Async` and `SendQueryAsync` before they are registered: the call on the client. -/
def send (tested shown : ConnectionState) (stamp : Stamp) : Pc → Option (Shared × Pc)
  | .call c .send =>
    match c.send cfg tested shown stamp with
    | .error e => some (sh.record (.threw i (.gdsRequest
        ("Failed to send " ++ c.request.kind ++ " to GDS.") (some e))), .done)
    | .ok binary => some (sh.record (.handed i binary), .call c .tryAdd)
  | _ => none

/-- `SendEvent2Async` and `SendQueryAsync` after the send.  `WhenAny` tells which of the two tasks
completed first, and takes the acknowledgement if both are complete when it is called. -/
def sendAsync (c : Call) : CallPc → Option (Shared × Pc)
  | .send => none
  | .tryAdd =>
    if c.messageId ∈ sh.pendingMessages then
      some (sh.record (.threw i (.invalidOperation
        ("Duplicate messageId for " ++ c.request.kind ++ ": " ++ c.messageId))), .done)
    else some (sh.register i c.messageId, .call c .delay)
  | .delay =>
    if maxDelay < c.request.timeout.totalMilliseconds then
      some (sh, .call c (.catchRemove (.argumentOutOfRange "delay")))
    else some (sh, .call c (.whenAny false))
  | .whenAny elapsed =>
    if (sh.tasks i).isSome then some (sh, .call c (.tryRemove false))
    else if elapsed then some (sh, .call c (.tryRemove true))
    else some (sh, .call c .wait)
  | .wait => if (sh.tasks i).isSome then some (sh, .call c (.tryRemove false)) else none
  | .tryRemove timedOut =>
    let sh := (sh.remove c.messageId).record (.cleanedUp i)
    if timedOut then
      some (sh, .call c (.catchRemove (.timeout
        (c.request.ackKind ++ " ACK did not arrive in time (messageId=" ++ c.messageId ++
          ", timeout=" ++ c.request.timeout.text ++ ")."))))
    else some (sh, .call c .result)
  | .result =>
    match sh.tasks i with
    | none => none
    | some (.exception e) => some (sh, .call c (.catchRemove e))
    | some (.result ack) =>
      if c.request.accepts ack then some (sh.record (.returned i ack), .done)
      else some (sh, .call c (.catchRemove .invalidCast))
  | .catchRemove e =>
    some (((sh.remove c.messageId).record (.cleanedUp i)).record (.threw i e), .done)

/-- `OnEventAck3` and `OnQueryRequestAck11`. -/
def onAck : OnAckPc → Option (Shared × Pc)
  | .tryRemove header ack =>
    match header.messageId with
    | none => some (sh.record (.threw i (.argumentNull "key")), .done)
    | some messageId =>
      match sh.pendingMessages.lookup messageId with
      | some task => some (sh.remove messageId, .onAck (.trySetResult task ack))
      -- only logged
      | none => some (sh, .done)
  | .trySetResult task ack => some (sh.trySet task (.result ack), .done)

/-- `OnConnectionFailure`.  The loop ends when it has come to all entries that were there at its
start and are there still. -/
def onConnectionFailure : OnConnectionFailurePc → Option (Shared × Pc)
  | .getEnumerator cause =>
    some (sh, .onConnectionFailure (.moveNext
      (.gdsRequest ("GDS connection failure: " ++ cause) none) sh.pendingMessages))
  | .moveNext _ unseen =>
    if ∀ entry ∈ unseen.entries, sh.pendingMessages.lookup entry.1 ≠ some entry.2 then
      some (sh, .onConnectionFailure .clear)
    else none
  | .trySetException e task unseen =>
    some (sh.trySet task (.exception e), .onConnectionFailure (.moveNext e unseen))
  | .clear => some ({ sh with pendingMessages := ∅ }, .done)

/-- The loop of `OnConnectionFailure` comes to an entry.  The order is open, and entries that were
added after its start may be among them. -/
def visit (key : String) : Pc → Option (Shared × Pc)
  | .onConnectionFailure (.moveNext e unseen) =>
    (sh.pendingMessages.lookup key).map fun task =>
      (sh, .onConnectionFailure (.trySetException e task (unseen.erase key)))
  | _ => none

/-- The timer of a request elapses.  It ends the wait if the task is not complete. -/
def elapse : Pc → Option (Shared × Pc)
  | .call c (.whenAny false) => some (sh.record (.elapsed i), .call c (.whenAny true))
  | .call c .wait =>
    if (sh.tasks i).isSome then none
    else some (sh.record (.elapsed i), .call c (.tryRemove true))
  | _ => none

/-- The next step of a call or a callback. -/
def next : Pc → Option (Shared × Pc)
  | .call c pc => sendAsync i sh c pc
  | .onAck pc => onAck i sh pc
  | .onConnectionFailure pc => onConnectionFailure sh pc
  | .done => none

end Methods

/-! ## The system -/

/-- What may happen next. -/
inductive Label where
  /-- A request is called.  The identifier is there in case that it needs a new one. -/
  | call (request : Request) (newGuid : String)
  /-- The client calls the listener with an acknowledgement. -/
  | acknowledge (header : MessageHeader) (ack : Ack)
  /-- The client calls the listener with the text of a failure. -/
  | fail (cause : String)
  /-- Thread `i` takes its next step. -/
  | step (i : ℕ)
  /-- The request of thread `i` calls the client, whose `State` has these values. -/
  | send (i : ℕ) (tested shown : ConnectionState) (stamp : Stamp)
  /-- The timer of thread `i` elapses. -/
  | elapse (i : ℕ)
  /-- The loop of thread `i` comes to the entry with the key. -/
  | visit (i : ℕ) (key : String)

/-- The thread that moves. -/
def Label.thread : Label → Option ℕ
  | call _ _ | acknowledge _ _ | fail _ => none
  | step i | send i _ _ _ | elapse i | visit i _ => some i

/-- A wrapper: what its threads share, and the calls and callbacks in the order of their start. -/
abbrev Wrapper := Pool Shared Pc

/-- One step of a wrapper. -/
def step (cfg : Config) (s : Wrapper) : Label → Option Wrapper
  | .call request newGuid =>
    match request.start newGuid with
    | .error e => some (s.spawn (s.shared.record (.threw s.threads.length e)) .done)
    | .ok c => some (s.spawn (s.shared.record (.called s.threads.length c)) (.call c .send))
  | .acknowledge header ack =>
    some (s.spawn (s.shared.record (.delivered s.threads.length header ack))
      (.onAck (.tryRemove header ack)))
  | .fail cause => some (s.spawn s.shared (.onConnectionFailure (.getEnumerator cause)))
  | .step i => s.move i (next i)
  | .send i tested shown stamp => s.move i fun sh => send cfg i sh tested shown stamp
  | .elapse i => s.move i (elapse i)
  | .visit i key => s.move i fun sh => visit sh key

/-- A wrapper from its construction on. -/
def system (cfg : Config) : System Wrapper Label where
  init := ⟨Shared.init, []⟩
  step := step cfg

/-- Any order of steps and callbacks. -/
def Unrestricted : Guard Wrapper Label := fun _ _ => True

instance (s : Wrapper) (l : Label) : Decidable (Unrestricted s l) :=
  inferInstanceAs (Decidable True)

end SyncGDSClient

end Gds
