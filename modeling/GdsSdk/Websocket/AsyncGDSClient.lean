import GdsSdk.Transition.Pool
import GdsSdk.Websocket.Shared

/-!
# The client

The methods and the socket callbacks of `AsyncGDSClient` as programs of atomic steps.  Every
access to `State`, every operation on the countdown, every call on the socket and every call of
the listener is one step; a program point names the step that comes next.  A client is the pool
of all calls and callbacks that were ever started, and its labels say which of them takes its
next step, which method is called and which event the socket raises.

The callbacks run on threads of their own, so they interleave with each other, with the thread
that `Connect()` starts, and with the calls of the user.
-/

namespace Gds

open Transition

/-! ## Program points -/

/-- Who waits for the end of `Close()`. -/
inductive CloseCaller where
  | user
  | dispose
  /-- The handler of a rejected login. -/
  | rejection (header : MessageHeader) (ackData : ConnectionAckData)

inductive ConnectPc where
  | compareExchange
  | start
  | subscribe
  | openSocket
  | compareExchangeConnecting
  | wait
  | readState
  | writeFailed
  | onConnectionFailure

inductive OnSocketOpenedPc where
  | exchange (stamp : Stamp)
  | compareExchangeConnected (stamp : Stamp)
  | send (stamp : Stamp)
  | compareExchangeLoggingIn

/-- The callback remembers whether it took the connection for closed. -/
inductive OnSocketErrorPc where
  | isConnectionClosed (message : String)
  | closeSocket (message : String)
  | testFailed (message : String) (wasClosed : Bool)
  | testLoggedIn (message : String) (wasClosed : Bool)
  | writeFailed (message : String) (wasClosed : Bool)
  | onConnectionFailure (message : String)

inductive OnSocketClosedPc where
  | exchange
  | testDisconnected
  | compareExchange
  | testFailed
  | onConnectionFailure
  | onDisconnect

inductive OnMessageReceivedPc where
  | decode (binary : List UInt8)
  | signal (header : MessageHeader) (ackData : ConnectionAckData)
  | compareExchange (header : MessageHeader) (ackData : ConnectionAckData)
  | readState
  | onConnectionSuccess (header : MessageHeader) (ackData : ConnectionAckData)
  | onConnectionFailure (header : MessageHeader) (ackData : ConnectionAckData)
  | deliver (header : MessageHeader) (data : MessageData)

inductive ClosePc where
  | testFailed
  | writeDisconnected
  | exchange
  | closeSocket

inductive DisposePc where
  | testDisposed
  | disposeCountdown
  | writeDisposed

inductive SendMessagePc where
  | testLoggedIn (header : Option MessageHeader) (data : Option MessageData)
  | readState
  | send (header : Option MessageHeader) (data : Option MessageData)

/-- The program point of a call or a callback. -/
inductive Pc where
  | connect (pc : ConnectPc)
  | opened (pc : OnSocketOpenedPc)
  | error (pc : OnSocketErrorPc)
  | closed (pc : OnSocketClosedPc)
  | received (pc : OnMessageReceivedPc)
  | close (caller : CloseCaller) (pc : ClosePc)
  | dispose (pc : DisposePc)
  | sendMessage (pc : SendMessagePc)
  | done

/-! ## The methods -/

section Methods

variable (cfg : Config) (i : ℕ) (sh : Shared)

/-- `Connect()`, and from `subscribe` on the thread that it starts.  The wait goes on once the
countdown was signalled. -/
def connect : ConnectPc → Option (Shared × Pc)
  | .compareExchange =>
    let (oldState, sh) := sh.compareExchange .initializing .notConnected
    if oldState = .notConnected then some (sh, .connect .start)
    else some (sh.record (.threw i (.invalidOperation ("Could not initialize the connection as " ++
      "the state is not 'NOT_CONNECTED' (this client was already used)!"))), .done)
  -- the call returns when its thread starts: nothing that is shared depends on which is first
  | .start => some (sh.record (.connectReturned i), .connect .subscribe)
  | .subscribe => some (sh.subscribe, .connect .openSocket)
  | .openSocket => some (sh.openSocket, .connect .compareExchangeConnecting)
  | .compareExchangeConnecting =>
    some ((sh.compareExchange .connecting .initializing).2, .connect .wait)
  | .wait =>
    if sh.countdown.currentCount = 0 then some (sh.record .connectFinished, .done) else none
  | .readState =>
    if sh.state ≠ .failed ∧ sh.state ≠ .disconnected then some (sh, .connect .writeFailed)
    else some (sh.record .connectFinished, .done)
  | .writeFailed => some (sh.write .failed, .connect .onConnectionFailure)
  | .onConnectionFailure =>
    some ((sh.record (.onConnectionFailure (.timeout ("The GDS did not reply within " ++
      toString cfg.timeout.toInt ++ " ms!")))).record .connectFinished, .done)

/-- The login message that `OnSocketOpened` sends.  A secure string shows no more than its type
as text. -/
def loginMessage (stamp : Stamp) : Message :=
  MessageManager.getMessage
    (MessageManager.getHeader (some cfg.userName) none stamp.newGuid stamp.createTime
      stamp.requestTime .connection)
    (some (.connection (MessageManager.getConnectionData cfg.serveOnTheSameConnection
      ((5 : Int32) <<< 16 ||| 1) false none
      (cfg.userPassword.map fun _ => "System.Security.SecureString"))))

def onSocketOpened : OnSocketOpenedPc → Option (Shared × Pc)
  | .exchange stamp => some (sh.exchange false, .opened (.compareExchangeConnected stamp))
  | .compareExchangeConnected stamp =>
    let (oldState, sh) := sh.compareExchange .connected .connecting
    if oldState ≠ .connecting ∧ oldState ≠ .disconnected then
      some (sh.record (.threw i (.invalidOperation
        ("Expected state CONNECTING or DISCONNECTED but got " ++ oldState.asText))), .done)
    else some (sh, .opened (.send stamp))
  | .send stamp =>
    match MessageManager.getBinaryFromMessage cfg.wire (loginMessage cfg stamp) with
    | .error e => some (sh.record (.threw i (.serialization e)), .done)
    | .ok binary => some (sh.record (.login binary), .opened .compareExchangeLoggingIn)
  | .compareExchangeLoggingIn =>
    let (oldState, sh) := sh.compareExchange .loggingIn .connected
    if oldState ≠ .connected ∧ oldState ≠ .disconnected then
      some (sh.record (.threw i (.invalidOperation
        ("Expected state CONNECTED or DISCONNECTED but got " ++ oldState.asText))), .done)
    else some (sh, .done)

def onSocketError : OnSocketErrorPc → Option (Shared × Pc)
  | .isConnectionClosed message =>
    if !sh.isConnectionClosed then some (sh, .error (.closeSocket message))
    else some (sh, .error (.testFailed message true))
  | .closeSocket message => some (sh.closeSocket, .error (.testFailed message false))
  | .testFailed message wasClosed =>
    if sh.state ≠ .failed then some (sh, .error (.testLoggedIn message wasClosed))
    else some (sh, .done)
  | .testLoggedIn message wasClosed =>
    if sh.state ≠ .loggedIn then some (sh, .error (.writeFailed message wasClosed))
    else some (sh, .done)
  | .writeFailed message _ => some (sh.write .failed, .error (.onConnectionFailure message))
  | .onConnectionFailure message =>
    some (sh.record (.onConnectionFailure (.socketError message)), .done)

def onSocketClosed : OnSocketClosedPc → Option (Shared × Pc)
  | .exchange => some (sh.exchange true, .closed .testDisconnected)
  | .testDisconnected =>
    if sh.state = .disconnected then some (sh, .closed .onDisconnect)
    else some (sh, .closed .compareExchange)
  | .compareExchange =>
    let (oldState, sh) := sh.compareExchange .disconnected .loggedIn
    if oldState = .loggedIn then some (sh, .closed .onDisconnect)
    else some (sh, .closed .testFailed)
  | .testFailed =>
    -- a warning is logged, for which `State` is read once more
    if sh.state ≠ .failed then some (sh, .closed .onConnectionFailure) else some (sh, .done)
  | .onConnectionFailure =>
    some (sh.record (.onConnectionFailure (.socketClosed "WebSocket client disconnected")), .done)
  | .onDisconnect => some (sh.record .onDisconnect, .done)

/-- The types of messages that are passed on to the listener as they are. -/
def isDelivered : MessageData → Bool
  | .eventAck _ | .attachmentRequest _ | .attachmentRequestAck _ | .attachmentResponse _
  | .attachmentResponseAck _ | .eventDocument _ | .eventDocumentAck _ | .queryRequestAck _ => true
  | .connection _ | .connectionAck _ | .event _ | .queryRequest _
  | .nextQueryPageRequest _ => false

def onMessageReceived : OnMessageReceivedPc → Option (Shared × Pc)
  | .decode binary =>
    match MessageManager.getMessageFromBinary cfg.wire binary with
    -- only logged
    | .error _ => some (sh, .done)
    | .ok ⟨_, none⟩ => some (sh.record (.threw i .nullReference), .done)
    | .ok ⟨header, some (.connectionAck ackData)⟩ =>
      some (sh.record (.acknowledged header ackData), .received (.signal header ackData))
    | .ok ⟨header, some data⟩ =>
      if isDelivered data then some (sh, .received (.deliver header data)) else some (sh, .done)
  | .signal header ackData =>
    match sh.countdown.signal with
    | .error e => some (sh.record (.threw i e), .done)
    | .ok countdown =>
      some ({ sh with countdown := countdown }, .received (.compareExchange header ackData))
  | .compareExchange header ackData =>
    if ackData.status ≠ .ok then
      let (oldState, sh) := sh.compareExchange .failed .loggingIn
      if oldState ≠ .loggingIn then some (sh, .received .readState)
      else some (sh, .close (.rejection header ackData) .testFailed)
    else
      let (oldState, sh) := sh.compareExchange .loggedIn .loggingIn
      if oldState ≠ .loggingIn then some (sh, .received .readState)
      else some (sh.record (.accepted header ackData),
        .received (.onConnectionSuccess header ackData))
  | .readState =>
    if sh.state ≠ .disconnected then
      some (sh.record (.threw i (.invalidOperation
        ("Expected state LOGGING_IN but got " ++ sh.state.asText))), .done)
    else some (sh, .done)
  | .onConnectionSuccess header ackData =>
    some (sh.record (.onConnectionSuccess header ackData), .done)
  | .onConnectionFailure header ackData =>
    some (sh.record (.onConnectionFailure (.rejected header ackData)), .done)
  | .deliver header data => some (sh.record (.delivered header data), .done)

/-- Where the caller of `Close()` goes on. -/
def CloseCaller.next : CloseCaller → Pc
  | user => .done
  | dispose => .dispose .writeDisposed
  | rejection header ackData => .received (.onConnectionFailure header ackData)

def close (caller : CloseCaller) : ClosePc → Option (Shared × Pc)
  | .testFailed =>
    if sh.state ≠ .failed then some (sh, .close caller .writeDisconnected)
    else some (sh, .close caller .exchange)
  | .writeDisconnected => some (sh.write .disconnected, .close caller .exchange)
  | .exchange => some (sh.exchange true, .close caller .closeSocket)
  | .closeSocket => some (sh.closeSocket.record .closeReturned, caller.next)

def dispose : DisposePc → Option (Shared × Pc)
  | .testDisposed =>
    if !sh.disposed then some (sh, .dispose .disposeCountdown) else some (sh, .done)
  | .disposeCountdown => some (sh.disposeCountdown, .close .dispose .testFailed)
  | .writeDisposed => some ({ sh with disposed := true }, .done)

def sendMessage : SendMessagePc → Option (Shared × Pc)
  | .testLoggedIn header data =>
    if sh.state ≠ .loggedIn then some (sh, .sendMessage .readState)
    else some (sh, .sendMessage (.send header data))
  | .readState => some (sh.record (.threw i (.invalidOperation
      ("Expected state LOGGED_IN but got " ++ sh.state.asText))), .done)
  | .send header data =>
    match header, data with
    | some header, some data =>
      if header.dataType ≠ data.getDataType then
        some (sh.record (.threw i (.invalidOperation
          ("The header and the message data types mismatch! Header: " ++ header.dataType.text ++
            ", Data: " ++ data.getDataType.text))), .done)
      else
        match MessageManager.getBinaryFromMessage cfg.wire
            (MessageManager.getMessage header (some data)) with
        | .error e => some (sh.record (.threw i (.serialization e)), .done)
        | .ok binary => some (sh.record (.sent i binary), .done)
    | _, _ => some (sh.record (.threw i .nullReference), .done)

/-- The next step of a call or a callback. -/
def next : Pc → Option (Shared × Pc)
  | .connect pc => connect cfg i sh pc
  | .opened pc => onSocketOpened cfg i sh pc
  | .error pc => onSocketError sh pc
  | .closed pc => onSocketClosed sh pc
  | .received pc => onMessageReceived cfg i sh pc
  | .close caller pc => close sh caller pc
  | .dispose pc => dispose sh pc
  | .sendMessage pc => sendMessage cfg i sh pc
  | .done => none

/-- The wait for the acknowledgement of the login times out. -/
def expire : Pc → Option (Shared × Pc)
  | .connect .wait =>
    if sh.countdown.currentCount ≠ 0 then some (sh, .connect .readState) else none
  | _ => none

/-- The wait for the acknowledgement of the login finds the countdown disposed, which is only
logged. -/
def abort : Pc → Option (Shared × Pc)
  | .connect .wait =>
    if sh.countdown.disposed then some (sh.record .connectFinished, .done) else none
  | _ => none

end Methods

/-! ## The system -/

/-- The methods that a user may call. -/
inductive Call where
  | connect
  | close
  | dispose
  | send (request : SendRequest) (stamp : Stamp)

/-- The events that the socket may raise. -/
inductive SocketEvent where
  | opened (stamp : Stamp)
  | error (message : String)
  | closed
  | dataReceived (binary : List UInt8)

/-- What may happen next. -/
inductive Label where
  | call (c : Call)
  | raise (e : SocketEvent)
  /-- Thread `i` takes its next step. -/
  | step (i : ℕ)
  /-- The wait of thread `i` times out. -/
  | expire (i : ℕ)
  /-- The wait of thread `i` ends with an exception. -/
  | abort (i : ℕ)

/-- The thread that moves. -/
def Label.thread : Label → Option ℕ
  | call _ | raise _ => none
  | step i | expire i | abort i => some i

/-- The program point at which a call starts. -/
def Call.start (cfg : Config) : Call → Pc
  | connect => .connect .compareExchange
  | close => .close .user .testFailed
  | dispose => .dispose .testDisposed
  | send request stamp =>
    let (header, data) := request.arguments cfg.userName cfg.timeout stamp
    .sendMessage (.testLoggedIn header data)

/-- The program point at which the callback of an event starts. -/
def SocketEvent.start : SocketEvent → Pc
  | opened stamp => .opened (.exchange stamp)
  | error message => .error (.isConnectionClosed message)
  | closed => .closed .exchange
  | dataReceived binary => .received (.decode binary)

/-- An event that is raised is a change of the socket. -/
def SocketEvent.raised : SocketEvent → Socket → Socket
  | opened _, s => { s with openedRaised := true, closeCalled := false }
  | closed, s => { s with closedRaised := true }
  | error _, s | dataReceived _, s => s

/-- The shared state after an event was raised. -/
@[simp] def Shared.raise (sh : Shared) (e : SocketEvent) : Shared :=
  { sh with socket := e.raised sh.socket }

/-- A client: what its threads share, and the calls and callbacks in the order of their start. -/
abbrev Client := Pool Shared Pc

namespace AsyncGDSClient

variable (cfg : Config)

/-- One step of a client.  Events reach it only once it has subscribed to them. -/
def step (s : Client) : Label → Option Client
  | .call c => some (s.spawn s.shared (c.start cfg))
  | .raise e =>
    if s.shared.socket.subscribed then
      some (s.spawn (s.shared.raise e) e.start)
    else none
  | .step i => s.move i (next cfg i)
  | .expire i => s.move i expire
  | .abort i => s.move i abort

/-- A client from its construction on. -/
def system : System Client Label where
  init := ⟨Shared.init, []⟩
  step := step cfg

/-- The socket raises `Opened` and `Closed` at most once each. -/
def RaisedOnce : Guard Client Label := fun s l =>
  match l with
  | .raise (.opened _) => s.shared.socket.openedRaised = false
  | .raise .closed => s.shared.socket.closedRaised = false
  | _ => True

/-- The socket raises `Opened` and `Error` only after `Open()` was called, and receives data only
after `Opened`. -/
def RaisedInOrder : Guard Client Label := fun s l =>
  match l with
  | .raise (.opened _) | .raise (.error _) => s.shared.socket.openCalled = true
  | .raise (.dataReceived _) => s.shared.socket.openedRaised = true
  | _ => True

instance (s : Client) (l : Label) : Decidable (RaisedOnce s l) :=
  match l with
  | .raise (.opened _) | .raise .closed => inferInstanceAs (Decidable (_ = false))
  | .raise (.error _) | .raise (.dataReceived _) | .call _ | .step _ | .expire _ | .abort _ =>
    inferInstanceAs (Decidable True)

instance (s : Client) (l : Label) : Decidable (RaisedInOrder s l) :=
  match l with
  | .raise (.opened _) | .raise (.error _) | .raise (.dataReceived _) =>
    inferInstanceAs (Decidable (_ = true))
  | .raise .closed | .call _ | .step _ | .expire _ | .abort _ => inferInstanceAs (Decidable True)

/-- A socket that keeps to both rules. -/
def SocketRule : Guard Client Label := fun s l => RaisedOnce s l ∧ RaisedInOrder s l

instance (s : Client) (l : Label) : Decidable (SocketRule s l) :=
  inferInstanceAs (Decidable (_ ∧ _))

/-- Any order of steps and events. -/
def Unrestricted : Guard Client Label := fun _ _ => True

instance (s : Client) (l : Label) : Decidable (Unrestricted s l) :=
  inferInstanceAs (Decidable True)

/-- A condition on the moves of a run: what the moving thread must not meet. -/
def WhenMoving (A : Client → ℕ → Pc → Prop) : Guard Client Label := fun s l =>
  ∀ i ∈ l.thread, ∀ pc ∈ s.threads[i]?, A s i pc

instance (A : Client → ℕ → Pc → Prop) [∀ s i pc, Decidable (A s i pc)] (s : Client) (l : Label) :
    Decidable (WhenMoving A s l) :=
  inferInstanceAs (Decidable (∀ i ∈ l.thread, ∀ pc ∈ s.threads[i]?, A s i pc))

end AsyncGDSClient

end Gds
