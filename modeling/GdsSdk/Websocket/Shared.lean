import GdsSdk.Websocket.ConnectionState
import GdsSdk.Websocket.Requests

/-!
# The shared state of a client

What the threads of a client share: the `State` word, the `isConnectionClosed` flag, the
countdown that the login waits for, the socket, and the history of what has happened, newest
first.  Of the socket only that is kept which its users can rely on: whether its events are
subscribed to, which of its events have been raised, and whether it has been closed since it was
opened.
-/

namespace Gds

/-- The settings of a client, and the byte format of the MessagePack library it is built on.
The constructor rejects a blank user name and a timeout below one. -/
structure Config where
  wire : MsgPack.WireFormat
  userName : String
  userPassword : Option String
  timeout : Int32
  serveOnTheSameConnection : Bool
  userName_not_blank : userName.toList.any (fun c => !c.isWhitespace)
  timeout_pos : 1 ≤ timeout

/-- The exceptions that leave a method of the client. -/
inductive ClientException where
  | invalidOperation (message : String)
  | nullReference
  | objectDisposed
  | serialization (cause : MessagePackSerializationException)
  deriving DecidableEq

/-- The cause that the listener is given for a failed connection. -/
inductive ConnectionFailure where
  /-- The login was not answered in time. -/
  | timeout (message : String)
  /-- An error of the socket. -/
  | socketError (message : String)
  /-- The socket was closed. -/
  | socketClosed (message : String)
  /-- The login was rejected. -/
  | rejected (header : MessageHeader) (ackData : ConnectionAckData)

/-- What happens in a run.  A number is the thread of a call. -/
inductive Event where
  /-- A value was stored in `State`. -/
  | state (value : ConnectionState)
  /-- A call of `Connect()` returned. -/
  | connectReturned (i : ℕ)
  /-- The thread that `Connect()` started came to its end. -/
  | connectFinished
  /-- `Open()` was called on the socket. -/
  | openSocket
  /-- The login message was handed to the socket. -/
  | login (binary : List UInt8)
  /-- A message was handed to the socket. -/
  | sent (i : ℕ) (binary : List UInt8)
  /-- `Close()` ran to its end. -/
  | closeReturned
  /-- A received message turned out to be an acknowledgement of the login. -/
  | acknowledged (header : MessageHeader) (ackData : ConnectionAckData)
  /-- An acknowledgement was accepted. -/
  | accepted (header : MessageHeader) (ackData : ConnectionAckData)
  | onConnectionSuccess (header : MessageHeader) (ackData : ConnectionAckData)
  | onConnectionFailure (cause : ConnectionFailure)
  | onDisconnect
  /-- A message of another type was passed on to the listener. -/
  | delivered (header : MessageHeader) (data : MessageData)
  /-- An exception left a call or a callback. -/
  | threw (i : ℕ) (e : ClientException)

namespace Event

def isState (value : ConnectionState) : Event → Bool
  | state v => v = value
  | _ => false

def isConnectReturned : Event → Bool
  | connectReturned _ => true
  | _ => false

def isConnectFinished : Event → Bool
  | connectFinished => true
  | _ => false

/-- The events that a closed client should not bring about any more. -/
def isLogin : Event → Bool
  | openSocket | login _ => true
  | _ => false

def isLoginMessage : Event → Bool
  | login _ => true
  | _ => false

def isCloseReturned : Event → Bool
  | closeReturned => true
  | _ => false

def isAcknowledged : Event → Bool
  | acknowledged _ _ => true
  | _ => false

def isSuccess : Event → Bool
  | onConnectionSuccess _ _ => true
  | _ => false

def isFailure : Event → Bool
  | onConnectionFailure _ => true
  | _ => false

def isDisconnect : Event → Bool
  | onDisconnect => true
  | _ => false

end Event

/-- The countdown that the acknowledgement of the login signals. -/
structure Countdown where
  currentCount : ℕ
  disposed : Bool
  deriving DecidableEq

/-- One signal less to wait for.  Signalling fails on a disposed countdown, and when nothing is
left to wait for. -/
def Countdown.signal (c : Countdown) : Except ClientException Countdown :=
  if c.disposed then throw .objectDisposed
  else if c.currentCount = 0 then throw (.invalidOperation
    "Invalid attempt made to decrement the event's count below zero.")
  else return { c with currentCount := c.currentCount - 1 }

/-- What is known of the socket. -/
structure Socket where
  /-- The client has subscribed to the events. -/
  subscribed : Bool
  /-- `Open()` was called. -/
  openCalled : Bool
  /-- `Opened` was raised. -/
  openedRaised : Bool
  /-- `Closed` was raised. -/
  closedRaised : Bool
  /-- `Close()` was called since `Opened` was raised. -/
  closeCalled : Bool
  deriving DecidableEq

/-- The socket is open from its `Opened` event to its `Closed` event. -/
def Socket.isOpen (s : Socket) : Bool := s.openedRaised && !s.closedRaised

/-- The state that the threads of a client share. -/
structure Shared where
  state : ConnectionState
  isConnectionClosed : Bool
  disposed : Bool
  countdown : Countdown
  socket : Socket
  log : List Event

namespace Shared

/-- A new client. -/
def init : Shared where
  state := .notConnected
  isConnectionClosed := true
  disposed := false
  countdown := ⟨1, false⟩
  socket := ⟨false, false, false, false, false⟩
  log := []

/-- Something happens that changes nothing but the history. -/
@[simp] def record (sh : Shared) (e : Event) : Shared := { sh with log := e :: sh.log }

/-- Store a value in `State`. -/
@[simp] def write (sh : Shared) (value : ConnectionState) : Shared :=
  { sh with state := value, log := .state value :: sh.log }

/-- Store a value in `State` if it has the expected one, and return the value it had. -/
def compareExchange (sh : Shared) (value comparand : ConnectionState) :
    ConnectionState × Shared :=
  (sh.state, if sh.state = comparand then sh.write value else sh)

/-- A compare-and-exchange that meets the expected value stores the new one. -/
lemma compareExchange_of_eq {sh : Shared} {value comparand : ConnectionState}
    (h : sh.state = comparand) :
    sh.compareExchange value comparand = (comparand, sh.write value) := by
  rw [compareExchange, if_pos h, h]

/-- A compare-and-exchange that meets another value changes nothing. -/
lemma compareExchange_of_ne {sh : Shared} {value comparand : ConnectionState}
    (h : sh.state ≠ comparand) : sh.compareExchange value comparand = (sh.state, sh) := by
  rw [compareExchange, if_neg h]

/-- Set the `isConnectionClosed` flag. -/
@[simp] def exchange (sh : Shared) (value : Bool) : Shared :=
  { sh with isConnectionClosed := value }

/-- Subscribe to the events of the socket. -/
@[simp] def subscribe (sh : Shared) : Shared :=
  { sh with socket := { sh.socket with subscribed := true } }

/-- Call `Open()` on the socket. -/
@[simp] def openSocket (sh : Shared) : Shared :=
  { sh with socket := { sh.socket with openCalled := true }, log := .openSocket :: sh.log }

/-- Call `Close()` on the socket. -/
@[simp] def closeSocket (sh : Shared) : Shared :=
  { sh with socket := { sh.socket with closeCalled := true } }

/-- Dispose of the countdown. -/
@[simp] def disposeCountdown (sh : Shared) : Shared :=
  { sh with countdown := { sh.countdown with disposed := true } }

/-- The value was stored at some time. -/
def Entered (sh : Shared) (value : ConnectionState) : Prop := sh.log.any (Event.isState value)

instance (sh : Shared) (value : ConnectionState) : Decidable (sh.Entered value) :=
  inferInstanceAs (Decidable (_ = true))

/-- How often the listener was told of a failed connection. -/
def failures (sh : Shared) : ℕ := sh.log.countP Event.isFailure

end Shared

end Gds
