import GdsSdk.Demo.Matching
import GdsSdk.Transition.Simulation

/-!
# The wrapper and its client

A `SyncGDSClient` is the listener of the client that it wraps, and its requests call the send
methods of that client.  A session is the state of both.  Every call of a request on the client is
a thread of the client, and the request goes on with the outcome of that thread; every call of the
listener starts a callback of the wrapper, or ends in an exception if the wrapper has not
overridden the method.

What one of them does to the other is read off the history of the client: the events that a step
of the client adds are passed on in their order.
-/

namespace Gds

open Transition

namespace SyncGDSClient

/-- A wrapper and the client that it wraps. -/
structure Session where
  client : Client
  wrapper : Wrapper
  /-- The request that a thread of the client sends for. -/
  caller : ℕ → Option ℕ
  /-- The messages for which the listener has thrown, newest first. -/
  unhandled : List (MessageHeader × MessageData)
  disposed : Bool
  /-- How many calls of `Dispose()` have found the flag not set and have still to go on. -/
  disposing : ℕ

/-- The acknowledgements that the wrapper has overridden a method for. -/
def Ack.ofData : MessageData → Option Ack
  | .eventAck data => some (.event data)
  | .queryRequestAck data => some (.query data)
  | _ => none

/-- The listener is called with an acknowledgement. -/
def acknowledge (w : Wrapper) (header : MessageHeader) (ack : Ack) : Wrapper :=
  w.spawn (w.shared.record (.delivered w.threads.length header ack))
    (.onAck (.tryRemove header ack))

/-- The listener is called with a failure. -/
def fail (w : Wrapper) (cause : String) : Wrapper :=
  w.spawn w.shared (.onConnectionFailure (.getEnumerator cause))

/-- The call of a request on the client returns, or throws. -/
def resume (j : ℕ) (outcome : Except ClientException (List UInt8)) (sh : Shared) :
    Pc → Option (Shared × Pc)
  | .call c .send =>
    match outcome with
    | .error e => some (sh.record (.threw j (.gdsRequest
        ("Failed to send " ++ c.request.kind ++ " to GDS.") (some e))), .done)
    | .ok binary => some (sh.record (.handed j binary), .call c .tryAdd)
  | _ => none

/-- The request goes on as if the call as a whole had been one step. -/
lemma send_eq_resume {cfg : Config} {j : ℕ} {sh : Shared} {c : Call}
    {tested shown : ConnectionState} {stamp : Stamp} :
    send cfg j sh tested shown stamp (.call c .send) =
      resume j (c.send cfg tested shown stamp) sh (.call c .send) := by
  cases hsend : c.send cfg tested shown stamp <;> simp only [send, resume, hsend]

namespace Session

/-- A new wrapper with a new client. -/
def init (cfg : Config) : Session where
  client := (AsyncGDSClient.system cfg).init
  wrapper := (system cfg).init
  caller := fun _ => none
  unhandled := []
  disposed := false
  disposing := 0

/-- The request that thread `i` of the client sends for goes on. -/
def reply (s : Session) (i : ℕ) (outcome : Except ClientException (List UInt8)) : Session :=
  match s.caller i with
  | none => s
  | some j => (s.wrapper.move j (resume j outcome)).elim s fun wrapper => { s with wrapper }

/-- What an event of the client does to the wrapper.  A failure is reported with the text of its
cause; nothing but the log knows of a success and of a disconnect. -/
def react (text : String) (e : Gds.Event) (s : Session) : Session :=
  match e with
  | .delivered header data =>
    match Ack.ofData data with
    | some ack => { s with wrapper := acknowledge s.wrapper header ack }
    | none => { s with unhandled := (header, data) :: s.unhandled }
  | .onConnectionFailure _ => { s with wrapper := fail s.wrapper text }
  | .sent i binary => s.reply i (.ok binary)
  | .threw i e => s.reply i (.error e)
  | _ => s

/-- The events that a step has added to the history of the client, newest first. -/
def newer (client client' : Client) : List Gds.Event :=
  client'.shared.log.take (client'.shared.log.length - client.shared.log.length)

/-- What may happen next. -/
inductive Label where
  | connect
  | close
  /-- `Dispose()` looks at its flag. -/
  | testDisposed
  /-- `Dispose()` sets its flag and closes the client. -/
  | closeDisposed
  | request (request : Request) (newGuid : String)
  /-- The request of thread `j` calls the client. -/
  | send (j : ℕ) (stamp : Stamp)
  | raise (e : SocketEvent)
  /-- A thread of the client moves.  The text is there in case that it reports a failure. -/
  | client (l : Gds.Label) (text : String)
  /-- A thread of the wrapper moves. -/
  | wrapper (l : SyncGDSClient.Label)

/-- The moves of the wrapper that are its own. -/
def isOwn : SyncGDSClient.Label → Bool
  | .step _ | .elapse _ | .visit _ _ => true
  | .call _ _ | .acknowledge _ _ | .fail _ | .send _ _ _ _ => false

/-- One step of a session. -/
def step (cfg : Config) (s : Session) : Label → Option Session
  | .connect =>
    (AsyncGDSClient.step cfg s.client (.call .connect)).map fun client => { s with client }
  | .close =>
    (AsyncGDSClient.step cfg s.client (.call .close)).map fun client => { s with client }
  | .testDisposed =>
    if s.disposed then some s else some { s with disposing := s.disposing + 1 }
  | .closeDisposed =>
    if s.disposing = 0 then none
    else (AsyncGDSClient.step cfg s.client (.call .close)).map fun client =>
      { s with client, disposed := true, disposing := s.disposing - 1 }
  | .request request newGuid =>
    (SyncGDSClient.step cfg s.wrapper (.call request newGuid)).map fun wrapper =>
      { s with wrapper }
  | .send j stamp =>
    match s.wrapper.threads[j]? with
    | some (.call c .send) =>
      if ∃ i < s.client.threads.length, s.caller i = some j then none
      else (AsyncGDSClient.step cfg s.client
          (.call (.send (c.request.send c.messageId) stamp))).map fun client =>
        { s with client, caller := Function.update s.caller s.client.threads.length (some j) }
    | _ => none
  | .raise e => (AsyncGDSClient.step cfg s.client (.raise e)).map fun client => { s with client }
  | .client l text =>
    if l.thread = none then none
    else (AsyncGDSClient.step cfg s.client l).map fun client =>
      (newer s.client client).foldr (react text) { s with client }
  | .wrapper l =>
    if isOwn l then (SyncGDSClient.step cfg s.wrapper l).map fun wrapper => { s with wrapper }
    else none

/-- A session from its construction on. -/
def system (cfg : Config) : System Session Label where
  init := init cfg
  step := step cfg

/-- The label of the client in a step. -/
def clientLabel (s : Session) : Label → Option Gds.Label
  | .connect => some (.call .connect)
  | .close | .closeDisposed => some (.call .close)
  | .send j stamp =>
    match s.wrapper.threads[j]? with
    | some (.call c .send) => some (.call (.send (c.request.send c.messageId) stamp))
    | _ => none
  | .raise e => some (.raise e)
  | .client l _ => some l
  | .testDisposed | .request _ _ | .wrapper _ => none

/-- The client of a session keeps to a guard. -/
def ClientGuard (ok : Guard Client Gds.Label) : Guard Session Label := fun s l =>
  ∀ l' ∈ clientLabel s l, ok s.client l'

instance (ok : Guard Client Gds.Label) [∀ s l, Decidable (ok s l)] (s : Session) (l : Label) :
    Decidable (ClientGuard ok s l) :=
  inferInstanceAs (Decidable (∀ l' ∈ clientLabel s l, ok s.client l'))

end Session

end SyncGDSClient

end Gds
