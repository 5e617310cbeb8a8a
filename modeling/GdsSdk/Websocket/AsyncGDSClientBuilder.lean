import GdsSdk.Websocket.SingleUse

/-!
# The constructor and the builder of a client

The settings of a client are checked in two places: by the setters of the builder, one at a time,
and by the constructor, all of them.  The defaults come from a third place, the constructor of the
builder, which has none for the ping-pong interval: it stays 0, which the constructor of the client
rejects.  `AsyncGDSClientBuilder.build_iff` says when a builder that was given what it needs builds
a client.

Of the libraries that the constructor is built on only that is kept which it relies on: setting up
the default log, and opening a socket for a URI.
-/

namespace Gds

open Transition

/-- The exceptions that leave the builder and the constructor. -/
inductive ConstructionException where
  | argumentNull (paramName : String)
  | argument (message : String)
  | argumentOutOfRange (paramName : String)
  /-- An exception of a library. -/
  | library (message : String)
  deriving DecidableEq

/-- The libraries for logging and for web sockets. -/
structure Platform (Log Socket : Type) where
  /-- Configure the repository of the entry assembly and get a log from it. -/
  defaultLog : Except ConstructionException Log
  webSocket : String → Except ConstructionException Socket
  isValidURI : String → Bool
  /-- A web socket is created for every valid URI. -/
  webSocket_ok : ∀ uri, isValidURI uri = true → ∃ socket, webSocket uri = .ok socket

/-- The object of a client: its settings, and its threads with the state that they share. -/
structure ClientObject (Listener Log Certificate Socket : Type) where
  listener : Listener
  log : Log
  config : Config
  pingPongInterval : Int32
  pingPongInterval_pos : 1 ≤ pingPongInterval
  websocketClient : Socket
  certificate : Option Certificate
  client : Client

section Constructor

variable {Listener Log Certificate Socket : Type}

/-- The value of the `State` property. -/
def ClientObject.state (c : ClientObject Listener Log Certificate Socket) : ConnectionState :=
  c.client.shared.state

/-- A character that counts as white space. -/
def isWhiteSpace (c : Char) : Bool :=
  (9 ≤ c.toNat && c.toNat ≤ 13) || c.toNat = 0x20 || c.toNat = 0x85 || c.toNat = 0xa0 ||
    c.toNat = 0x1680 || (0x2000 ≤ c.toNat && c.toNat ≤ 0x200a) || c.toNat = 0x2028 ||
    c.toNat = 0x2029 || c.toNat = 0x202f || c.toNat = 0x205f || c.toNat = 0x3000

def isNullOrWhiteSpace : Option String → Bool
  | none => true
  | some s => s.toList.all isWhiteSpace

/-- A text that is not blank has a character that is no blank. -/
lemma any_of_isNullOrWhiteSpace {s : Option String} (h : ¬ isNullOrWhiteSpace s = true) :
    (s.getD "").toList.any (fun c => !c.isWhitespace) = true := by
  cases s with
  | none => exact absurd rfl h
  | some s =>
    rw [Bool.not_eq_true, isNullOrWhiteSpace, List.all_eq_false] at h
    obtain ⟨c, hc, hblank⟩ := h
    refine List.any_eq_true.mpr ⟨c, hc, ?_⟩
    rw [Bool.not_eq_true', ← Bool.not_eq_true]
    intro hspace
    apply hblank
    simp only [Char.isWhitespace, Bool.or_eq_true, decide_eq_true_eq] at hspace
    rcases hspace with ((rfl | rfl) | rfl) | rfl <;> decide

def requireNonNull {α : Type} (o : Option α) (message : String) :
    Except ConstructionException α :=
  match o with
  | none => throw (.argumentNull message)
  | some a => return a

namespace AsyncGDSClient

variable (wire : MsgPack.WireFormat) (P : Platform Log Socket)

/-- The constructor. -/
def new (listener : Option Listener) (uri userName userPassword : Option String)
    (timeout : Int32) (cert : Option Certificate) (log : Option Log) (pingPongInterval : Int32)
    (serveOnTheSameConnection : Bool) :
    Except ConstructionException (ClientObject Listener Log Certificate Socket) := do
  let listener ← requireNonNull listener "The message listener cannot be set to null!"
  let uri ← requireNonNull uri "The URI cannot be set to null!"
  if huserName : isNullOrWhiteSpace userName then
    throw (.argument "The username cannot be null, empty or set to only whitespaces!")
  else if htimeout : timeout < 1 then
    throw (.argumentOutOfRange
      ("The timeout must be to positive! (Specified: " ++ toString timeout.toInt ++ ")"))
  else
    let log ← log.elim P.defaultLog pure
    if hinterval : pingPongInterval < 1 then
      throw (.argumentOutOfRange ("The ping-pong interval must be to positive! (Specified: " ++
        toString pingPongInterval.toInt ++ ")"))
    else
      let config : Config := {
        wire, userPassword, timeout, serveOnTheSameConnection
        userName := userName.getD ""
        userName_not_blank := any_of_isNullOrWhiteSpace huserName
        timeout_pos := Int32.not_lt.mp htimeout }
      let websocketClient ← P.webSocket uri
      -- a certificate is added to the socket, together with leave to accept a self-signed one
      return {
        listener, log, config, pingPongInterval, websocketClient
        pingPongInterval_pos := Int32.not_lt.mp hinterval
        certificate := cert
        client := (system config).init }

end AsyncGDSClient

end Constructor

/-! ## The builder -/

structure AsyncGDSClientBuilder (Listener Log Certificate : Type) where
  listener : Option Listener
  log : Option Log
  uri : Option String
  userName : Option String
  userPassword : Option String
  timeout : Int32
  pingPongInterval : Int32
  serveOnTheSameConnection : Bool
  certificate : Option Certificate

namespace AsyncGDSClientBuilder

variable {Listener Log Certificate Socket : Type}

/-- The constructor of the builder sets the user name, the URI and the timeout.  The other fields
have the default values of their types. -/
def new : AsyncGDSClientBuilder Listener Log Certificate where
  listener := none
  log := none
  uri := some "ws://127.0.0.1:8888/gate"
  userName := some "user"
  userPassword := none
  timeout := 3000
  pingPongInterval := 0
  serveOnTheSameConnection := false
  certificate := none

section Setters

variable (b : AsyncGDSClientBuilder Listener Log Certificate)

def withListener (value : Option Listener) : AsyncGDSClientBuilder Listener Log Certificate :=
  { b with listener := value }

def withLog (value : Option Log) : AsyncGDSClientBuilder Listener Log Certificate :=
  { b with log := value }

def withURI (value : Option String) : AsyncGDSClientBuilder Listener Log Certificate :=
  { b with uri := value }

def withUserName (value : Option String) : AsyncGDSClientBuilder Listener Log Certificate :=
  { b with userName := value }

def withUserPassword (value : Option String) : AsyncGDSClientBuilder Listener Log Certificate :=
  { b with userPassword := value }

def withTimeout (value : Int32) :
    Except ConstructionException (AsyncGDSClientBuilder Listener Log Certificate) :=
  if value < 1 then
    throw (.argument ("Timeout must be positive! Specified: " ++ toString value.toInt))
  else return { b with timeout := value }

def withPingPongInterval (value : Int32) :
    Except ConstructionException (AsyncGDSClientBuilder Listener Log Certificate) :=
  if value < 1 then
    throw (.argument ("Ping-Pong interval must be positive! Specified: " ++ toString value.toInt))
  else return { b with pingPongInterval := value }

def withServeOnTheSameConnection (value : Bool) :
    AsyncGDSClientBuilder Listener Log Certificate :=
  { b with serveOnTheSameConnection := value }

def withCertificate (value : Option Certificate) :
    AsyncGDSClientBuilder Listener Log Certificate :=
  { b with certificate := value }

end Setters

/-- A call of a setter. -/
inductive Setter (Listener Log Certificate : Type) where
  | withListener (value : Option Listener)
  | withLog (value : Option Log)
  | withURI (value : Option String)
  | withUserName (value : Option String)
  | withUserPassword (value : Option String)
  | withTimeout (value : Int32)
  | withPingPongInterval (value : Int32)
  | withServeOnTheSameConnection (value : Bool)
  | withCertificate (value : Option Certificate)

/-- Call a setter, which returns the builder itself. -/
def set (b : AsyncGDSClientBuilder Listener Log Certificate) :
    Setter Listener Log Certificate →
      Except ConstructionException (AsyncGDSClientBuilder Listener Log Certificate)
  | .withListener value => return b.withListener value
  | .withLog value => return b.withLog value
  | .withURI value => return b.withURI value
  | .withUserName value => return b.withUserName value
  | .withUserPassword value => return b.withUserPassword value
  | .withTimeout value => b.withTimeout value
  | .withPingPongInterval value => b.withPingPongInterval value
  | .withServeOnTheSameConnection value => return b.withServeOnTheSameConnection value
  | .withCertificate value => return b.withCertificate value

/-- Call setters one after the other. -/
def setAll : AsyncGDSClientBuilder Listener Log Certificate →
    List (Setter Listener Log Certificate) →
      Except ConstructionException (AsyncGDSClientBuilder Listener Log Certificate)
  | b, [] => return b
  | b, c :: cs => do
    let b ← b.set c
    b.setAll cs

def build (wire : MsgPack.WireFormat) (P : Platform Log Socket)
    (b : AsyncGDSClientBuilder Listener Log Certificate) :
    Except ConstructionException (ClientObject Listener Log Certificate Socket) :=
  AsyncGDSClient.new wire P b.listener b.uri b.userName b.userPassword b.timeout b.certificate
    b.log b.pingPongInterval b.serveOnTheSameConnection

/-- What the user of a builder has to see to: a listener, a valid URI and a user name. -/
structure Supplied (P : Platform Log Socket) (b : AsyncGDSClientBuilder Listener Log Certificate) :
    Prop where
  listener : b.listener.isSome = true
  uri : ∃ uri, b.uri = some uri ∧ P.isValidURI uri = true
  userName : isNullOrWhiteSpace b.userName = false

/-- A builder that was given what it needs builds a client that is not connected, whatever setters
were called otherwise. -/
def BuildsClients (Listener Certificate : Type) (wire : MsgPack.WireFormat)
    (P : Platform Log Socket) : Prop :=
  ∀ (cs : List (Setter Listener Log Certificate)) (b : AsyncGDSClientBuilder Listener Log
    Certificate), new.setAll cs = .ok b → Supplied P b →
    ∃ client, b.build wire P = .ok client ∧ client.state = .notConnected

/-! ## What the setters leave behind -/

section Setters

variable {b b' : AsyncGDSClientBuilder Listener Log Certificate}

/-- A setter keeps the timeout positive, and only `WithPingPongInterval` makes the interval so. -/
lemma set_eq_ok {c : Setter Listener Log Certificate} (h : b.set c = .ok b') :
    (1 ≤ b.timeout → 1 ≤ b'.timeout) ∧
      (1 ≤ b'.pingPongInterval ↔
        1 ≤ b.pingPongInterval ∨ ∃ value, c = .withPingPongInterval value) := by
  cases c with
  | withTimeout value =>
    simp only [set, withTimeout] at h
    split_ifs at h with hvalue
    cases h
    exact ⟨fun _ => Int32.not_lt.mp hvalue, by simp⟩
  | withPingPongInterval value =>
    simp only [set, withPingPongInterval] at h
    split_ifs at h with hvalue
    cases h
    exact ⟨id, by simp [Int32.not_lt.mp hvalue]⟩
  | _ =>
    cases h
    exact ⟨id, by simp [withListener, withLog, withURI, withUserName, withUserPassword,
      withServeOnTheSameConnection, withCertificate]⟩

/-- Setters keep the timeout positive, and the interval is positive in the end if it was so before
or was set. -/
lemma setAll_eq_ok {cs : List (Setter Listener Log Certificate)} (h : b.setAll cs = .ok b') :
    (1 ≤ b.timeout → 1 ≤ b'.timeout) ∧
      (1 ≤ b'.pingPongInterval ↔
        1 ≤ b.pingPongInterval ∨ ∃ value, .withPingPongInterval value ∈ cs) := by
  induction cs generalizing b with
  | nil =>
    cases h
    exact ⟨id, by simp⟩
  | cons c cs ih =>
    obtain ⟨b₁, hset, hothers⟩ := MsgPack.bind_eq_ok.mp h
    obtain ⟨htimeout, hinterval⟩ := set_eq_ok hset
    obtain ⟨htimeout', hinterval'⟩ := ih hothers
    refine ⟨fun ht => htimeout' (htimeout ht), ?_⟩
    rw [hinterval', hinterval, or_assoc]
    simp only [List.mem_cons, exists_or, eq_comm]

end Setters

/-! ## What the constructor accepts -/

section Build

variable {wire : MsgPack.WireFormat} {P : Platform Log Socket}
  {b : AsyncGDSClientBuilder Listener Log Certificate}

/-- A client that was built is not connected. -/
lemma state_of_build {client : ClientObject Listener Log Certificate Socket}
    (h : b.build wire P = .ok client) : client.state = .notConnected := by
  obtain ⟨_, -, h⟩ := MsgPack.bind_eq_ok.mp h
  obtain ⟨_, -, h⟩ := MsgPack.bind_eq_ok.mp h
  split_ifs at h
  · obtain ⟨_, -, h⟩ := MsgPack.bind_eq_ok.mp h
    cases h
  · obtain ⟨_, -, h⟩ := MsgPack.bind_eq_ok.mp h
    obtain ⟨_, -, h⟩ := MsgPack.bind_eq_ok.mp h
    cases h
    rfl

/-- The constructor looks at the log and the interval once the other settings are right. -/
lemma build_of_supplied (hs : Supplied P b) (htimeout : 1 ≤ b.timeout) :
    (∃ client, b.build wire P = .ok client) ↔
      1 ≤ b.pingPongInterval ∧ ∃ log, b.log.elim P.defaultLog pure = .ok log := by
  obtain ⟨listener, hlistener⟩ := Option.isSome_iff_exists.mp hs.listener
  obtain ⟨uri, huri, hvalid⟩ := hs.uri
  obtain ⟨socket, hsocket⟩ := P.webSocket_ok uri hvalid
  have huserName : ¬ isNullOrWhiteSpace b.userName = true := by simp [hs.userName]
  have htimeout' : ¬ b.timeout < 1 := Int32.not_lt.mpr htimeout
  simp only [build, AsyncGDSClient.new, requireNonNull, hlistener, huri, hsocket, dif_neg huserName,
    dif_neg htimeout', pure_bind]
  constructor
  · rintro ⟨client, hclient⟩
    obtain ⟨log, hlog, hclient⟩ := MsgPack.bind_eq_ok.mp hclient
    split_ifs at hclient with hinterval
    exact ⟨Int32.not_lt.mp hinterval, log, hlog⟩
  · rintro ⟨hinterval, log, hlog⟩
    have hinterval' : ¬ b.pingPongInterval < 1 := Int32.not_lt.mpr hinterval
    rw [hlog]
    exact ⟨_, MsgPack.bind_eq_ok.mpr ⟨log, rfl, by rw [dif_neg hinterval']; rfl⟩⟩

/-- A log is there if it was set, or else if the default one can be set up. -/
lemma log_iff : (∃ log, b.log.elim P.defaultLog pure = .ok log) ↔
    b.log.isSome = true ∨ ∃ log, P.defaultLog = .ok log := by
  cases b.log with
  | none => simp
  | some log => simp [Pure.pure, Except.pure]

/-- After any sequence of setters that did not throw and saw to a listener, a valid URI and a user
name, the builder builds a client that is not connected if and only if the ping-pong interval was
set, and a log was set or the default one can be set up. -/
theorem build_iff {cs : List (Setter Listener Log Certificate)} (hset : new.setAll cs = .ok b)
    (hs : Supplied P b) :
    (∃ client, b.build wire P = .ok client ∧ client.state = .notConnected) ↔
      (∃ value, .withPingPongInterval value ∈ cs) ∧
        (b.log.isSome = true ∨ ∃ log, P.defaultLog = .ok log) := by
  have htimeout : 1 ≤ b.timeout := (setAll_eq_ok hset).1 (show (1 : Int32) ≤ 3000 by decide)
  -- the interval of a new builder is not positive
  have hinterval : 1 ≤ b.pingPongInterval ↔
      (1 : Int32) ≤ 0 ∨ ∃ value, .withPingPongInterval value ∈ cs := (setAll_eq_ok hset).2
  have hbuild : (∃ client, b.build wire P = .ok client ∧ client.state = .notConnected) ↔
      ∃ client, b.build wire P = .ok client :=
    exists_congr fun client => and_iff_left_of_imp state_of_build
  rw [hbuild, build_of_supplied hs htimeout, log_iff, hinterval, or_iff_right (by decide)]

end Build

/-! ## A platform -/

/-- A platform on which the default log can be set up and which knows the two schemes of web
sockets. -/
def platform : Platform Unit String where
  defaultLog := return ()
  webSocket uri :=
    if "ws://".toList.isPrefixOf uri.toList || "wss://".toList.isPrefixOf uri.toList then
      return uri
    else throw (.library "Invalid websocket address")
  isValidURI uri := "ws://".toList.isPrefixOf uri.toList || "wss://".toList.isPrefixOf uri.toList
  webSocket_ok uri h := ⟨uri, by rw [if_pos h]; rfl⟩

/-- A new builder that is given a listener, a URI and no ping-pong interval does not build a
client. -/
theorem not_buildsClients : ¬ BuildsClients Unit Unit MsgPack.standard platform := by
  intro hclaim
  let cs : List (Setter Unit Unit Unit) := [.withListener (some ()),
    .withURI (some "ws://192.168.1.105:8888/gate"), .withServeOnTheSameConnection false]
  obtain ⟨b, hb⟩ : ∃ b, new.setAll cs = .ok b := ⟨_, rfl⟩
  have hs : Supplied platform b := by
    cases hb
    exact ⟨rfl, ⟨_, rfl, by decide⟩, by decide⟩
  obtain ⟨client, hbuild, -⟩ := hclaim cs b hb hs
  cases hb
  cases hbuild

/-- With a ping-pong interval it does. -/
theorem build_iff_interval : ∃ (b : AsyncGDSClientBuilder Unit Unit Unit) (client : _),
    b.build MsgPack.standard platform = .ok client ∧ client.state = .notConnected := by
  let cs : List (Setter Unit Unit Unit) := [.withListener (some ()), .withPingPongInterval 10]
  obtain ⟨b, hb⟩ : ∃ b, new.setAll cs = .ok b := ⟨_, rfl⟩
  have hs : Supplied platform b := by
    cases hb
    exact ⟨rfl, ⟨_, rfl, by decide⟩, by decide⟩
  exact ⟨b, (build_iff hb hs).mpr ⟨⟨10, by simp [cs]⟩, .inr ⟨(), rfl⟩⟩⟩

end AsyncGDSClientBuilder

end Gds
