import GdsSdk.Demo.EndToEnd
import GdsSdk.Websocket.AsyncGDSClientBuilder
import GdsSdk.Websocket.Credentials

/-!
# The construction of a wrapper

A wrapper is constructed together with the client that it wraps, by `SyncGDSClient.Create`.
`create_iff` says when that succeeds.  Among the arguments is a password, which has to be there; but
no setter of the builder is given it, so that the client has none, and `created_login` says what
this means for every run: no login carries a password.
-/

namespace Gds

open MsgPack Transition

namespace SyncGDSClient

/-- The object of a wrapper: its log, and its calls with the state that they share. -/
structure WrapperObject (Log : Type) where
  log : Log
  wrapper : Wrapper

section Create

variable {Log Certificate Socket : Type}

/-- The constructor. -/
def new (log : Option Log) : Except ConstructionException (WrapperObject Log) := do
  let log ← requireNonNull log "log"
  return ⟨log, ⟨Shared.init, []⟩⟩

/-- The setters that are called on the builder of the client. -/
def setters (wrapper : WrapperObject Log) (gdsUrl userName : String)
    (pingPongIntervalSeconds : Int32) (serveOnSameConnection : Bool) (log : Log) :
    List (AsyncGDSClientBuilder.Setter (WrapperObject Log) Log Certificate) :=
  [.withListener (some wrapper), .withURI (some gdsUrl), .withUserName (some userName),
    .withPingPongInterval pingPongIntervalSeconds,
    .withServeOnTheSameConnection serveOnSameConnection, .withLog (some log)]

/-- A new client, whose listener is a new wrapper. -/
def create (wire : WireFormat) (P : Platform Log Socket) (gdsUrl userName password : Option String)
    (pingPongIntervalSeconds : Int32) (log : Option Log) (serveOnSameConnection : Bool) :
    Except ConstructionException (ClientObject (WrapperObject Log) Log Certificate Socket) := do
  let gdsUrl ← requireNonNull gdsUrl "gdsUrl"
  let userName ← requireNonNull userName "userName"
  let _ ← requireNonNull password "password"
  let log ← requireNonNull log "log"
  let wrapper ← new (some log)
  let builder ← AsyncGDSClientBuilder.new.setAll
    (setters wrapper gdsUrl userName pingPongIntervalSeconds serveOnSameConnection log)
  builder.build wire P

/-- The session of a client and the wrapper that is its listener. -/
def session (c : ClientObject (WrapperObject Log) Log Certificate Socket) : Session :=
  { Session.init c.config with client := c.client, wrapper := c.listener.wrapper }

/-- What the arguments have to be: the texts and the log are there, the user name is not blank, the
interval is positive, and a web socket can be created for the URI. -/
structure Accepted (P : Platform Log Socket) (gdsUrl userName password : Option String)
    (pingPongIntervalSeconds : Int32) (log : Option Log) : Prop where
  gdsUrl : ∃ uri socket, gdsUrl = some uri ∧ P.webSocket uri = .ok socket
  userName : isNullOrWhiteSpace userName = false
  password : password.isSome = true
  pingPongInterval : 1 ≤ pingPongIntervalSeconds
  log : log.isSome = true

/-- What is known of a client that was created: its settings are the arguments, except for the
password, and it and its wrapper are new. -/
structure CreatedWith (wire : WireFormat) (userName : Option String) (serveOnSameConnection : Bool)
    (c : ClientObject (WrapperObject Log) Log Certificate Socket) : Prop where
  wire : c.config.wire = wire
  userName : some c.config.userName = userName
  userPassword : c.config.userPassword = none
  serveOnTheSameConnection : c.config.serveOnTheSameConnection = serveOnSameConnection
  client : c.client = (AsyncGDSClient.system c.config).init
  wrapper : c.listener.wrapper = (system c.config).init

variable {wire : WireFormat} {P : Platform Log Socket} {gdsUrl userName password : Option String}
  {interval : Int32} {log : Option Log} {serve : Bool}
  {c : ClientObject (WrapperObject Log) Log Certificate Socket}

/-- What is required to be there was there. -/
lemma requireNonNull_eq_ok {α : Type} {o : Option α} {message : String} {a : α} :
    requireNonNull o message = .ok a ↔ o = some a := by
  cases o with
  | none => simp [requireNonNull, throw, throwThe, MonadExceptOf.throw]
  | some b => simp [requireNonNull, Pure.pure, Except.pure]

/-- The builder that `Create` has filled. -/
def builder (wrapper : WrapperObject Log) (uri name : String) (interval : Int32) (serve : Bool)
    (l : Log) : AsyncGDSClientBuilder (WrapperObject Log) Log Certificate :=
  ⟨some wrapper, some l, some uri, some name, none, 3000, interval, serve, none⟩

/-- The setters leave their values in the builder, and nothing else, if the interval is
positive. -/
lemma setAll_setters_eq_ok {wrapper : WrapperObject Log} {uri name : String} {l : Log}
    {b : AsyncGDSClientBuilder (WrapperObject Log) Log Certificate} :
    AsyncGDSClientBuilder.new.setAll (setters wrapper uri name interval serve l) = .ok b ↔
      1 ≤ interval ∧ b = builder wrapper uri name interval serve l := by
  constructor
  · intro h
    obtain ⟨b₁, h₁, h⟩ := bind_eq_ok.mp h
    obtain ⟨b₂, h₂, h⟩ := bind_eq_ok.mp h
    obtain ⟨b₃, h₃, h⟩ := bind_eq_ok.mp h
    cases h₁
    cases h₂
    cases h₃
    obtain ⟨b₄, h₄, h⟩ := bind_eq_ok.mp h
    simp only [AsyncGDSClientBuilder.set, AsyncGDSClientBuilder.withPingPongInterval] at h₄
    split_ifs at h₄ with hinterval
    cases h₄
    cases h
    exact ⟨Int32.not_lt.mp hinterval, rfl⟩
  · rintro ⟨hinterval, rfl⟩
    simp only [setters, AsyncGDSClientBuilder.setAll, AsyncGDSClientBuilder.set,
      AsyncGDSClientBuilder.withPingPongInterval, if_neg (Int32.not_lt.mpr hinterval)]
    rfl

/-- A client that was built has the settings that the builder was given, and no password. -/
lemma createdWith_of_build {wrapper : WrapperObject Log} {uri name : String} {l : Log}
    (hwrapper : wrapper.wrapper = ⟨Shared.init, []⟩)
    (h : (builder wrapper uri name interval serve l).build wire P = .ok c) :
    isNullOrWhiteSpace (some name) = false ∧ (∃ socket, P.webSocket uri = .ok socket) ∧
      CreatedWith wire (some name) serve c := by
  obtain ⟨_, hlistener, h⟩ := bind_eq_ok.mp h
  obtain ⟨_, huri, h⟩ := bind_eq_ok.mp h
  cases requireNonNull_eq_ok.mp hlistener
  cases requireNonNull_eq_ok.mp huri
  split_ifs at h with hname htimeout hinterval
  · obtain ⟨_, -, h⟩ := bind_eq_ok.mp h
    cases h
  · obtain ⟨_, -, h⟩ := bind_eq_ok.mp h
    obtain ⟨socket, hsocket, h⟩ := bind_eq_ok.mp h
    cases h
    refine ⟨Bool.not_eq_true _ ▸ hname, ⟨socket, hsocket⟩, ?_⟩
    exact ⟨rfl, rfl, rfl, rfl, rfl, hwrapper⟩

/-- A client is built from a user name that is not blank, a positive interval and a URI that a
socket can be created for. -/
lemma exists_build {wrapper : WrapperObject Log} {uri name : String} {l : Log} {socket : Socket}
    (hname : isNullOrWhiteSpace (some name) = false) (hinterval : 1 ≤ interval)
    (hsocket : P.webSocket uri = .ok socket) :
    ∃ c : ClientObject (WrapperObject Log) Log Certificate Socket,
      (builder wrapper uri name interval serve l).build wire P = .ok c := by
  have hname' : ¬ isNullOrWhiteSpace (some name) = true := by simp [hname]
  have htimeout : ¬ (3000 : Int32) < 1 := by decide
  have hinterval' : ¬ interval < 1 := Int32.not_lt.mpr hinterval
  simp only [builder, AsyncGDSClientBuilder.build, AsyncGDSClient.new, requireNonNull,
    pure_bind, dif_neg hname', dif_neg htimeout, dif_neg hinterval', hsocket, Option.elim_some]
  exact ⟨_, rfl⟩

/-- A client that was created is one of accepted arguments, and has the settings among them. -/
lemma createdWith_of_create
    (h : create wire P gdsUrl userName password interval log serve = .ok c) :
    Accepted P gdsUrl userName password interval log ∧ CreatedWith wire userName serve c := by
  obtain ⟨uri, huri, h⟩ := bind_eq_ok.mp h
  obtain ⟨name, hname, h⟩ := bind_eq_ok.mp h
  obtain ⟨secret, hsecret, h⟩ := bind_eq_ok.mp h
  obtain ⟨l, hl, h⟩ := bind_eq_ok.mp h
  obtain ⟨wrapper, hwrapper, h⟩ := bind_eq_ok.mp h
  obtain ⟨b, hb, hbuild⟩ := bind_eq_ok.mp h
  obtain ⟨hinterval, rfl⟩ := setAll_setters_eq_ok.mp hb
  cases hwrapper
  obtain ⟨hblank, ⟨socket, hsocket⟩, hc⟩ := createdWith_of_build rfl hbuild
  rw [requireNonNull_eq_ok] at huri hname hsecret hl
  subst huri hname hsecret hl
  exact ⟨⟨⟨uri, socket, rfl, hsocket⟩, hblank, rfl, hinterval, rfl⟩, hc⟩

/-- A client is created just from the arguments that are accepted. -/
theorem create_iff : (∃ c : ClientObject (WrapperObject Log) Log Certificate Socket,
    create wire P gdsUrl userName password interval log serve = .ok c) ↔
      Accepted P gdsUrl userName password interval log := by
  constructor
  · rintro ⟨c, hc⟩
    exact (createdWith_of_create hc).1
  · rintro ⟨⟨uri, socket, rfl, hsocket⟩, hname, hpassword, hinterval, hlog⟩
    obtain ⟨secret, rfl⟩ := Option.isSome_iff_exists.mp hpassword
    obtain ⟨l, rfl⟩ := Option.isSome_iff_exists.mp hlog
    cases userName with
    | none => cases hname
    | some name =>
      let wrapper : WrapperObject Log := ⟨l, ⟨Shared.init, []⟩⟩
      let b : AsyncGDSClientBuilder (WrapperObject Log) Log Certificate :=
        builder wrapper uri name interval serve l
      obtain ⟨c, hc⟩ : ∃ c, b.build wire P = .ok c := exists_build hname hinterval hsocket
      refine ⟨c, ?_⟩
      -- what is required is there, and the setters leave it in the builder
      have hset : AsyncGDSClientBuilder.new.setAll (setters wrapper uri name interval serve l) =
          .ok b := setAll_setters_eq_ok.mpr ⟨hinterval, rfl⟩
      exact bind_eq_ok.mpr ⟨uri, rfl, bind_eq_ok.mpr ⟨name, rfl, bind_eq_ok.mpr ⟨secret, rfl,
        bind_eq_ok.mpr ⟨l, rfl, bind_eq_ok.mpr ⟨wrapper, rfl, bind_eq_ok.mpr ⟨_, hset, hc⟩⟩⟩⟩⟩⟩

/-- In every run of a client and its wrapper from their construction on, with whatever password they
were constructed: every login message that is handed to the socket decodes to a login request with
the user name and the flag that were given, and without a password. -/
theorem created_login {ok : Guard Session Session.Label} {s : Session} {binary : List UInt8}
    (h : create wire P gdsUrl userName password interval log serve = .ok c)
    (hs : (Session.system c.config).Reaches ok (session c) s)
    (hlogin : .login binary ∈ s.client.shared.log) :
    ∃ header d, MessageManager.getMessageFromBinary wire binary =
        .ok ⟨header, some (.connection d)⟩ ∧ header.userName = userName ∧
      d.serveOnTheSameConnection = serve ∧ d.password = .ok none := by
  have hc := (createdWith_of_create h).2
  have hinit : session c = (Session.system c.config).init := by
    rw [session, hc.client, hc.wrapper]
    rfl
  rw [hinit] at hs
  have hreach : (Session.system c.config).Reachable
      (Session.ClientGuard AsyncGDSClient.Unrestricted) s :=
    System.Reachable.mono (fun _ _ _ _ _ => trivial) hs
  obtain ⟨seen, hseen⟩ := System.exists_observed Session.received hreach
  have hclient := System.reachable_of_observe (Session.client_reachable hseen)
  obtain ⟨stamp, hbinary⟩ := AsyncGDSClient.login_encoded hclient hlogin
  obtain ⟨header, d, hsent⟩ := isLogin_of_loginMessage hbinary
  refine ⟨header, d, ?_, ?_, ?_, ?_⟩
  · rw [← hc.wire]
    exact hsent.decoded
  · rw [hsent.userName]
    exact hc.userName
  · rw [hsent.serveOnTheSameConnection]
    exact hc.serveOnTheSameConnection
  · rw [hsent.password, Config.passwordText, hc.userPassword]
    rfl

end Create

/-- A client that was created with a password logs in without it. -/
theorem created_login_secret :
    ∃ (c : ClientObject (WrapperObject Unit) Unit Unit String) (s : Session) (binary : List UInt8),
      create standard AsyncGDSClientBuilder.platform (some "ws://127.0.0.1:8888/gate")
        (some "user") (some "secret") 30 (some ()) true = .ok c ∧
      (Session.system c.config).Reaches (Session.ClientGuard AsyncGDSClient.Unrestricted)
        (session c) s ∧ .login binary ∈ s.client.shared.log ∧
      ∃ header d, MessageManager.getMessageFromBinary standard binary =
        .ok ⟨header, some (.connection d)⟩ ∧ d.password = .ok none := by
  obtain ⟨c, hc⟩ : ∃ c : ClientObject (WrapperObject Unit) Unit Unit String,
      create standard AsyncGDSClientBuilder.platform (some "ws://127.0.0.1:8888/gate")
        (some "user") (some "secret") 30 (some ()) true = .ok c := ⟨_, rfl⟩
  have hrun : ∃ s : Session,
      (Session.system c.config).Reaches (Session.ClientGuard AsyncGDSClient.Unrestricted)
        (session c) s ∧ s.client.shared.log.any Gds.Event.isLoginMessage = true := by
    cases hc
    exact System.exists_reaches Session.Runs.login (by decide +kernel)
  obtain ⟨s, hreach, hany⟩ := hrun
  obtain ⟨e, he, hlogin⟩ := List.any_eq_true.mp hany
  cases e with
  | login binary =>
    obtain ⟨header, d, hdecoded, -, -, hpassword⟩ := created_login hc hreach he
    exact ⟨c, s, binary, hc, hreach, he, header, d, hdecoded, hpassword⟩
  | _ => cases hlogin

end SyncGDSClient

end Gds
