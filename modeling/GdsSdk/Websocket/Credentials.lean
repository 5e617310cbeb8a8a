import GdsSdk.Messages.RoundTrip
import GdsSdk.Websocket.SingleUse

/-!
# The credentials of a login

The login message should carry the user name and the password that the client was configured
with.  Every binary that is handed to the socket as one is the encoding of `loginMessage`, which
its peer decodes with the password that was encoded; so the user name arrives.  The password of
the client does not: what is sent in its place is the text of the object that it is kept in, which
is the same for all passwords.
-/

namespace Gds

open MsgPack Transition AsyncGDSClient

/-- The binary is a login request with this user name, this flag and this password, and without
fragmentation. -/
structure IsLogin (cfg : Config) (binary : List UInt8) (header : MessageHeader)
    (d : ConnectionData) (password : Option String) : Prop where
  decoded : MessageManager.getMessageFromBinary cfg.wire binary =
    .ok ⟨header, some (.connection d)⟩
  userName : header.userName = some cfg.userName
  dataType : header.dataType = .connection
  serveOnTheSameConnection : d.serveOnTheSameConnection = cfg.serveOnTheSameConnection
  fragmentationSupported : d.fragmentationSupported = false
  fragmentationTransmissionUnit : d.fragmentationTransmissionUnit = none
  password : d.password = .ok password

/-- The binary carries the credentials of the client. -/
def CarriesCredentials (cfg : Config) (binary : List UInt8) : Prop :=
  ∃ header d, IsLogin cfg binary header d cfg.userPassword

/-- The password in the login request that the binary decodes to. -/
def SentPassword (cfg : Config) (binary : List UInt8) (password : Option String) : Prop :=
  ∃ header d, MessageManager.getMessageFromBinary cfg.wire binary =
    .ok ⟨header, some (.connection d)⟩ ∧ d.password = .ok password

/-- No password is configured, or one that is the text of the object that it is kept in. -/
def Config.ShowsPassword (cfg : Config) : Prop :=
  cfg.userPassword = none ∨ cfg.userPassword = some "System.Security.SecureString"

/-- The two clients have the same byte format, and both have a password or neither has. -/
structure Config.SameUpToPassword (cfg cfg' : Config) : Prop where
  wire : cfg'.wire = cfg.wire
  password : cfg'.userPassword.isSome = cfg.userPassword.isSome

/-- What is sent as the password. -/
def Config.passwordText (cfg : Config) : Option String :=
  cfg.userPassword.map fun _ => "System.Security.SecureString"

/-- The text is the password only if no password was configured, or that text. -/
lemma Config.passwordText_eq_iff {cfg : Config} :
    cfg.passwordText = cfg.userPassword ↔ cfg.ShowsPassword := by
  unfold passwordText ShowsPassword
  cases cfg.userPassword with
  | none => simp
  | some password => simp [eq_comm]

/-- The text only tells whether there is a password. -/
lemma Config.SameUpToPassword.passwordText_eq {cfg cfg' : Config}
    (h : cfg.SameUpToPassword cfg') : cfg'.passwordText = cfg.passwordText := by
  have hsome := h.password
  unfold passwordText
  cases hp : cfg.userPassword <;> cases hp' : cfg'.userPassword
  case none.none | some.some => rfl
  all_goals simp [hp, hp'] at hsome

/-- Every binary of a login message decodes to a login request with the text in the place of the
password. -/
theorem isLogin_of_loginMessage {cfg : Config} {stamp : Stamp} {binary : List UInt8}
    (h : MessageManager.getBinaryFromMessage cfg.wire (loginMessage cfg stamp) = .ok binary) :
    ∃ header d, IsLogin cfg binary header d cfg.passwordText := by
  obtain ⟨ws, hws, henc⟩ := MessageManager.getBinaryFromMessage_eq_ok.mp h
  have hc := MessageFormatter.covered_serialize hws
  simp only [MessageFormatter.serialize, loginMessage, MessageManager.getMessage,
    bind_eq_ok] at hws
  obtain ⟨dataWs, hdata, ⟨⟩⟩ := hws
  obtain ⟨d', hsame, hreads⟩ := MessageFormatter.reads_serializeData (.connection _) hdata
  have hdecoded := MessageManager.getMessageFromBinary_of_reads hc henc
    (MessageFormatter.reads_of_data hreads)
  cases hsame with
  | @connection _ d hsame =>
    refine ⟨_, d, hdecoded, rfl, rfl, hsame.serveOnTheSameConnection,
      hsame.fragmentationSupported, hsame.fragmentationTransmissionUnit, ?_⟩
    rw [hsame.password]
    unfold Config.passwordText
    cases cfg.userPassword <;> rfl

/-- A binary has at most one password. -/
lemma SentPassword.unique {cfg : Config} {binary : List UInt8} {password password' : Option String}
    (h : SentPassword cfg binary password) (h' : SentPassword cfg binary password') :
    password = password' := by
  obtain ⟨header, d, hdecoded, hpassword⟩ := h
  obtain ⟨header', d', hdecoded', hpassword'⟩ := h'
  rw [hdecoded] at hdecoded'
  cases hdecoded'
  rw [hpassword] at hpassword'
  exact Except.ok.inj hpassword'

lemma IsLogin.sentPassword {cfg : Config} {binary : List UInt8} {header : MessageHeader}
    {d : ConnectionData} {password : Option String} (h : IsLogin cfg binary header d password) :
    SentPassword cfg binary password := ⟨header, d, h.decoded, h.password⟩

/-- A login message carries the credentials exactly if the text is the password. -/
theorem carriesCredentials_of_loginMessage {cfg : Config} {stamp : Stamp} {binary : List UInt8}
    (h : MessageManager.getBinaryFromMessage cfg.wire (loginMessage cfg stamp) = .ok binary) :
    CarriesCredentials cfg binary ↔ cfg.ShowsPassword := by
  obtain ⟨header, d, hlogin⟩ := isLogin_of_loginMessage h
  rw [← Config.passwordText_eq_iff]
  constructor
  · rintro ⟨header', d', hlogin'⟩
    exact hlogin.sentPassword.unique hlogin'.sentPassword
  · intro htext
    rw [htext] at hlogin
    exact ⟨header, d, hlogin⟩

/-- A move that hands over a login message encodes one. -/
lemma Move.login_mem {cfg : Config} {i : ℕ} {sh sh' : Shared} {pc pc' : Pc}
    (h : Move cfg i sh pc sh' pc') {binary : List UInt8} (hlogin : .login binary ∈ sh'.log) :
    .login binary ∈ sh.log ∨ ∃ stamp,
      MessageManager.getBinaryFromMessage cfg.wire (loginMessage cfg stamp) = .ok binary := by
  cases h with
  | loginSent stamp _ hbinary =>
    rcases List.mem_cons.mp hlogin with hlogin | hlogin
    · cases hlogin
      exact .inr ⟨stamp, hbinary⟩
    · exact .inl hlogin
  | _ => exact .inl (by simpa using hlogin)

namespace AsyncGDSClient

variable {cfg cfg' : Config} {ok ok' : Guard Client Label} {s s' : Client}
  {binary binary' : List UInt8}

/-- In every run a binary that was handed over as a login is that of a login message. -/
lemma login_encoded (h : (system cfg).Reachable ok s) (hlogin : .login binary ∈ s.shared.log) :
    ∃ stamp, MessageManager.getBinaryFromMessage cfg.wire (loginMessage cfg stamp) =
      .ok binary := by
  refine h.invariant (I := fun s => .login binary ∈ s.shared.log → ∃ stamp,
    MessageManager.getBinaryFromMessage cfg.wire (loginMessage cfg stamp) = .ok binary)
    (by simp [system, Shared.init]) ?_ hlogin
  intro s l s' hs _ hstep hlogin
  rcases step_cases hstep with ⟨c, -, rfl⟩ | ⟨e, -, -, rfl⟩ | ⟨i, pc, sh', pc', -, -, hm, rfl⟩
  · exact hs hlogin
  · exact hs hlogin
  · rcases hm.login_mem hlogin with hold | hnew
    · exact hs hold
    · exact hnew

/-- A login message that was handed to the socket carries the credentials exactly if no password
is configured, or one that is the text of the object that it is kept in.  Two clients that both
have a password send the same one. -/
theorem carriesCredentials_iff (h : (system cfg).Reachable ok s)
    (hlogin : .login binary ∈ s.shared.log) :
    (CarriesCredentials cfg binary ↔ cfg.ShowsPassword) ∧
      ∀ cfg' ok' s' binary', cfg.SameUpToPassword cfg' → (system cfg').Reachable ok' s' →
        .login binary' ∈ s'.shared.log →
        ∃ password, SentPassword cfg binary password ∧ SentPassword cfg' binary' password := by
  obtain ⟨stamp, hbinary⟩ := login_encoded h hlogin
  refine ⟨carriesCredentials_of_loginMessage hbinary, ?_⟩
  intro cfg' ok' s' binary' hsame h' hlogin'
  obtain ⟨stamp', hbinary'⟩ := login_encoded h' hlogin'
  obtain ⟨header, d, hsent⟩ := isLogin_of_loginMessage hbinary
  obtain ⟨header', d', hsent'⟩ := isLogin_of_loginMessage hbinary'
  rw [hsame.passwordText_eq] at hsent'
  exact ⟨cfg.passwordText, hsent.sentPassword, hsent'.sentPassword⟩

/-- Every login message of a run carries the credentials. -/
def LoginCarriesCredentials (cfg : Config) : Prop :=
  ∀ s binary, (system cfg).Reachable Unrestricted s → .login binary ∈ s.shared.log →
    CarriesCredentials cfg binary

end AsyncGDSClient

/-- In a run that has sent a login message there is one. -/
lemma exists_login {cfg : Config} (h : ∃ s, (system cfg).Reachable Unrestricted s ∧
    s.shared.log.any Event.isLoginMessage = true) :
    ∃ s binary, (system cfg).Reachable Unrestricted s ∧ .login binary ∈ s.shared.log := by
  obtain ⟨s, hreach, hany⟩ := h
  obtain ⟨e, he, hlogin⟩ := List.any_eq_true.mp hany
  cases e with
  | login binary => exact ⟨s, binary, hreach, he⟩
  | _ => cases hlogin

namespace Scenario

/-- The client with a password. -/
def secretCfg : Config := { cfg with userPassword := some "secret" }

lemma secretCfg_not_showsPassword : ¬ secretCfg.ShowsPassword := by
  unfold Config.ShowsPassword
  decide

/-- The client sends a login message. -/
lemma exists_login_secretCfg : ∃ s binary, (system secretCfg).Reachable Unrestricted s ∧
    .login binary ∈ s.shared.log :=
  exists_login (System.exists_reachable (connecting ++ opening 1) (by decide +kernel))

end Scenario

open Scenario in
/-- A login with a password: what is sent in its place is the text of the object that it is kept
in. -/
theorem AsyncGDSClient.not_loginCarriesCredentials : ¬ LoginCarriesCredentials secretCfg := by
  intro hclaim
  obtain ⟨s, binary, hreach, hlogin⟩ := exists_login_secretCfg
  obtain ⟨stamp, hbinary⟩ := login_encoded hreach hlogin
  have hshows := (carriesCredentials_of_loginMessage hbinary).mp (hclaim s binary hreach hlogin)
  exact secretCfg_not_showsPassword hshows

open Scenario in
/-- A login without password carries the credentials, and one with a password does not. -/
theorem AsyncGDSClient.carriesCredentials_login :
    (∃ s binary, (system cfg).Reachable Unrestricted s ∧ .login binary ∈ s.shared.log ∧
      CarriesCredentials cfg binary) ∧
    ∃ s binary, (system secretCfg).Reachable Unrestricted s ∧ .login binary ∈ s.shared.log ∧
      ¬ CarriesCredentials secretCfg binary := by
  have hplain : ∃ s binary, (system cfg).Reachable Unrestricted s ∧
      .login binary ∈ s.shared.log :=
    exists_login (System.exists_reachable (connecting ++ opening 1) (by decide +kernel))
  obtain ⟨s, binary, hreach, hlogin⟩ := hplain
  obtain ⟨s', binary', hreach', hlogin'⟩ := exists_login_secretCfg
  refine ⟨⟨s, binary, hreach, hlogin, (carriesCredentials_iff hreach hlogin).1.mpr (.inl rfl)⟩,
    ⟨s', binary', hreach', hlogin', fun hcarries => ?_⟩⟩
  exact secretCfg_not_showsPassword ((carriesCredentials_iff hreach' hlogin').1.mp hcarries)

end Gds
